import Mathlib.Data.List.Pairwise
import Mathlib.Data.List.Perm.Subperm
import InlineCompletion.Proofs.Ghost.Fetches
import InlineCompletion.Proofs.Ghost.Timed

/-!
Input has come to rest before a fetch starts. A fetch may start when its timer fires, when the event
of a timer that was replaced meanwhile is handled, or much later, when the fetch in flight lands
behind which a timer was parked. In all three cases it belongs to an edit or a move that lies at
least the delay behind and that nothing has followed, and no other fetch belongs to it.
-/
namespace InlineCompletion.Ghost
variable {σ : Type} {h : Handled σ} {log : List (Handled σ)} {delay generation time : Nat}

/-! ### Nothing starts before its time -/

namespace Handled

/-- The generation that an edit or a move starts. -/
def starts? (h : Handled σ) : Option Nat :=
  if h.event.isEdit then some (h.loop.session.generation + 1) else none

theorem starts?_eq_some : h.starts? = some generation ↔
    h.event.isEdit = true ∧ h.loop.session.generation + 1 = generation := by
  simp [starts?]

end Handled

namespace EventLoop
variable {l next : EventLoop σ} {event : Event}

/-- What is parked after an event was parked before it or has just been. -/
theorem parked_of_turn {later : List Event} {c : Control} (turn : Turn h c later)
    (parked : c.pending = some generation) :
    h.loop.session.pending = some generation ∨ h.event = .timerFired generation := by
  cases turn with
  | park fired flying =>
    cases parked
    exact .inr fired
  | restart | accept | launch | block => cases parked
  | land | apply | ask | quiet => exact .inl parked

theorem mem_send {other : Event} (member : event ∈ (l.send other).queue) :
    event ∈ l.queue ∨ event = other := by
  unfold send at member
  split at member
  · simpa using member
  · exact .inl member

/-- Between two handled events the timer is only disarmed, and only its event comes up. -/
theorem Arrival.timers (arrival : Arrival l next) :
    (next.timer = l.timer ∨ next.timer = none) ∧
      ∀ generation, .timerFired generation ∈ next.queue → .timerFired generation ∈ l.queue ∨
        ∃ timer, l.timer = some timer ∧ timer.generation = generation ∧ next.timer = none := by
  cases arrival with
  | command event ofHost =>
    obtain ⟨_, sent⟩ := send_frame l event
    refine ⟨.inl (by rw [sent]), fun generation member => .inl ?_⟩
    rcases mem_send member with member | same
    · exact member
    · rw [← same] at ofHost
      cases ofHost
  | fire =>
    unfold fireTimer
    cases armed : l.timer with
    | none => exact ⟨.inl armed, fun generation member => .inl member⟩
    | some timer =>
      obtain ⟨_, sent⟩ := send_frame { l with timer := none } (.timerFired timer.generation)
      have disarmed := congrArg EventLoop.timer sent
      refine ⟨.inr disarmed, fun generation member => ?_⟩
      rcases mem_send member with member | same
      · exact .inl member
      · cases same
        exact .inr ⟨timer, rfl, rfl, disarmed⟩
  | finishFetch place =>
    obtain ⟨_, _, finished⟩ := finishFetch_frame l place
    refine ⟨.inl (by rw [finished]), fun generation member => .inl ?_⟩
    unfold EventLoop.finishFetch at member
    split at member
    · exact (mem_send member).resolve_right nofun
    · exact member
  | finishGeneration place =>
    obtain ⟨_, _, finished⟩ := finishGeneration_frame l place
    refine ⟨.inl (by rw [finished]), fun generation member => .inl ?_⟩
    unfold EventLoop.finishGeneration at member
    split at member
    · exact (mem_send member).resolve_right nofun
    · exact member
  | tick | host => exact ⟨.inl rfl, fun generation member => .inl member⟩

end EventLoop

/-- At this time the edit or move of a generation lies at least the delay behind. -/
def Rested (delay : Nat) (log : List (Handled σ)) (generation time : Nat) : Prop :=
  ∃ edit ∈ log, edit.starts? = some generation ∧ edit.loop.clock + delay ≤ time

theorem Rested.later {after : Nat} (rested : Rested delay log generation time)
    (onward : time ≤ after) : Rested delay log generation after := by
  obtain ⟨edit, member, starts, inTime⟩ := rested
  exact ⟨edit, member, starts, by omega⟩

theorem Rested.append (rested : Rested delay log generation time) (h : Handled σ) :
    Rested delay (log ++ [h]) generation time := by
  obtain ⟨edit, member, starts, inTime⟩ := rested
  exact ⟨edit, List.mem_append_left _ member, starts, inTime⟩

/-- Whatever may start a fetch has waited for its delay, or will have when it does. -/
structure Patient (delay : Nat) (log : List (Handled σ)) (l : EventLoop σ) : Prop where
  armed : ∀ timer, l.timer = some timer → Rested delay log timer.generation timer.due
  fired : ∀ generation, .timerFired generation ∈ l.queue → Rested delay log generation l.clock
  parked : ∀ generation, l.session.pending = some generation →
    Rested delay log generation l.clock

namespace Patient
variable {l next : EventLoop σ} {event : Event} {rest : List Event}

theorem arrive (patient : Patient delay log l) (inTime : l.InTime next) :
    Patient delay log next := by
  obtain ⟨timer, queue⟩ := inTime.arrival.timers
  obtain ⟨change, session⟩ := inTime.arrival.session
  constructor
  case armed =>
    intro armed same
    rcases timer with kept | disarmed
    · exact patient.armed armed (kept.symm.trans same)
    · cases disarmed.symm.trans same
  case fired =>
    intro generation member
    rcases queue generation member with member | ⟨armed, same, rfl, disarmed⟩
    · exact (patient.fired generation member).later inTime.onward
    · have due := inTime.due armed same (by simp [disarmed])
      exact ((patient.armed armed same).later due).later inTime.onward
  case parked =>
    intro generation parked
    rw [session] at parked
    exact (patient.parked generation parked).later inTime.onward

/-- An edit or a move arms a timer that is due after the delay; a timer that fired may be parked. -/
theorem handle {world : Collaborators} (patient : Patient l.session.config.debounceMs log l)
    (queued : l.queue = event :: rest)
    (parks : ∀ generation,
      ({ l with queue := rest }.handle world event).session.pending = some generation →
        l.session.pending = some generation ∨ event = .timerFired generation) :
    Patient l.session.config.debounceMs (log ++ [⟨{ l with queue := rest }, event⟩])
      ({ l with queue := rest }.handle world event) := by
  obtain ⟨clock, frame⟩ := EventLoop.handle_frame world event { l with queue := rest }
  constructor
  case armed =>
    intro timer armed
    rcases frame with ⟨-, same⟩ | ⟨-, disarmed⟩
    · rw [same] at armed
      split at armed
      next edit =>
        cases armed
        refine ⟨_, List.mem_append_right _ (List.mem_singleton_self _), ?_, Nat.le_refl _⟩
        exact Handled.starts?_eq_some.mpr ⟨edit, rfl⟩
      next => exact (patient.armed timer armed).append _
    · cases disarmed.symm.trans armed
  case fired =>
    intro generation member
    rw [clock]
    rcases frame with ⟨same, -⟩ | ⟨emptied, -⟩
    · rw [same] at member
      exact (patient.fired generation (queued ▸ List.mem_cons_of_mem _ member)).append _
    · simp [emptied] at member
  case parked =>
    intro generation parked
    rw [clock]
    rcases parks generation parked with earlier | rfl
    · exact (patient.parked generation earlier).append _
    · exact (patient.fired generation (queued ▸ List.mem_cons_self)).append _

theorem abandon (patient : Patient delay log l) : Patient delay log l.abandon := by
  unfold EventLoop.abandon
  split
  next going =>
    constructor
    case armed => exact nofun
    case fired => exact nofun
    case parked =>
      intro generation parked
      change l.session.dispose.pending = some generation at parked
      rw [Session.dispose, Session.clear_eq] at parked
      cases parked
  next => exact patient

end Patient

/-- A fetch falls due when its timer fires or when it was parked before. -/
theorem Patient.rested {l : EventLoop σ} {event : Event} {rest : List Event} {s : Session σ}
    (patient : Patient delay log l) (queued : l.queue = event :: rest)
    (due : Handled.Due ⟨{ l with queue := rest }, event⟩ generation s) :
    Rested delay log generation l.clock := by
  cases due with
  | fired => exact patient.fired generation (queued ▸ List.mem_cons_self)
  | drained landed free parked =>
    rw [← landed, Session.fetchResolved_pending] at parked
    exact patient.parked generation parked

namespace EventLoop
variable {world : Collaborators} {sink : Sink σ} {config : Config} {l next : EventLoop σ}
  {event : Event}

theorem Run.config_eq (run : Run world sink config log l) : l.session.config = config := by
  obtain ⟨calls, same⟩ := run.session_run
  rw [same]
  exact Session.run_config sink config calls

theorem Run.parked_of_handle {rest : List Event} (run : Run world sink config log l)
    (queued : l.queue = event :: rest)
    (parked : ({ l with queue := rest }.handle world event).session.pending = some generation) :
    l.session.pending = some generation ∨ event = .timerFired generation := by
  rcases run.turn_or_stop queued with rfl | ⟨-, -, turn⟩
  · rw [handle_call world _ rfl, SessionCall.apply, Session.dispose, Session.clear_eq] at parked
    cases parked
  · exact parked_of_turn turn parked

theorem TimedRun.patient (timed : TimedRun world sink config log l) :
    Patient config.debounceMs log l := by
  induction timed with
  | start => constructor <;> exact nofun
  | arrive before inTime ih => exact ih.arrive inTime
  | @handle log l event rest before queued ih =>
    rw [← before.run.config_eq] at ih ⊢
    exact ih.handle queued fun generation parked => before.run.parked_of_handle queued parked
  | abandon before ih => exact ih.abandon

end EventLoop

/-! ### The quiet period -/

/-- A stretch of a history from one edit or move on in which each comes less than the delay after
the one before it, and the last of them. -/
inductive Burst (delay : Nat) : List (Handled σ) → Handled σ → Prop where
  | first {h : Handled σ} (edit : h.event.isEdit = true) : Burst delay [h] h
  | next {stretch : List (Handled σ)} {last h : Handled σ} (burst : Burst delay stretch last)
      (edit : h.event.isEdit = true) (soon : h.loop.clock < last.loop.clock + delay) :
      Burst delay (stretch ++ [h]) h
  | other {stretch : List (Handled σ)} {last h : Handled σ} (burst : Burst delay stretch last)
      (noEdit : h.event.isEdit = false) : Burst delay (stretch ++ [h]) last

/-- A history in which every fetch has waited until input came to rest. -/
structure Debounced (delay : Nat) (log : List (Handled σ)) : Prop where
  /-- A fetch belongs to one edit or move, which lies at least the delay behind, and nothing has
  moved the session on since. -/
  quiet : ∀ before h after request, log = before ++ h :: after → h.fetch? = some request →
    ∃ earlier edit since, before = earlier ++ edit :: since ∧
      edit.starts? = some request.ticket.generation ∧
      edit.loop.clock + delay ≤ h.loop.clock ∧ ∀ other ∈ since, other.movesOn = false
  /-- No two edits or moves start the same generation. -/
  edits : (log.filterMap Handled.starts?).Nodup
  /-- No two fetches belong to the same generation. -/
  once : (issued log).Nodup
  /-- A burst gets no fetch before its last edit or move lies the delay behind, and one at most. -/
  burst : ∀ before stretch last after, log = before ++ stretch ++ after →
    Burst delay stretch last →
      (∀ h ∈ stretch ++ after, h.fetch? ≠ none → last.loop.clock + delay ≤ h.loop.clock) ∧
      ((issued log).filter (· ∈ stretch.filterMap Handled.starts?)).length ≤ 1

/-- What starts a fetch is no edit and no move. -/
theorem Handled.ne_of_isEdit {edit : Handled σ} {request : FetchRequest}
    (handed : h.fetch? = some request) (isEdit : edit.event.isEdit = true) : h ≠ edit := by
  rintro rfl
  cases (Handled.fetch?_of_isEdit isEdit).symm.trans handed

theorem Handled.movesOn_of_starts {h : Handled σ} (starts : h.starts? = some generation) :
    h.movesOn = true := by
  rw [movesOn, (starts?_eq_some.mp starts).1, Bool.true_or]

/-- What lies behind an edit or a move is of an earlier generation. -/
theorem Handled.Past.starts {edit : Handled σ} {l : EventLoop σ} (past : edit.Past l)
    (starts : edit.starts? = some generation) : generation ≤ l.session.generation := by
  have later := past.generation
  rw [Handled.movesOn_of_starts starts, Bool.toNat_true, (Handled.starts?_eq_some.mp starts).2]
    at later
  exact later

namespace EventLoop
variable {world : Collaborators} {sink : Sink σ} {config : Config} {l : EventLoop σ}

/-- The generations that edits and moves start increase. -/
theorem TimedRun.starts_increasing (timed : TimedRun world sink config log l) :
    (log.filterMap Handled.starts?).Pairwise (· < ·) := by
  rw [List.pairwise_filterMap]
  refine timed.ordered.1.imp ?_
  intro first second past generation starts other later
  have := past.starts starts
  have := (Handled.starts?_eq_some.mp later).2
  omega

theorem TimedRun.quiet (timed : TimedRun world sink config log l)
    {before after : List (Handled σ)} {request : FetchRequest} (split : log = before ++ h :: after)
    (handed : h.fetch? = some request) :
    ∃ earlier edit since, before = earlier ++ edit :: since ∧
      edit.starts? = some request.ticket.generation ∧
      edit.loop.clock + config.debounceMs ≤ h.loop.clock ∧
      ∀ other ∈ since, other.movesOn = false := by
  obtain ⟨first, rest, run, queued, same⟩ := timed.handled split
  obtain ⟨current, s, due⟩ := Handled.fetch?_due handed
  have rested : Rested config.debounceMs before request.ticket.generation h.loop.clock := by
    rw [current]
    obtain ⟨loop, event⟩ := h
    subst same
    exact run.patient.rested queued due
  obtain ⟨edit, member, starts, inTime⟩ := rested
  obtain ⟨earlier, since, rfl⟩ := List.append_of_mem member
  refine ⟨earlier, edit, since, rfl, starts, inTime, ?_⟩
  intro other later
  have sorted := timed.ordered.1
  rw [split, List.append_assoc, List.cons_append] at sorted
  have behind := List.pairwise_cons.mp (List.pairwise_append.mp sorted).2.1
  have first := behind.1 other (by simp [later])
  have second := (List.pairwise_append.mp behind.2).2.2 other later h (by simp)
  have := first.starts starts
  have := second.generation
  cases moved : other.movesOn with
  | false => rfl
  | true =>
    simp only [moved, Bool.toNat_true] at this
    omega

/-- Of two events of a history that differ one lies behind the other. -/
theorem TimedRun.either_past (timed : TimedRun world sink config log l) {first second : Handled σ}
    (member : first ∈ log) (other : second ∈ log) (differ : first ≠ second) :
    first.Past second.loop ∨ second.Past first.loop := by
  have symm : Std.Symm fun a b : Handled σ => a.Past b.loop ∨ b.Past a.loop :=
    ⟨fun _ _ => Or.symm⟩
  have either : log.Pairwise fun a b => a.Past b.loop ∨ b.Past a.loop := timed.ordered.1.imp .inl
  exact either.forall member other differ

/-- An edit or a move is known by the generation that it starts. -/
theorem TimedRun.starts_unique (timed : TimedRun world sink config log l) {edit other : Handled σ}
    (member : edit ∈ log) (otherMember : other ∈ log) (starts : edit.starts? = some generation)
    (same : other.starts? = some generation) : edit = other := by
  by_contra differ
  have := (Handled.starts?_eq_some.mp starts).2
  have := (Handled.starts?_eq_some.mp same).2
  rcases timed.either_past member otherMember differ with past | past
  · have := past.starts starts
    omega
  · have := past.starts same
    omega

end EventLoop

namespace Burst
variable {stretch : List (Handled σ)} {last : Handled σ}

theorem head (burst : Burst delay stretch last) :
    ∃ first rest, stretch = first :: rest ∧ first.event.isEdit = true := by
  induction burst with
  | first edit => exact ⟨_, [], rfl, edit⟩
  | next burst edit soon ih | other burst noEdit ih =>
    obtain ⟨first, rest, rfl, edit⟩ := ih
    exact ⟨first, _, rfl, edit⟩

theorem last_mem (burst : Burst delay stretch last) :
    last ∈ stretch ∧ last.event.isEdit = true := by
  induction burst with
  | first edit => exact ⟨List.mem_singleton_self _, edit⟩
  | next burst edit soon ih => exact ⟨by simp, edit⟩
  | other burst noEdit ih => exact ⟨List.mem_append_left _ ih.1, ih.2⟩

/-- Each edit or move of a burst but the last is followed by another before its delay is over. -/
theorem followed (burst : Burst delay stretch last) {edit : Handled σ}
    (sorted : stretch.Pairwise fun first second => first.Past second.loop)
    (member : edit ∈ stretch) (starts : edit.event.isEdit = true) :
    edit = last ∨ ∃ next ∈ stretch, next.event.isEdit = true ∧ edit.Past next.loop ∧
      next.loop.clock < edit.loop.clock + delay := by
  induction burst with
  | first first => exact .inl (List.mem_singleton.mp member)
  | @next stretch last h burst nextEdit soon ih =>
    obtain ⟨before, -, behind⟩ := List.pairwise_append.mp sorted
    rcases List.mem_append.mp member with member | here
    · right
      rcases ih before member with rfl | ⟨next, later, nextStarts, past, sooner⟩
      · exact ⟨h, by simp, nextEdit, behind edit member h (by simp), soon⟩
      · exact ⟨next, List.mem_append_left _ later, nextStarts, past, sooner⟩
    · exact .inl (List.mem_singleton.mp here)
  | @other stretch last h burst noEdit ih =>
    obtain ⟨before, -, -⟩ := List.pairwise_append.mp sorted
    rcases List.mem_append.mp member with member | here
    · rcases ih before member with same | ⟨next, later, nextStarts, past, sooner⟩
      · exact .inl same
      · exact .inr ⟨next, List.mem_append_left _ later, nextStarts, past, sooner⟩
    · obtain rfl := List.mem_singleton.mp here
      cases noEdit.symm.trans starts

end Burst

namespace EventLoop
variable {world : Collaborators} {sink : Sink σ} {config : Config} {l : EventLoop σ}

/-- Of the edits and moves of a burst only the last can get a fetch. -/
theorem TimedRun.last_of_burst (timed : TimedRun world sink config log l)
    {before stretch after : List (Handled σ)} {last edit : Handled σ} {request : FetchRequest}
    (split : log = before ++ stretch ++ after) (burst : Burst config.debounceMs stretch last)
    (member : edit ∈ stretch) (issuing : h ∈ log) (handed : h.fetch? = some request)
    (starts : edit.starts? = some request.ticket.generation)
    (inTime : edit.loop.clock + config.debounceMs ≤ h.loop.clock) : edit = last := by
  have sorted := timed.ordered.1
  rw [split] at sorted
  have inside := (List.pairwise_append.mp (List.pairwise_append.mp sorted).1).2.1
  rcases burst.followed inside member (Handled.starts?_eq_some.mp starts).1 with
    same | ⟨next, later, nextEdit, past, soon⟩
  · exact same
  -- the fetch is handled before the next edit, and so before the delay is over
  · have apart := Handled.ne_of_isEdit handed nextEdit
    have listed : next ∈ log := by simp [split, later]
    have current := (Handled.fetch?_due handed).1
    have newer := past.starts starts
    rcases timed.either_past issuing listed apart with earlier | behind
    · have := earlier.clock
      omega
    · have := behind.starts (Handled.starts?_eq_some.mpr ⟨nextEdit, rfl⟩)
      omega

theorem mem_issued : generation ∈ issued log ↔
    ∃ h ∈ log, ∃ request, h.fetch? = some request ∧ request.ticket.generation = generation := by
  simp [issued]

/-- The fetch of an edit or a move comes when it lies at least the delay behind. -/
theorem TimedRun.inTime (timed : TimedRun world sink config log l) {edit : Handled σ}
    {request : FetchRequest} (issuing : h ∈ log) (handed : h.fetch? = some request)
    (member : edit ∈ log) (starts : edit.starts? = some request.ticket.generation) :
    edit.loop.clock + config.debounceMs ≤ h.loop.clock := by
  obtain ⟨before, after, split⟩ := List.append_of_mem issuing
  obtain ⟨earlier, own, since, rfl, ownStarts, inTime, -⟩ := timed.quiet split handed
  obtain rfl := timed.starts_unique member (by simp [split]) starts ownStarts
  exact inTime

/-- A burst gets its fetch after its last edit or move lies the delay behind. -/
theorem TimedRun.burst_quiet (timed : TimedRun world sink config log l)
    {before stretch after : List (Handled σ)} {last : Handled σ} {request : FetchRequest}
    (split : log = before ++ stretch ++ after) (burst : Burst config.debounceMs stretch last)
    (issuing : h ∈ stretch ++ after) (handed : h.fetch? = some request) :
    last.loop.clock + config.debounceMs ≤ h.loop.clock := by
  have listed : h ∈ log := by
    rw [split, List.append_assoc]
    exact List.mem_append_right _ issuing
  obtain ⟨behind, ahead, place⟩ := List.append_of_mem listed
  obtain ⟨earlier, edit, since, rfl, starts, inTime, -⟩ := timed.quiet place handed
  have listedEdit : edit ∈ before ++ stretch ++ after := by
    rw [← split, place]
    simp
  have sorted := timed.ordered.1
  rw [split, List.append_assoc] at sorted
  obtain ⟨-, inside, across⟩ := List.pairwise_append.mp sorted
  rcases List.mem_append.mp listedEdit with listedEdit | member
  · rcases List.mem_append.mp listedEdit with member | member
    -- the first edit of the burst would be handled between an earlier edit and its fetch
    · obtain ⟨first, rest, rfl, firstEdit⟩ := burst.head
      have past := (across edit member first List.mem_cons_self).starts starts
      have later := (List.mem_cons.mp issuing).resolve_left (Handled.ne_of_isEdit handed firstEdit)
      have newer := ((List.pairwise_cons.mp inside).1 h later).starts
        (Handled.starts?_eq_some.mpr ⟨firstEdit, rfl⟩)
      have := (Handled.fetch?_due handed).1
      omega
    · exact timed.last_of_burst split burst member listed handed starts inTime ▸ inTime
  · have next := (List.pairwise_append.mp inside).2.2 last burst.last_mem.1 edit member
    have := next.clock
    omega

theorem TimedRun.burst_once (timed : TimedRun world sink config log l)
    {before stretch after : List (Handled σ)} {last : Handled σ}
    (split : log = before ++ stretch ++ after) (burst : Burst config.debounceMs stretch last) :
    ((issued log).filter (· ∈ stretch.filterMap Handled.starts?)).length ≤ 1 := by
  have own : (issued log).filter (· ∈ stretch.filterMap Handled.starts?) ⊆
      [last.loop.session.generation + 1] := by
    intro generation member
    obtain ⟨issuing, started⟩ := List.mem_filter.mp member
    obtain ⟨h, listed, request, handed, rfl⟩ := mem_issued.mp issuing
    obtain ⟨edit, member, starts⟩ := List.mem_filterMap.mp (of_decide_eq_true started)
    have inTime := timed.inTime listed handed (by simp [split, member]) starts
    obtain rfl := timed.last_of_burst split burst member listed handed starts inTime
    rw [(Handled.starts?_eq_some.mp starts).2]
    exact List.mem_singleton_self _
  have distinct : (issued log).Nodup := timed.run.issued_increasing.imp Nat.ne_of_lt
  exact (List.subperm_of_subset (distinct.filter _) own).length_le

/-- Every fetch waits until input has come to rest, whatever happens around the loop and however
late its events are handled, and it is what the source was asked. -/
theorem TimedRun.debounced (timed : TimedRun world sink config log l) :
    Debounced config.debounceMs log ∧
      asked l.reports = log.filterMap fun h =>
        h.fetch?.map fun request => (h.loop.clock, request.context) := by
  refine ⟨?_, timed.run.asked_eq⟩
  constructor
  case quiet => exact fun before h after request split handed => timed.quiet split handed
  case edits => exact timed.starts_increasing.imp Nat.ne_of_lt
  case once => exact timed.run.issued_increasing.imp Nat.ne_of_lt
  case burst =>
    intro before stretch last after split burst
    refine ⟨fun h issuing handed => ?_, timed.burst_once split burst⟩
    obtain ⟨request, handed⟩ := Option.ne_none_iff_exists'.mp handed
    exact timed.burst_quiet split burst issuing handed

/-- Two edits half a second apart get one fetch. The cursor moves while that is in flight; the timer
fires behind it, and the next fetch starts when it lands. -/
theorem TimedRun.debounced_parked :
    ∃ (log : List (Handled MemoryEditor)) (l : EventLoop MemoryEditor),
      TimedRun silent blank .standard log l ∧ log.filterMap Handled.starts? = [1, 2, 3] ∧
        (asked l.reports).map Prod.fst = [1500, 3000] ∧ Debounced 1000 log := by
  have edited : TimedRun silent blank .standard _ _ :=
    (TimedRun.start.arrive (.command _ .documentChanged rfl)).handle rfl
  have waited := edited.arrive (.tick _ 500 (by decide))
  have again := (waited.arrive (.command _ .documentChanged rfl)).handle rfl
  have rested := again.arrive (.tick _ 1500 (by decide))
  have fired := rested.arrive (.fire fun _ armed => Option.some.inj armed ▸ Nat.le_refl _)
  have fetching := (fired.handle rfl).arrive (.tick _ 1600 (by decide))
  have moved := (fetching.arrive (.command _ .cursorMoved rfl)).handle rfl
  have still := moved.arrive (.tick _ 2600 (by decide))
  have behind := still.arrive (.fire fun _ armed => Option.some.inj armed ▸ Nat.le_refl _)
  have parked := (behind.handle rfl).arrive (.tick _ 3000 (by decide))
  have landed := (parked.arrive (.finishFetch _ 0)).handle rfl
  exact ⟨_, _, landed, rfl, rfl, landed.debounced.1⟩

end EventLoop
end InlineCompletion.Ghost
