import InlineCompletion.Proofs.Ghost.SingleFlight

/-!
No edit gets lost. After an edit or a move its generation waits for its timer, behind an older fetch
or for its own fetch, until that fetch is applied or turns out to be impossible. Until the next edit
or an accepted text it is always in exactly one of these places, however late timers fire and fetches
come back.
-/
namespace InlineCompletion.Ghost
variable {σ : Type} {h : Handled σ} {c : Control} {generation : Nat} {s other : Session σ}

namespace Handled

/-- The result of the fetch of a generation was taken, and not dropped as stale. -/
def Applies (h : Handled σ) (generation : Nat) : Prop :=
  ∃ ticket result, h.event = .fetchResolved ticket result ∧ ticket.generation = generation ∧
    (h.loop.session.fetchResolved ticket result).1 ≠ .stale

/-- The fetch of a generation fell due while the editor was out of reach. -/
def Blocks (h : Handled σ) (generation : Nat) : Prop :=
  ∃ s, h.Due generation s ∧ s.sink.OutOfReach

/-- A generation got all it will get. -/
def Settles (h : Handled σ) (generation : Nat) : Prop :=
  h.Applies generation ∨ h.Blocks generation

theorem Applies.current (applies : h.Applies generation) :
    generation = h.loop.session.generation := by
  obtain ⟨ticket, result, -, rfl, fresh⟩ := applies
  by_contra stale
  rw [Session.fetchResolved_stale result stale] at fresh
  exact fresh rfl

theorem Due.unique (due : h.Due generation s) (again : h.Due generation other) : s = other := by
  cases due with
  | fired => cases again; rfl
  | drained landed =>
    cases again with
    | drained relanded => exact landed.symm.trans relanded

/-- A fetch falls due by its timer or because another one landed. -/
theorem Due.cause (due : h.Due generation s) :
    h.event.ticket? ≠ none ∨ h.event.firing? = some h.loop.session.generation := by
  cases due with
  | fired current => exact .inr (congrArg some current)
  | drained => exact .inl (by simp [Event.ticket?])

theorem Settles.cause (settles : h.Settles generation) :
    h.event.ticket? ≠ none ∨ h.event.firing? = some h.loop.session.generation := by
  rcases settles with ⟨ticket, result, resolved, -⟩ | ⟨s, due, -⟩
  · exact .inl (by simp [resolved, Event.ticket?])
  · exact due.cause

theorem not_settles (noLanding : h.event.ticket? = none)
    (noFiring : h.event.firing? ≠ some h.loop.session.generation) : ¬ h.Settles generation := by
  intro settles
  exact settles.cause.elim (· noLanding) noFiring

/-- Neither a timer nor a fetch is an edit or an accepted text. -/
theorem noEdit_of_cause
    (cause : h.event.ticket? ≠ none ∨ h.event.firing? = some h.loop.session.generation) :
    h.event.isEdit = false ∧ h.accepts = false := by
  obtain ⟨loop, event⟩ := h
  cases event with
  | timerFired | fetchResolved => exact ⟨rfl, rfl⟩
  | _ => simp [Event.ticket?, Event.firing?] at cause

theorem isEdit_of_accepts (accepted : h.accepts = true) : h.event.isEdit = false := by
  obtain ⟨loop, event⟩ := h
  cases event with
  | documentChanged | cursorMoved => cases accepted
  | _ => rfl

end Handled

/-- The present generation still waits for its fetch or for the result of it. -/
def Control.Waits (c : Control) : Prop :=
  c.debouncing = true ∨ c.pending ≠ none ∨
    ∃ ticket, c.inFlight = some ticket ∧ ticket.generation = c.generation

/-- An event after which the present generation waits on, unless the event settled it. -/
structure Handled.Keeps (h : Handled σ) (next : Control) : Prop where
  noEdit : h.event.isEdit = false
  refused : h.accepts = false
  generation : next.generation = h.loop.session.generation
  waits : next.Waits ↔ h.loop.session.control.Waits ∧ ¬ h.Settles h.loop.session.generation

namespace Handled.Keeps
variable {next : Control}

theorem of_same (noEdit : h.event.isEdit = false) (refused : h.accepts = false)
    (generation : next.generation = h.loop.session.generation)
    (same : next.Waits ↔ h.loop.session.control.Waits)
    (unsettled : ¬ h.Settles h.loop.session.generation) : h.Keeps next :=
  ⟨noEdit, refused, generation, fun waits => ⟨same.mp waits, unsettled⟩, fun waits => same.mpr waits.1⟩

theorem of_waits (noEdit : h.event.isEdit = false) (refused : h.accepts = false)
    (generation : next.generation = h.loop.session.generation)
    (before : h.loop.session.control.Waits) (after : next.Waits)
    (unsettled : ¬ h.Settles h.loop.session.generation) : h.Keeps next :=
  of_same noEdit refused generation ⟨fun _ => before, fun _ => after⟩ unsettled

theorem of_settled (noEdit : h.event.isEdit = false) (refused : h.accepts = false)
    (generation : next.generation = h.loop.session.generation) (rested : ¬ next.Waits)
    (settled : h.Settles h.loop.session.generation) : h.Keeps next :=
  ⟨noEdit, refused, generation, fun waits => absurd waits rested, fun waits => absurd settled waits.2⟩

end Handled.Keeps

namespace Coherent

/-- While a fetch is due its generation has no result that could be taken. -/
theorem not_applies (coherent : Coherent h.loop.session.control (h.event :: h.loop.ahead))
    (due : h.Due generation s) : ¬ h.Applies generation := by
  intro applies
  have current := applies.current
  obtain ⟨ticket, result, resolved, own, -⟩ := applies
  obtain ⟨-, waits, -⟩ := coherent.due due
  rw [resolved] at coherent
  have older := coherent.waiting waits ticket (coherent.landing rfl).1
  exact absurd (own.trans current) (Nat.ne_of_lt older)

/-- Only the present generation can be settled, and only while it waits. -/
theorem settles (coherent : Coherent h.loop.session.control (h.event :: h.loop.ahead))
    (settles : h.Settles generation) :
    generation = h.loop.session.generation ∧ h.loop.session.control.Waits := by
  rcases settles with applies | ⟨s, due, -⟩
  · have current := applies.current
    obtain ⟨ticket, result, resolved, own, -⟩ := applies
    rw [resolved] at coherent
    exact ⟨current, .inr (.inr ⟨ticket, (coherent.landing rfl).1, own.trans current⟩)⟩
  · obtain ⟨current, waits, -⟩ := coherent.due due
    exact ⟨current, waits.imp_right .inl⟩

/-- A timer that fires behind a fetch in flight settles nothing. -/
theorem park_settles {l : EventLoop σ} (flying : l.session.inFlight ≠ none) :
    ¬ Handled.Settles ⟨l, .timerFired l.session.generation⟩ generation := by
  rintro (⟨ticket, result, resolved, -⟩ | ⟨s, due, -⟩)
  · cases resolved
  · cases due with
    | fired current free => exact flying free

/-- A stale result behind which nothing is parked settles nothing. -/
theorem land_settles {l : EventLoop σ} {ticket : Ticket}
    {result : Except CompletionError (List Candidate)}
    (stale : ticket.generation ≠ l.session.generation) (nothing : l.session.pending = none) :
    ¬ Handled.Settles ⟨l, .fetchResolved ticket result⟩ generation := by
  rintro (applies | ⟨s, due, -⟩)
  · have current := applies.current
    obtain ⟨landed, result, resolved, own, -⟩ := applies
    cases resolved
    exact stale (own.trans current)
  · cases due with
    | drained landed free parked =>
      rw [← landed, Session.fetchResolved_pending, nothing] at parked
      cases parked

/-- A fetch that starts settles nothing. -/
theorem launch_settles (coherent : Coherent h.loop.session.control (h.event :: h.loop.ahead))
    (due : h.Due generation s) (inReach : ¬ s.sink.OutOfReach) : ¬ h.Settles generation := by
  rintro (applies | ⟨other, again, outOfReach⟩)
  · exact coherent.not_applies due applies
  · rw [due.unique again] at inReach
    exact inReach outOfReach

/-- An event starts a new generation, or the present one waits on until it is settled. -/
theorem turn_waits {next : Control} {later : List Event}
    (coherent : Coherent h.loop.session.control (h.event :: h.loop.ahead))
    (turn : Turn h next later) :
    (h.event.isEdit = true ∧ next = h.loop.session.control.restart) ∨
      (h.accepts = true ∧ next = h.loop.session.control.reset) ∨ h.Keeps next := by
  obtain ⟨l, event⟩ := h
  cases turn with
  | restart edit split timers => exact .inl ⟨edit, rfl⟩
  | accept accepted onOffer => exact .inr (.inl ⟨accepted, rfl⟩)
  | park fired flying =>
    obtain rfl : event = .timerFired l.session.generation := fired
    have before : l.session.control.Waits := .inl (coherent.firing rfl).1
    exact .inr (.inr (.of_waits rfl rfl rfl before (.inr (.inl (by simp))) (park_settles flying)))
  | @launch s ticket ahead result due inReach landed current more =>
    obtain ⟨noEdit, refused⟩ := Handled.noEdit_of_cause due.cause
    have before : l.session.control.Waits := (coherent.due due).2.1.imp_right .inl
    have unsettled := coherent.launch_settles due inReach
    have after : (l.session.control.settle.launch ticket).Waits := .inr (.inr ⟨ticket, rfl, current⟩)
    exact .inr (.inr (.of_waits noEdit refused rfl before after unsettled))
  | block due outOfReach landed =>
    obtain ⟨noEdit, refused⟩ := Handled.noEdit_of_cause due.cause
    have settled : Handled.Settles ⟨l, event⟩ l.session.generation := .inr ⟨_, due, outOfReach⟩
    have rested : ¬ l.session.control.settle.Waits := by simp [Control.Waits, Control.settle]
    exact .inr (.inr (.of_settled noEdit refused rfl rested settled))
  | land resolved flying stale nothing =>
    obtain rfl : event = _ := resolved
    have same : Control.Waits { l.session.control with inFlight := none } ↔
        l.session.control.Waits := by
      dsimp only at flying stale
      simp [Control.Waits, Session.control, flying, stale]
    exact .inr (.inr (.of_same rfl rfl rfl same (land_settles stale nothing)))
  | @apply ticket result onOffer resolved flying current =>
    obtain rfl : event = _ := resolved
    have fresh := (Session.control_fetchResolved result current).1
    have settled : Handled.Settles ⟨l, .fetchResolved ticket result⟩ l.session.generation :=
      .inl ⟨ticket, result, rfl, current, fresh⟩
    have rested : ¬ Control.Waits { l.session.control with inFlight := none, onOffer } := by
      obtain ⟨fired, unparked⟩ := coherent.rested flying current
      rintro (debouncing | parked | ⟨ticket, landed, -⟩)
      · exact absurd debouncing (Bool.eq_false_iff.mp fired)
      · exact parked unparked
      · cases landed
    exact .inr (.inr (.of_settled rfl rfl rfl rested settled))
  | @ask caller request result ahead asked current onOffer more =>
    obtain rfl : event = .escalate caller := asked
    have unsettled : ¬ Handled.Settles ⟨l, .escalate caller⟩ l.session.generation :=
      Handled.not_settles rfl (by simp [Event.firing?])
    exact .inr (.inr (.of_same rfl rfl rfl .rfl unsettled))
  | quiet noEdit refused noLanding noFiring =>
    have unsettled : ¬ Handled.Settles ⟨l, event⟩ l.session.generation :=
      Handled.not_settles noLanding noFiring
    exact .inr (.inr (.of_same noEdit refused rfl .rfl unsettled))

end Coherent

/-- The generation of the last edit or move of a history, unless a text was accepted since. -/
def awaited (log : List (Handled σ)) : Option Nat :=
  log.foldl
    (fun before h =>
      if h.event.isEdit then some h.loop.session.restartDebounce.generation
      else if h.accepts then none
      else before)
    none

theorem awaited_append (log : List (Handled σ)) (h : Handled σ) :
    awaited (log ++ [h]) =
      if h.event.isEdit then some (h.loop.session.generation + 1)
      else if h.accepts then none
      else awaited log := by
  simp only [awaited, List.foldl_append, List.foldl_cons, List.foldl_nil,
    Session.restartDebounce_eq]

/-- A history and what a session waits for after it. -/
structure Tracked (log : List (Handled σ)) (c : Control) : Prop where
  current : ∀ generation, awaited log = some generation → generation = c.generation
  past : ∀ h ∈ log, ∀ generation, h.Settles generation → generation ≤ c.generation
  rested : ∀ h ∈ log, h.Settles c.generation → ¬ c.Waits
  once : ∀ first ∈ log, first.Applies c.generation → ∀ second ∈ log, ¬ second.Blocks c.generation
  progress : awaited log = some c.generation → c.Waits ∨ ∃ h ∈ log, h.Settles c.generation

namespace Tracked
variable {log : List (Handled σ)} {next : Control}

/-- Nothing has settled a generation that is new. -/
theorem renewed (tracked : Tracked log h.loop.session.control)
    (coherent : Coherent h.loop.session.control (h.event :: h.loop.ahead))
    (newer : h.loop.session.generation < generation) :
    ∀ before ∈ log ++ [h], ∀ settled, before.Settles settled → settled < generation := by
  rw [List.forall_mem_append, List.forall_mem_singleton]
  constructor
  · intro before member settled settles
    exact Nat.lt_of_le_of_lt (tracked.past before member settled settles) newer
  · intro settled settles
    rw [(coherent.settles settles).1]
    exact newer

/-- A new generation is tracked from its start. -/
theorem renew (tracked : Tracked log h.loop.session.control)
    (coherent : Coherent h.loop.session.control (h.event :: h.loop.ahead))
    (newer : h.loop.session.generation < next.generation)
    (awaits : ∀ generation, awaited (log ++ [h]) = some generation →
      generation = next.generation ∧ next.Waits) : Tracked (log ++ [h]) next := by
  have older := tracked.renewed coherent newer
  have unsettled (before : Handled σ) (member : before ∈ log ++ [h]) :
      ¬ before.Settles next.generation := fun settles =>
    Nat.lt_irrefl _ (older before member _ settles)
  constructor
  case current => exact fun generation last => (awaits generation last).1
  case past => exact fun before member settled settles =>
    Nat.le_of_lt (older before member settled settles)
  case rested => exact fun before member settles => absurd settles (unsettled before member)
  case once => exact fun before member applies => absurd (.inl applies) (unsettled before member)
  case progress => exact fun last => .inl (awaits _ last).2

/-- A generation stays tracked while it lasts. -/
theorem keep (tracked : Tracked log h.loop.session.control)
    (coherent : Coherent h.loop.session.control (h.event :: h.loop.ahead))
    (keeps : h.Keeps next) : Tracked (log ++ [h]) next := by
  have awaits : awaited (log ++ [h]) = awaited log := by
    simp [awaited_append, keeps.noEdit, keeps.refused]
  have same : next.generation = h.loop.session.control.generation := keeps.generation
  have earlier : (∃ before ∈ log, before.Settles h.loop.session.generation) →
      ¬ h.Settles h.loop.session.generation := by
    rintro ⟨before, member, settled⟩ settles
    exact tracked.rested before member settled (coherent.settles settles).2
  constructor
  case current =>
    rw [awaits, same]
    exact tracked.current
  case past =>
    rw [same, List.forall_mem_append, List.forall_mem_singleton]
    exact ⟨tracked.past, fun settled settles => Nat.le_of_eq (coherent.settles settles).1⟩
  case rested =>
    rw [same, List.forall_mem_append, List.forall_mem_singleton, keeps.waits]
    constructor
    · exact fun before member settles waits => tracked.rested before member settles waits.1
    · exact fun settles waits => waits.2 settles
  case once =>
    simp only [List.forall_mem_append, List.forall_mem_singleton]
    rw [same]
    refine ⟨fun first member applies => ⟨tracked.once first member applies, fun blocks => ?_⟩,
      fun applies => ⟨fun second member blocks => ?_, fun blocks => ?_⟩⟩
    · exact earlier ⟨first, member, .inl applies⟩ (.inr blocks)
    · exact earlier ⟨second, member, .inr blocks⟩ (.inl applies)
    · obtain ⟨s, due, -⟩ := blocks
      exact coherent.not_applies due applies
  case progress =>
    rw [awaits, same]
    intro last
    rcases tracked.progress last with waits | ⟨before, member, settled⟩
    · by_cases settles : h.Settles h.loop.session.generation
      · exact .inr ⟨h, by simp, settles⟩
      · exact .inl (keeps.waits.mpr ⟨waits, settles⟩)
    · exact .inr ⟨before, by simp [member], settled⟩

/-- What each event does is tracked. -/
theorem turn {later : List Event} (tracked : Tracked log h.loop.session.control)
    (coherent : Coherent h.loop.session.control (h.event :: h.loop.ahead))
    (turn : Turn h next later) : Tracked (log ++ [h]) next := by
  rcases coherent.turn_waits turn with ⟨edit, rfl⟩ | ⟨accepted, rfl⟩ | keeps
  · refine tracked.renew coherent (Nat.lt_succ_self _) fun generation last => ?_
    rw [awaited_append, if_pos edit] at last
    exact ⟨(Option.some.inj last).symm, .inl rfl⟩
  · refine tracked.renew coherent (Nat.lt_succ_self _) fun generation last => ?_
    have noEdit : h.event.isEdit = false := Handled.isEdit_of_accepts accepted
    simp [awaited_append, noEdit, accepted] at last
  · exact tracked.keep coherent keeps

end Tracked

/-- Where the fetch of a generation can be. -/
inductive Fate where
  /-- The timer is armed for it. -/
  | armed
  /-- Its timer has fired and waits in the queue. -/
  | fired
  /-- Its timer was parked behind an older fetch in flight. -/
  | parked
  /-- It runs, or its result is in the queue. -/
  | outstanding
  /-- Its result was taken. -/
  | applied
  /-- It could not start, for want of an editor or of a cursor in its document. -/
  | blocked
deriving DecidableEq

/-- The fetch of a generation is there. -/
def Fate.Holds (log : List (Handled σ)) (l : EventLoop σ) (generation : Nat) : Fate → Prop
  | .armed => l.timer.map Timer.generation = some generation
  | .fired => .timerFired generation ∈ l.queue
  | .parked => l.session.pending = some generation ∧
      ∃ ticket, l.session.inFlight = some ticket ∧ ticket.generation < generation
  | .outstanding =>
    ∃ ticket ∈ l.fetches.map FetchTask.ticket ++ l.queue.filterMap Event.ticket?,
      ticket.generation = generation
  | .applied => ∃ handled ∈ log, handled.Applies generation
  | .blocked => ∃ handled ∈ log, handled.Blocks generation

/-- A session that waits for this can have the fetch of its generation there. -/
def Fate.Fits (c : Control) : Fate → Prop
  | .armed | .fired => c.debouncing = true
  | .parked => c.debouncing = false ∧ c.pending ≠ none
  | .outstanding => c.debouncing = false ∧ c.pending = none ∧
      ∃ ticket, c.inFlight = some ticket ∧ ticket.generation = c.generation
  | .applied | .blocked => ¬ c.Waits

namespace EventLoop
variable {world : Collaborators} {sink : Sink σ} {config : Config} {log : List (Handled σ)}
  {l : EventLoop σ}

/-- The history of a running loop is tracked. -/
theorem Run.tracked (run : Run world sink config log l) (running : l.running = true) :
    Tracked log l.session.control := by
  refine run.turns Tracked ?_ ?_ running
  · constructor <;> simp [awaited]
  · exact fun log h next later coherent tracked turn => tracked.turn coherent turn

theorem ahead_firings (l : EventLoop σ) :
    l.ahead.filterMap Event.firing? =
      (l.timer.map Timer.generation).toList ++ l.queue.filterMap Event.firing? := by
  have timers : l.timerAhead.filterMap Event.firing? = (l.timer.map Timer.generation).toList := by
    cases armed : l.timer <;> simp [timerAhead, armed, Event.firing?]
  have escalations : (l.generations.map fun task =>
      Event.escalationResolved task.request task.result task.caller).filterMap Event.firing? = [] := by
    simp [Event.firing?]
  have fetches : (l.fetches.map fun task =>
      Event.fetchResolved task.ticket task.result).filterMap Event.firing? = [] := by
    simp [Event.firing?]
  simp only [ahead, List.filterMap_append, timers, fetches, escalations, List.append_nil]

theorem mem_firings (generation : Nat) (queue : List Event) :
    generation ∈ queue.filterMap Event.firing? ↔ .timerFired generation ∈ queue := by
  rw [List.mem_filterMap]
  constructor
  · rintro ⟨event, member, fired⟩
    cases event with
    | timerFired other => cases fired; exact member
    | _ => cases fired
  · exact fun member => ⟨_, member, rfl⟩

/-- While input has to come to rest the present generation has its timer, or the event of it in the
queue, and else it has neither. -/
theorem timer_or_queue (log : List (Handled σ))
    (coherent : Coherent l.session.control l.ahead) :
    (l.session.debouncing = false ∧ ¬ Fate.armed.Holds log l l.session.generation ∧
        ¬ Fate.fired.Holds log l l.session.generation) ∨
      (l.session.debouncing = true ∧
        (Fate.armed.Holds log l l.session.generation ↔
          ¬ Fate.fired.Holds log l l.session.generation)) := by
  have count : ((l.timer.map Timer.generation).toList ++
      l.queue.filterMap Event.firing?).count l.session.generation = l.session.debouncing.toNat := by
    rw [← ahead_firings]
    exact coherent.armed
  have queued := mem_firings l.session.generation l.queue
  rw [← List.count_pos_iff] at queued
  rw [List.count_append] at count
  simp only [Fate.Holds]
  rw [← queued]
  by_cases armed : l.timer.map Timer.generation = some l.session.generation
  · rw [armed, Option.toList_some, List.count_singleton_self] at count
    cases debouncing : l.session.debouncing with
    | false => simp [debouncing] at count
    | true =>
      rw [debouncing] at count
      simp only [Bool.toNat_true] at count
      exact .inr ⟨rfl, fun _ => by omega, fun _ => armed⟩
  · have absent : (l.timer.map Timer.generation).toList.count l.session.generation = 0 := by
      rw [List.count_eq_zero, Option.mem_toList]
      exact armed
    rw [absent, Nat.zero_add] at count
    rw [count]
    cases debouncing : l.session.debouncing with
    | false => exact .inl ⟨rfl, armed, by simp⟩
    | true => exact .inr ⟨rfl, fun fired => absurd fired armed, fun idle => absurd idle (by simp)⟩

/-- The fetch of the present generation is outstanding exactly while it is the one in flight. -/
theorem outstanding_iff (coherent : Coherent l.session.control l.ahead) :
    Fate.outstanding.Holds log l generation ↔
      ∃ ticket, l.session.inFlight = some ticket ∧ ticket.generation = generation := by
  simp only [Fate.Holds, outstanding_eq coherent, Option.mem_toList]

/-- What a session waits for tells where the fetch of its generation can be. -/
theorem Run.fate_fits (run : Run world sink config log l) (running : l.running = true)
    {fate : Fate} (holds : fate.Holds log l l.session.generation) :
    fate.Fits l.session.control := by
  have coherent := run.coherent running
  have tracked := run.tracked running
  have resting := timer_or_queue log coherent
  cases fate with
  | armed =>
    rcases resting with ⟨-, idle, -⟩ | ⟨debouncing, -⟩
    · exact absurd holds idle
    · exact debouncing
  | fired =>
    rcases resting with ⟨-, -, idle⟩ | ⟨debouncing, -⟩
    · exact absurd holds idle
    · exact debouncing
  | parked => exact ⟨(coherent.parked _ holds.1).2.2, by simp [Session.control, holds.1]⟩
  | outstanding =>
    obtain ⟨ticket, flying, own⟩ := (outstanding_iff coherent).mp holds
    obtain ⟨rested, unparked⟩ := coherent.rested flying own
    exact ⟨rested, unparked, ticket, flying, own⟩
  | applied =>
    obtain ⟨handled, member, applies⟩ := holds
    exact tracked.rested handled member (.inl applies)
  | blocked =>
    obtain ⟨handled, member, blocks⟩ := holds
    exact tracked.rested handled member (.inr blocks)

/-- A fetch is in one place at most. -/
theorem Run.fate_unique (run : Run world sink config log l) (running : l.running = true)
    {first second : Fate} (holds : first.Holds log l l.session.generation)
    (others : second.Holds log l l.session.generation) : first = second := by
  have fits := run.fate_fits running holds
  have other := run.fate_fits running others
  have timer (armed : Fate.armed.Holds log l l.session.generation)
      (fired : Fate.fired.Holds log l l.session.generation) : False := by
    rcases timer_or_queue log (run.coherent running) with ⟨-, idle, -⟩ | ⟨-, either⟩
    · exact idle armed
    · exact either.mp armed fired
  have settled (applied : Fate.applied.Holds log l l.session.generation)
      (blocked : Fate.blocked.Holds log l l.session.generation) : False := by
    obtain ⟨first, member, applies⟩ := applied
    obtain ⟨second, other, blocks⟩ := blocked
    exact (run.tracked running).once first member applies second other blocks
  cases first <;> cases second <;> try rfl
  case armed.fired => exact (timer holds others).elim
  case fired.armed => exact (timer others holds).elim
  case applied.blocked => exact (settled holds others).elim
  case blocked.applied => exact (settled others holds).elim
  -- all others differ in what the session waits for
  all_goals
    simp only [Fate.Fits, Control.Waits] at fits other
    grind

/-- After the last edit its fetch is in exactly one place, unless a text was accepted since: it does
not get lost. -/
theorem Run.one_fate (run : Run world sink config log l) (running : l.running = true)
    (last : awaited log = some generation) : ∃! fate : Fate, fate.Holds log l generation := by
  have coherent := run.coherent running
  have tracked := run.tracked running
  obtain rfl := tracked.current generation last
  refine existsUnique_of_exists_of_unique ?_ fun first second holds others =>
    run.fate_unique running holds others
  rcases tracked.progress last with (debouncing | parked | flying) | ⟨handled, member, settled⟩
  · rcases timer_or_queue log coherent with ⟨rested, -⟩ | ⟨-, timer⟩
    · exact absurd debouncing (by simp [Session.control, rested])
    · by_cases fired : Fate.fired.Holds log l l.session.generation
      · exact ⟨.fired, fired⟩
      · exact ⟨.armed, timer.mpr fired⟩
  · obtain ⟨generation, pending⟩ := Option.ne_none_iff_exists'.mp parked
    obtain ⟨rfl, flying, -⟩ := coherent.parked generation pending
    obtain ⟨ticket, inFlight⟩ := Option.ne_none_iff_exists'.mp flying
    exact ⟨.parked, pending, ticket, inFlight, coherent.waiting (.inr parked) ticket inFlight⟩
  · exact ⟨.outstanding, (outstanding_iff coherent).mpr flying⟩
  · rcases settled with applies | blocks
    · exact ⟨.applied, handled, member, applies⟩
    · exact ⟨.blocked, handled, member, blocks⟩

/-- An edit while the fetch of an older one is in flight gets its own fetch after that. -/
theorem Run.one_fate_applied :
    ∃ (log : List (Handled MemoryEditor)) (l : EventLoop MemoryEditor),
      Run silent blank .standard log l ∧ awaited log = some 2 ∧ Fate.applied.Holds log l 2 ∧
        ∃! fate : Fate, fate.Holds log l 2 := by
  have edited : Run silent blank .standard _ _ :=
    (Run.start.arrive (.command _ .documentChanged rfl)).handle rfl
  have fetching := (edited.arrive (.fire _)).handle rfl
  have again := (fetching.arrive (.command _ .documentChanged rfl)).handle rfl
  have parked := (again.arrive (.fire _)).handle rfl
  have drained := (parked.arrive (.finishFetch _ 0)).handle rfl
  have applied := (drained.arrive (.finishFetch _ 0)).handle rfl
  refine ⟨_, _, applied, rfl, ⟨_, List.mem_append_right _ List.mem_cons_self, ?_⟩,
    applied.one_fate rfl rfl⟩
  exact ⟨⟨2, 0⟩, .ok [], rfl, rfl, nofun⟩

end EventLoop
end InlineCompletion.Ghost
