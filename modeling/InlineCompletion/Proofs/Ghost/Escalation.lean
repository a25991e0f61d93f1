import InlineCompletion.Proofs.Ghost.Ledger
import InlineCompletion.Proofs.Ghost.Phases

/-!
Escalations that come back late. The text service is asked beside the loop, so edits, cycling and
further escalations may be handled before it answers. The generation of its request is all that an
escalation is checked by: once the session has moved on its text is dropped, and as long as nothing
was cycled or replaced it still finds what its prompt was built from.
-/
namespace InlineCompletion.Ghost
variable {σ : Type} {h asked : Handled σ} {since : List (Handled σ)} {s : Session σ}

namespace Handled

/-- Whether an event was an edit or a move, or made the session accept a text. -/
def movesOn (h : Handled σ) : Bool :=
  h.event.isEdit || h.accepts

/-- Whether an event made another item current or put the text of an escalation on offer. -/
def recasts (h : Handled σ) : Bool :=
  match h.event with
  | .cycle _ => 1 < h.loop.session.offers.items.length
  | _ => h.replaces

/-- A caller asked for an escalation, and this is the request that was handed out. -/
def Escalates (h : Handled σ) (request : EscalationRequest) (caller : Caller) : Prop :=
  h.event = .escalate caller ∧ h.loop.session.beginEscalation.1 = .ok request

theorem Escalates.spec {request : EscalationRequest} {caller : Caller}
    (escalates : h.Escalates request caller) :
    ∃ text, h.loop.session.offers.activeText = some text ∧
      request = ⟨h.loop.session.generation,
        buildPrompt h.loop.session.config.promptTemplate text⟩ := by
  obtain ⟨-, handed⟩ := escalates
  rcases Session.beginEscalation_cases h.loop.session with ⟨-, refused⟩ | ⟨text, shown, started⟩
  · rw [refused] at handed
    cases handed
  · rw [started] at handed
    exact ⟨text, shown, (Except.ok.inj handed).symm⟩

end Handled

/-- What became of a session since an escalation was asked for. -/
structure Stands (asked : Handled σ) (since : List (Handled σ)) (s : Session σ) : Prop where
  past : asked.loop.session.generation ≤ s.generation
  left : (∃ h ∈ since, h.movesOn = true) → asked.loop.session.generation < s.generation
  stays : (∀ h ∈ since, h.movesOn = false) → s.generation = asked.loop.session.generation
  kept : (∀ h ∈ since, h.movesOn = false) → (∀ h ∈ since, h.recasts = false) →
    s.offers = asked.loop.session.offers

/-- What an escalation that comes back says and does, by what was handled since it was asked for. -/
structure Late (asked : Handled σ) (since : List (Handled σ)) (request : EscalationRequest)
    (result : Except GhostError String) (outcome : Except GhostError EscalationOutcome)
    (before after : Session σ) : Prop where
  prompt : ∃ text, asked.loop.session.offers.activeText = some text ∧
    request.prompt = buildPrompt asked.loop.session.config.promptTemplate text
  stale : (∃ h ∈ since, h.movesOn = true) → outcome = .ok .stale
  /-- It is applied only to what its prompt was built from, unless that was recast meanwhile. -/
  applied : outcome = .ok .applied → (∀ h ∈ since, h.movesOn = false) ∧
    ((∀ h ∈ since, h.recasts = false) → before.offers = asked.loop.session.offers)
  applies : (∀ h ∈ since, h.movesOn = false) →
    ∀ text, result = .ok text → outcome = .ok .applied
  failed : (∀ h ∈ since, h.movesOn = false) →
    ∀ error, result = .error error → outcome = .error error
  others : outcome = .ok .applied ∨ outcome = .ok .stale ∨
    ∃ error, result = .error error ∧ outcome = .error error
  /-- The items, the current one and what is drawn stay as they are unless it is applied. -/
  kept : outcome ≠ .ok .applied → after.offers = before.offers ∧
    after.decoration = before.decoration ∧ live after.sink.log = live before.sink.log

theorem live_notice (log : List SinkCall) (level : NoticeLevel) (message : String) :
    live (log ++ [.notice level message]) = live log := by
  simp [live, SinkCall.drawn]

/-- An escalation that is not applied leaves all that is shown as it is. -/
theorem Session.finishEscalation_kept {request : EscalationRequest}
    {result : Except GhostError String}
    (refused : (s.finishEscalation request result).1 ≠ .ok .applied) :
    (s.finishEscalation request result).2.offers = s.offers ∧
      (s.finishEscalation request result).2.decoration = s.decoration ∧
      live (s.finishEscalation request result).2.sink.log = live s.sink.log := by
  by_cases current : request.generation = s.generation
  · cases result with
    | ok text => exact absurd (by rw [finishEscalation_ok text current]) refused
    | error error =>
      rw [finishEscalation_error error current]
      exact ⟨rfl, rfl, live_notice _ _ _⟩
  · rw [finishEscalation_stale result current]
    exact ⟨rfl, rfl, rfl⟩

/-- The generation tells an escalation apart that the session has left behind. -/
theorem Stands.late {request : EscalationRequest} {caller : Caller}
    (stands : Stands asked since s) (escalates : asked.Escalates request caller)
    (result : Except GhostError String) :
    Late asked since request result (s.finishEscalation request result).1 s
      (s.finishEscalation request result).2 := by
  obtain ⟨text, shown, rfl⟩ := escalates.spec
  constructor
  case prompt => exact ⟨text, shown, rfl⟩
  case stale =>
    intro moved
    rw [Session.finishEscalation_stale result (Nat.ne_of_lt (stands.left moved))]
  case applied =>
    intro applied
    have stays : ∀ h ∈ since, h.movesOn = false := by
      by_contra moved
      push Not at moved
      obtain ⟨h, member, moved⟩ := moved
      have left := stands.left ⟨h, member, by simpa using moved⟩
      rw [Session.finishEscalation_stale result (Nat.ne_of_lt left)] at applied
      cases applied
    exact ⟨stays, stands.kept stays⟩
  case applies =>
    rintro stays text rfl
    rw [Session.finishEscalation_ok text (stands.stays stays).symm]
  case failed =>
    rintro stays error rfl
    rw [Session.finishEscalation_error error (stands.stays stays).symm]
  case others =>
    by_cases current : asked.loop.session.generation = s.generation
    · cases result with
      | ok text => exact .inl (by rw [Session.finishEscalation_ok text current])
      | error error =>
        exact .inr (.inr ⟨error, rfl, by rw [Session.finishEscalation_error error current]⟩)
    · exact .inr (.inl (by rw [Session.finishEscalation_stale result current]))
  case kept => exact Session.finishEscalation_kept

namespace EventLoop
variable {world : Collaborators} {sink : Sink σ} {config : Config} {log : List (Handled σ)}
  {l next : EventLoop σ} {event : Event} {request : EscalationRequest}
  {result : Except GhostError String} {caller : Caller}

/-! ### What is asked for -/

/-- An escalation that lies ahead runs or waits in the queue. -/
theorem mem_ahead_escalation : .escalationResolved request result caller ∈ l.ahead ↔
    (∃ task ∈ l.generations,
      task.request = request ∧ task.result = result ∧ task.caller = caller) ∨
    .escalationResolved request result caller ∈ l.queue := by
  simp [ahead, timerAhead]

theorem mem_ahead_spawnFetch (fetch : Option FetchRequest) :
    .escalationResolved request result caller ∈ (l.spawnFetch world fetch).ahead ↔
      .escalationResolved request result caller ∈ l.ahead := by
  cases fetch with
  | none => rfl
  | some fetch =>
    obtain ⟨fetched, more⟩ := spawnFetch_ahead world fetch l
    simp [more.mem_iff]

/-- Handling an event starts an escalation only if that is what it asks for. -/
theorem escalation_of_handle
    (member : .escalationResolved request result caller ∈ (l.handle world event).ahead) :
    .escalationResolved request result caller ∈ l.ahead ∨
      Handled.Escalates ⟨l, event⟩ request caller := by
  cases event with
  | documentChanged | cursorMoved | cycle | accept | escalationResolved =>
    rw [mem_ahead_escalation] at member ⊢
    exact .inl member
  | timerFired generation =>
    rw [(handle_timerFired world l generation).2, mem_ahead_spawnFetch] at member
    exact .inl member
  | fetchResolved ticket fetched =>
    rw [(handle_fetchResolved world l ticket fetched).2, mem_ahead_spawnFetch] at member
    exact .inl member
  | escalate other =>
    rcases Session.beginEscalation_cases l.session with ⟨-, refused⟩ | ⟨text, -, started⟩
    · simp only [handle, react, refused] at member
      exact .inl member
    · simp only [handle, react, started] at member
      obtain ⟨answer, more⟩ := spawnGeneration_ahead world
        ⟨l.session.generation, buildPrompt l.session.config.promptTemplate text⟩ other
        (l.withSession l.session)
      rcases List.mem_cons.mp (more.mem_iff.mp member) with same | member
      · cases same
        exact .inr ⟨rfl, by rw [started]⟩
      · exact .inl member
  | shutdown => simp [handle, stop, ahead, timerAhead] at member

/-- Every escalation that will come back was asked for. -/
theorem Run.escalates (run : Run world sink config log l) (running : l.running = true)
    (member : .escalationResolved request result caller ∈ l.ahead) :
    ∃ asked ∈ log, asked.Escalates request caller := by
  induction run with
  | start => simp [EventLoop.start, ahead, timerAhead] at member
  | arrive before arrival ih =>
    have going := arrival.running ▸ running
    obtain ⟨commands, ofHost, ahead⟩ := arrival.ahead going
    rcases List.mem_append.mp (ahead.mem_iff.mp member) with member | member
    · exact ih going member
    · cases ofHost _ member
  | @handle log l event rest before queued ih =>
    have going := handle_running (l := { l with queue := rest }) running
    rcases escalation_of_handle member with member | escalates
    · obtain ⟨asked, earlier, escalates⟩ :=
        ih going ((ahead_queue queued).mem_iff.mpr (List.mem_cons_of_mem _ member))
      exact ⟨asked, List.mem_append_left _ earlier, escalates⟩
    · exact ⟨_, List.mem_append_right _ (List.mem_singleton_self _), escalates⟩
  | @abandon log l before ih => simp [abandon_running l] at running

/-! ### What happens meanwhile -/

/-- What is on offer stays so, with the same item current, until the session moves on or something
recasts it. -/
theorem handle_offers (valid : l.session.offers.Valid)
    (coherent : Coherent l.session.control (event :: l.ahead))
    (showing : l.session.offers.items ≠ [])
    (stays : Handled.movesOn ⟨l, event⟩ = false) (same : Handled.recasts ⟨l, event⟩ = false)
    (going : (l.handle world event).running = true) :
    (l.handle world event).session.offers = l.session.offers := by
  cases event with
  | documentChanged | cursorMoved => cases stays
  | timerFired generation =>
    obtain ⟨_, _, _, _, fired⟩ := Session.timerFired_frame l.session generation
    rw [handle_call world l rfl, SessionCall.apply, fired]
  | fetchResolved ticket fetched =>
    -- no fetch is in flight while something is on offer
    have landed := (coherent.offered (Session.onOffer_iff.mpr showing)).1
    rw [(coherent.landing rfl).1] at landed
    cases landed
  | cycle caller =>
    have single : l.session.offers.items.length ≤ 1 := by
      simpa [Handled.recasts] using same
    rw [handle_call world l rfl, SessionCall.apply, Session.cycle_showing showing,
      Session.render_offers]
    exact valid.advance_single single
  | accept caller =>
    rw [handle_call world l rfl, SessionCall.apply]
    rcases Session.accept_cases l.session with
      ⟨error, sink, refused, -⟩ | ⟨text, view, sink, -, -, -, accepted⟩
    · rw [refused]
    · have moved : Handled.accepts ⟨l, .accept caller⟩ = true := by
        simp [Handled.accepts, accepted, Except.isOk, Except.toBool]
      simp [Handled.movesOn, moved] at stays
  | escalate caller =>
    rw [handle_call world l rfl, SessionCall.apply]
    rcases Session.beginEscalation_cases l.session with ⟨-, refused⟩ | ⟨text, -, started⟩
    · rw [refused]
    · rw [started]
  | escalationResolved request result caller =>
    rw [handle_call world l rfl, SessionCall.apply]
    by_cases current : request.generation = l.session.generation
    · cases result with
      | ok text =>
        simp [Handled.recasts, Handled.replaces, Session.finishEscalation_ok text current] at same
      | error error => rw [Session.finishEscalation_error error current]
    · rw [Session.finishEscalation_stale result current]
      rfl
  | shutdown => cases going

/-- What moves a session on starts a new generation, and nothing else does. -/
theorem handle_generation (valid : l.session.offers.Valid)
    (coherent : Coherent l.session.control (event :: l.ahead))
    (going : (l.handle world event).running = true) :
    (l.handle world event).session.generation =
      l.session.generation + (Handled.movesOn ⟨l, event⟩).toNat := by
  have turn := turn_handle valid coherent going
  rcases coherent.turn_waits (h := ⟨l, event⟩) turn with
    ⟨edit, control⟩ | ⟨accepted, control⟩ | keeps
  · rw [Handled.movesOn, edit, Bool.true_or]
    exact congrArg Control.generation control
  · rw [Handled.movesOn, accepted, Bool.or_true]
    exact congrArg Control.generation control
  · rw [Handled.movesOn, keeps.noEdit, keeps.refused]
    exact keeps.generation

/-- An escalation that was just asked for stands. -/
theorem stands_start (world : Collaborators)
    (escalates : Handled.Escalates ⟨l, event⟩ request caller) :
    Stands ⟨l, event⟩ [] (l.handle world event).session := by
  obtain ⟨rfl, handed⟩ : event = .escalate caller ∧ _ := escalates
  have same : (l.handle world (.escalate caller)).session = l.session := by
    rw [handle_call world l rfl, SessionCall.apply]
    rcases Session.beginEscalation_cases l.session with ⟨-, refused⟩ | ⟨text, -, started⟩
    · rw [refused] at handed
      cases handed
    · rw [started]
  rw [same]
  exact ⟨Nat.le_refl _, by simp, fun _ => rfl, fun _ _ => rfl⟩

/-- One more event that is handled meanwhile. -/
theorem stands_append (stands : Stands asked since l.session)
    (escalates : asked.Escalates request caller) (valid : l.session.offers.Valid)
    (coherent : Coherent l.session.control (event :: l.ahead))
    (going : (l.handle world event).running = true) :
    Stands asked (since ++ [⟨l, event⟩]) (l.handle world event).session := by
  have generation := handle_generation valid coherent going
  constructor
  case past =>
    rw [generation]
    exact Nat.le_add_right_of_le stands.past
  case left =>
    rintro ⟨h, member, moved⟩
    rw [generation]
    rcases List.mem_append.mp member with member | member
    · exact Nat.lt_add_right _ (stands.left ⟨h, member, moved⟩)
    · obtain rfl := List.mem_singleton.mp member
      rw [moved]
      exact Nat.lt_succ_of_le stands.past
  case stays =>
    rw [List.forall_mem_append, List.forall_mem_singleton]
    rintro ⟨before, stays⟩
    rw [generation, stays]
    exact stands.stays before
  case kept =>
    simp only [List.forall_mem_append, List.forall_mem_singleton]
    rintro ⟨before, stays⟩ ⟨earlier, same⟩
    have kept := stands.kept before earlier
    obtain ⟨text, shown, -⟩ := escalates.spec
    have showing : l.session.offers.items ≠ [] := by
      rw [← kept] at shown
      exact valid.items_ne_nil shown
    rw [handle_offers valid coherent showing stays same going]
    exact kept

/-- What an escalation was built from stays until something recasts it, and the generation tells
whether the session has moved on. -/
theorem Run.stands {earlier : List (Handled σ)} (run : Run world sink config log l)
    (running : l.running = true) (split : log = earlier ++ asked :: since)
    (escalates : asked.Escalates request caller) : Stands asked since l.session := by
  induction run generalizing since with
  | start => simp at split
  | arrive before arrival ih =>
    have stands := ih (arrival.running ▸ running) split
    obtain ⟨change, session⟩ := arrival.session
    rw [session]
    exact ⟨stands.past, stands.left, stands.stays, stands.kept⟩
  | @handle log l event rest before queued ih =>
    have going := handle_running (l := { l with queue := rest }) running
    have coherent := (before.coherent going).perm (ahead_queue queued).symm
    rcases List.eq_nil_or_concat since with rfl | ⟨meanwhile, last, rfl⟩
    · obtain ⟨-, same⟩ := List.append_inj' split rfl
      cases same
      exact stands_start (l := { l with queue := rest }) world escalates
    · rw [List.concat_eq_append, ← List.cons_append, ← List.append_assoc] at split
      obtain ⟨parts, same⟩ := List.append_inj' split rfl
      cases same
      rw [List.concat_eq_append]
      exact stands_append (l := { l with queue := rest }) (ih going parts) escalates
        before.offers_valid coherent running
  | @abandon log l before ih => simp [abandon_running l] at running

/-- An escalation that comes back answers its caller. It was asked for before, and it is applied
only if the session has not moved on since; all else that it may say leaves everything that is shown
as it is. -/
theorem Run.late_escalation (run : Run world sink config log l) {rest : List Event}
    (queued : l.queue = .escalationResolved request result caller :: rest) :
    let before : EventLoop σ := { l with queue := rest }
    let after := before.handle world (.escalationResolved request result caller)
    ∃ outcome, after.reports.getLast? = some (l.clock, .answer caller (.escalated outcome)) ∧
      (∃ earlier asked since, log = earlier ++ asked :: since ∧ asked.Escalates request caller) ∧
      ∀ earlier asked since, log = earlier ++ asked :: since → asked.Escalates request caller →
        Late asked since request result outcome before.session after.session := by
  intro before after
  have running := run.running_of_queue queued
  refine ⟨(l.session.finishEscalation request result).1, ?_, ?_, ?_⟩
  · exact List.getLast?_concat
  · have member : .escalationResolved request result caller ∈ l.ahead :=
      (ahead_queue queued).mem_iff.mpr List.mem_cons_self
    obtain ⟨asked, earlier, escalates⟩ := run.escalates running member
    obtain ⟨earlier, since, split⟩ := List.append_of_mem earlier
    exact ⟨earlier, asked, since, split, escalates⟩
  · intro earlier asked since split escalates
    exact (run.stands running split escalates).late escalates result

/-- A source with two candidates, and a service that has a text two times. -/
def talkative : Collaborators :=
  ⟨fun _ _ => ⟨0, .ok [⟨"int", 2, "00000"⟩, ⟨"void", 1, "00001"⟩]⟩,
    fun call _ => ⟨0, .ok (if call < 2 then some "long" else none)⟩⟩

/-- One more event that is handled after another. -/
theorem Run.meanwhile {earlier : List (Handled σ)} {rest : List Event}
    (run : Run world sink config (earlier ++ asked :: since) l) (queued : l.queue = event :: rest) :
    Run world sink config (earlier ++ asked :: (since ++ [⟨{ l with queue := rest }, event⟩]))
      ({ l with queue := rest }.handle world event) := by
  have handled := run.handle queued
  rwa [List.append_assoc, List.cons_append] at handled

/-- In some run these events are handled between an escalation and its text, which ends like this and
leaves this text on show. -/
def EndsAfter (events : List Event) (outcome : EscalationOutcome) (shown : Option String) : Prop :=
  ∃ (earlier since : List (Handled MemoryEditor)) (asked : Handled MemoryEditor)
    (l : EventLoop MemoryEditor) (request : EscalationRequest) (after : Session MemoryEditor),
    Run talkative blank .standard (earlier ++ asked :: since) l ∧ asked.Escalates request 1 ∧
      since.map Handled.event = events ∧
      Late asked since request (.ok "long") (.ok outcome) l.session after ∧
      after.offers.activeText = shown

/-- An escalation is applied to what it was asked for, and to another item that was made current
meanwhile; but it is dropped once there was an edit. -/
theorem Run.late_escalation_applied :
    EndsAfter [] .applied (some "long") ∧ EndsAfter [.cycle 2] .applied (some "long") ∧
      EndsAfter [.documentChanged] .stale none := by
  have edited : Run talkative blank .standard _ _ :=
    (Run.start.arrive (.command _ .documentChanged rfl)).handle rfl
  have fetching := (edited.arrive (.fire _)).handle rfl
  have shown := (fetching.arrive (.finishFetch _ 0)).handle rfl
  have asked := (shown.arrive (.command _ (.escalate 1) rfl)).handle rfl
  refine ⟨?_, ?_, ?_⟩
  · have answered := asked.arrive (.finishGeneration _ 0)
    obtain ⟨outcome, reported, -, late⟩ := answered.late_escalation rfl
    cases reported
    exact ⟨_, [], _, _, _, _, answered, ⟨rfl, rfl⟩, rfl, late _ _ _ rfl ⟨rfl, rfl⟩, rfl⟩
  · have cycled := (asked.arrive (.command _ (.cycle 2) rfl)).meanwhile rfl
    have answered := cycled.arrive (.finishGeneration _ 0)
    obtain ⟨outcome, reported, -, late⟩ := answered.late_escalation rfl
    cases reported
    exact ⟨_, _, _, _, _, _, answered, ⟨rfl, rfl⟩, rfl, late _ _ _ rfl ⟨rfl, rfl⟩, rfl⟩
  · have moved := (asked.arrive (.command _ .documentChanged rfl)).meanwhile rfl
    have answered := moved.arrive (.finishGeneration _ 0)
    obtain ⟨outcome, reported, -, late⟩ := answered.late_escalation rfl
    cases reported
    exact ⟨_, _, _, _, _, _, answered, ⟨rfl, rfl⟩, rfl, late _ _ _ rfl ⟨rfl, rfl⟩, rfl⟩

/-- In some run an escalation comes back with this outcome, to a session that compares like this
with the one that asked for it. -/
def ComesBack (compare : Session MemoryEditor → Session MemoryEditor → Prop)
    (outcome : Except GhostError EscalationOutcome) : Prop :=
  ∃ (earlier since : List (Handled MemoryEditor)) (asked : Handled MemoryEditor)
    (l : EventLoop MemoryEditor) (request : EscalationRequest) (result : Except GhostError String)
    (caller : Caller) (rest : List Event),
    Run talkative blank .standard (earlier ++ asked :: since) l ∧
      asked.Escalates request caller ∧
      l.queue = .escalationResolved request result caller :: rest ∧
      compare asked.loop.session l.session ∧
      (l.session.finishEscalation request result).1 = outcome

/-- An escalation is applied although the item it was asked for is not the current one any more, or
not even on offer; and one that has failed says so. -/
theorem Run.late_escalation_overwrites :
    ComesBack (fun first s => first.offers.index ≠ s.offers.index) (.ok .applied) ∧
      ComesBack (fun first s => first.offers.items.length ≠ s.offers.items.length) (.ok .applied) ∧
      ComesBack (fun first s => first.offers = s.offers)
        (.error (.generatorUnavailable "no text returned")) := by
  have edited : Run talkative blank .standard _ _ :=
    (Run.start.arrive (.command _ .documentChanged rfl)).handle rfl
  have fetching := (edited.arrive (.fire _)).handle rfl
  have shown := (fetching.arrive (.finishFetch _ 0)).handle rfl
  have asked := (shown.arrive (.command _ (.escalate 1) rfl)).handle rfl
  have again := (asked.arrive (.command _ (.escalate 2) rfl)).meanwhile rfl
  refine ⟨?_, ?_, ?_⟩
  · have cycled := (asked.arrive (.command _ (.cycle 2) rfl)).meanwhile rfl
    exact ⟨_, _, _, _, _, _, _, _, cycled.arrive (.finishGeneration _ 0), ⟨rfl, rfl⟩, rfl,
      by decide, rfl⟩
  · have replaced := (again.arrive (.finishGeneration _ 1)).meanwhile rfl
    exact ⟨_, _, _, _, _, _, _, _, replaced.arrive (.finishGeneration _ 0), ⟨rfl, rfl⟩, rfl,
      by decide, rfl⟩
  · have third := (again.arrive (.command _ (.escalate 3) rfl)).handle rfl
    exact ⟨_, [], _, _, _, _, _, _, third.arrive (.finishGeneration _ 2), ⟨rfl, rfl⟩, rfl, rfl,
      rfl⟩

end EventLoop
end InlineCompletion.Ghost
