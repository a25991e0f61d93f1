import InlineCompletion.Proofs.Ghost.Run

/-!
What a running loop does with one event, in nine cases. A loop is coherent when what it waits for
and what lies ahead of it fit together; in a coherent loop most of what the session would take from
anybody cannot happen, and the nine cases are what remains.
-/
namespace InlineCompletion.Ghost

/-- The ticket of the fetch that an event reports. -/
def Event.ticket? : Event → Option Ticket
  | .fetchResolved ticket _ => some ticket
  | _ => none

/-- The generation whose timer an event reports. -/
def Event.firing? : Event → Option Nat
  | .timerFired generation => some generation
  | _ => none

/-- The request whose escalation an event reports. -/
def Event.request? : Event → Option EscalationRequest
  | .escalationResolved request _ _ => some request
  | _ => none

/-- Whether an event is an edit or a move of the cursor. -/
def Event.isEdit : Event → Bool
  | .documentChanged | .cursorMoved => true
  | _ => false

/-- What a loop waits for and what lies ahead of it fit together. -/
structure Coherent (c : Control) (ahead : List Event) : Prop where
  /-- The fetch in flight is the only one that will come back. -/
  flight : ahead.filterMap Event.ticket? = c.inFlight.toList
  aloft : ∀ ticket, c.inFlight = some ticket → ticket.generation ≤ c.generation
  timers : ∀ generation ∈ ahead.filterMap Event.firing?, generation ≤ c.generation
  /-- The present generation still waits for its timer exactly while input has to come to rest. -/
  armed : (ahead.filterMap Event.firing?).count c.generation = c.debouncing.toNat
  /-- A generation that still waits for its fetch is newer than the fetch in flight. -/
  waiting : c.debouncing = true ∨ c.pending ≠ none →
    ∀ ticket, c.inFlight = some ticket → ticket.generation < c.generation
  parked : ∀ generation, c.pending = some generation →
    generation = c.generation ∧ c.inFlight ≠ none ∧ c.debouncing = false
  offered : c.onOffer = true → c.inFlight = none ∧ c.pending = none ∧ c.debouncing = false
  /-- An escalation of the present generation still finds something on offer. -/
  escalations : ∀ request ∈ ahead.filterMap Event.request?, request.generation ≤ c.generation ∧
    (request.generation = c.generation → c.onOffer = true)

namespace Coherent
variable {c : Control} {ahead others : List Event} {event : Event}

/-- The order in which events will arrive does not matter. -/
theorem perm (coherent : Coherent c ahead) (same : others.Perm ahead) : Coherent c others where
  flight := by
    have moved := same.filterMap Event.ticket?
    rw [coherent.flight] at moved
    cases flying : c.inFlight with
    | none => rw [flying] at moved; exact moved.eq_nil
    | some ticket => rw [flying] at moved; exact List.perm_singleton.mp moved
  aloft := coherent.aloft
  timers generation member :=
    coherent.timers generation ((same.filterMap Event.firing?).mem_iff.mp member)
  armed := by
    rw [(same.filterMap Event.firing?).count_eq]
    exact coherent.armed
  waiting := coherent.waiting
  parked := coherent.parked
  offered := coherent.offered
  escalations request member :=
    coherent.escalations request ((same.filterMap Event.request?).mem_iff.mp member)

/-- A fetch that comes back is the one in flight. -/
theorem landing (coherent : Coherent c (event :: ahead)) {ticket : Ticket}
    (resolved : event.ticket? = some ticket) :
    c.inFlight = some ticket ∧ ahead.filterMap Event.ticket? = [] := by
  have flight := coherent.flight
  rw [List.filterMap_cons_some resolved] at flight
  cases flying : c.inFlight with
  | none => simp [flying] at flight
  | some other =>
    rw [flying] at flight
    simp only [Option.toList_some, List.cons.injEq] at flight
    exact ⟨congrArg some flight.1.symm, flight.2⟩

/-- The timer of the present generation fires only while input has to come to rest, and once. -/
theorem firing (coherent : Coherent c (event :: ahead)) (fired : event.firing? = some c.generation) :
    c.debouncing = true ∧ (ahead.filterMap Event.firing?).count c.generation = 0 := by
  have armed := coherent.armed
  rw [List.filterMap_cons_some fired, List.count_cons_self] at armed
  cases debouncing : c.debouncing with
  | false => simp [debouncing] at armed
  | true => simpa [debouncing] using armed

/-- While a fetch of the present generation is in flight its timer has fired, and nothing is
parked. -/
theorem rested {ticket : Ticket} (coherent : Coherent c ahead) (flying : c.inFlight = some ticket)
    (current : ticket.generation = c.generation) : c.debouncing = false ∧ c.pending = none := by
  by_contra waits
  rw [not_and_or, Bool.not_eq_false] at waits
  exact absurd current (Nat.ne_of_lt (coherent.waiting waits ticket flying))

/-- While a fetch is waited for nothing is on offer. -/
theorem hidden (coherent : Coherent c ahead) (waits : c.debouncing = true ∨ c.pending ≠ none) :
    c.onOffer = false := by
  by_contra onOffer
  obtain ⟨-, unparked, rested⟩ := coherent.offered (by simpa using onOffer)
  rcases waits with debouncing | parked
  · simp [rested] at debouncing
  · exact parked unparked

end Coherent

namespace Handled
variable {σ : Type}

/-- Whether an event made the session accept a text. -/
def accepts (h : Handled σ) : Bool :=
  match h.event with
  | .accept _ => h.loop.session.accept.1.isOk
  | _ => false

/-- While an event was handled the fetch of a generation fell due, on this session. -/
inductive Due : Handled σ → Nat → Session σ → Prop where
  /-- Its timer fired and nothing was in flight. -/
  | fired {l : EventLoop σ} {generation : Nat} (current : generation = l.session.generation)
      (free : l.session.inFlight = none) : Due ⟨l, .timerFired generation⟩ generation l.session
  /-- It was parked, and the fetch before it landed. -/
  | drained {l : EventLoop σ} {ticket : Ticket} {generation : Nat}
      {result : Except CompletionError (List Candidate)} {s : Session σ}
      (landed : (l.session.fetchResolved ticket result).2 = s) (free : s.inFlight = none)
      (parked : s.pending = some generation) : Due ⟨l, .fetchResolved ticket result⟩ generation s

end Handled

/-- What handling an event does to what the loop waits for and to what lies ahead of it. -/
inductive Turn {σ : Type} (h : Handled σ) : Control → List Event → Prop where
  /-- An edit or a move takes the place of whatever timer is armed. -/
  | restart {gone kept : List Event} (edit : h.event.isEdit = true)
      (split : h.loop.ahead = gone ++ kept)
      (timers : ∀ event ∈ gone, ∃ generation, event = .timerFired generation) :
      Turn h h.loop.session.control.restart (.timerFired (h.loop.session.generation + 1) :: kept)
  /-- A text is accepted. -/
  | accept (accepted : h.accepts = true) (onOffer : h.loop.session.control.onOffer = true) :
      Turn h h.loop.session.control.reset h.loop.ahead
  /-- The timer fires behind a fetch in flight. -/
  | park (fired : h.event = .timerFired h.loop.session.generation)
      (flying : h.loop.session.inFlight ≠ none) :
      Turn h
        { h.loop.session.control with
          debouncing := false, pending := some h.loop.session.generation } h.loop.ahead
  /-- A fetch that is due starts. -/
  | launch {s : Session σ} {ticket : Ticket} {ahead : List Event}
      {result : Except CompletionError (List Candidate)}
      (due : h.Due h.loop.session.generation s) (inReach : ¬ s.sink.OutOfReach)
      (landed : h.event.ticket? = h.loop.session.inFlight)
      (current : ticket.generation = h.loop.session.generation)
      (more : ahead.Perm (.fetchResolved ticket result :: h.loop.ahead)) :
      Turn h (h.loop.session.control.settle.launch ticket) ahead
  /-- A fetch that is due cannot start. -/
  | block {s : Session σ} (due : h.Due h.loop.session.generation s)
      (outOfReach : s.sink.OutOfReach) (landed : h.event.ticket? = h.loop.session.inFlight) :
      Turn h h.loop.session.control.settle h.loop.ahead
  /-- A stale fetch lands, and nothing was parked behind it. -/
  | land {ticket : Ticket} {result : Except CompletionError (List Candidate)}
      (resolved : h.event = .fetchResolved ticket result)
      (flying : h.loop.session.inFlight = some ticket)
      (stale : ticket.generation ≠ h.loop.session.generation)
      (nothing : h.loop.session.pending = none) :
      Turn h { h.loop.session.control with inFlight := none } h.loop.ahead
  /-- A fetch of the present generation lands. -/
  | apply {ticket : Ticket} {result : Except CompletionError (List Candidate)} {onOffer : Bool}
      (resolved : h.event = .fetchResolved ticket result)
      (flying : h.loop.session.inFlight = some ticket)
      (current : ticket.generation = h.loop.session.generation) :
      Turn h { h.loop.session.control with inFlight := none, onOffer } h.loop.ahead
  /-- An escalation of what is on offer starts. -/
  | ask {caller : Caller} {request : EscalationRequest} {result : Except GhostError String}
      {ahead : List Event} (asked : h.event = .escalate caller)
      (current : request.generation = h.loop.session.generation)
      (onOffer : h.loop.session.control.onOffer = true)
      (more : ahead.Perm (.escalationResolved request result caller :: h.loop.ahead)) :
      Turn h h.loop.session.control ahead
  /-- Nothing changes. -/
  | quiet (noEdit : h.event.isEdit = false) (refused : h.accepts = false)
      (noLanding : h.event.ticket? = none)
      (noFiring : h.event.firing? ≠ some h.loop.session.generation) :
      Turn h h.loop.session.control h.loop.ahead

namespace EventLoop
variable {σ : Type} {world : Collaborators} {l : EventLoop σ}

theorem spawnFetch_ahead (world : Collaborators) (request : FetchRequest) (l : EventLoop σ) :
    ∃ result, (l.spawnFetch world (some request)).ahead.Perm
      (.fetchResolved request.ticket result :: l.ahead) := by
  refine ⟨(world.source l.sourceCalls request.context).result, ?_⟩
  simp only [ahead, timerAhead, spawnFetch, report, List.map_append, List.map_cons, List.map_nil,
    List.append_assoc, List.cons_append, List.nil_append]
  exact (List.perm_middle.append_left _).trans List.perm_middle

theorem spawnGeneration_ahead (world : Collaborators) (request : EscalationRequest)
    (caller : Caller) (l : EventLoop σ) :
    ∃ result, (l.spawnGeneration world request caller).ahead.Perm
      (.escalationResolved request result caller :: l.ahead) := by
  refine ⟨usableText (world.service l.serviceCalls request.prompt).result, ?_⟩
  simp only [ahead, timerAhead, spawnGeneration, report, List.map_append, List.map_cons,
    List.map_nil, List.append_assoc, List.cons_append, List.nil_append]
  exact ((List.perm_middle.append_left _).append_left _).trans
    ((List.perm_middle.append_left _).trans List.perm_middle)

/-- An event that may start a fetch changes the session and then starts the fetch it hands out. -/
theorem handle_timerFired (world : Collaborators) (l : EventLoop σ) (generation : Nat) :
    (l.handle world (.timerFired generation)).session = (l.session.timerFired generation).2 ∧
      (l.handle world (.timerFired generation)).ahead =
        ((l.withSession (l.session.timerFired generation).2).spawnFetch world
          (l.session.timerFired generation).1).ahead :=
  ⟨spawnFetch_session _ _, rfl⟩

theorem handle_fetchResolved (world : Collaborators) (l : EventLoop σ) (ticket : Ticket)
    (result : Except CompletionError (List Candidate)) :
    let drained := (l.session.fetchResolved ticket result).2.drainPending
    (l.handle world (.fetchResolved ticket result)).session = drained.2 ∧
      (l.handle world (.fetchResolved ticket result)).ahead =
        ((l.withSession drained.2).spawnFetch world drained.1).ahead :=
  ⟨spawnFetch_session _ _, rfl⟩

variable {event : Event}

theorem turn_edit (edit : event.isEdit = true) :
    Turn ⟨l, event⟩ (l.handle world event).session.control (l.handle world event).ahead := by
  have generation : l.session.restartDebounce.generation = l.session.generation + 1 := by
    rw [Session.restartDebounce_eq]
  have split := ahead_timer l
  have timers : ∀ event ∈ l.timerAhead, ∃ generation, event = .timerFired generation := by
    simp [timerAhead]
  have turn := Turn.restart (h := ⟨l, event⟩) edit split timers
  dsimp only at turn
  rw [← generation, ← Session.control_restartDebounce] at turn
  cases event with
  | documentChanged | cursorMoved => exact turn
  | _ => cases edit

/-- A fetch that is due starts unless the editor is out of reach. -/
theorem turn_startFetch {h : Handled σ} {s due : Session σ}
    (isDue : h.Due h.loop.session.generation due) (sink : s.sink = due.sink)
    (landed : h.event.ticket? = h.loop.session.inFlight)
    (control : s.control = h.loop.session.control.settle) :
    let started := s.startFetch h.loop.session.generation
    Turn h started.2.control
      ((h.loop.withSession started.2).spawnFetch world started.1).ahead := by
  rcases s.startFetch_cases h.loop.session.generation with
    ⟨none, outOfReach⟩ | ⟨request, view, started, inReach, -, ticket, -⟩
  · rw [none]
    dsimp only
    rw [control]
    exact .block isDue (sink ▸ outOfReach) landed
  · rw [started]
    dsimp only
    obtain ⟨result, more⟩ := spawnFetch_ahead world request
      (h.loop.withSession (s.launch request.ticket))
    rw [Session.control_launch, control]
    exact .launch isDue (sink ▸ inReach) landed (by rw [ticket]) more

theorem turn_timerFired {generation : Nat}
    (coherent : Coherent l.session.control (.timerFired generation :: l.ahead)) :
    Turn ⟨l, .timerFired generation⟩ (l.handle world (.timerFired generation)).session.control
      (l.handle world (.timerFired generation)).ahead := by
  obtain ⟨session, ahead⟩ := handle_timerFired world l generation
  rw [session, ahead]
  by_cases current : generation = l.session.generation
  · subst current
    obtain ⟨debouncing, -⟩ := coherent.firing rfl
    have nothing : l.session.pending = none := by
      cases parked : l.session.pending with
      | none => rfl
      | some generation => exact absurd debouncing (by simp [(coherent.parked _ parked).2.2])
    by_cases flying : l.session.inFlight = none
    · rw [Session.timerFired_free flying]
      refine turn_startFetch (h := ⟨l, _⟩) (.fired rfl flying) rfl flying.symm ?_
      simp only [Session.control, Control.settle, flying, nothing]
    · rw [Session.timerFired_parked (Option.isSome_iff_ne_none.mpr flying)]
      exact .park rfl flying
  · rw [Session.timerFired_outdated current]
    exact .quiet rfl rfl rfl (by simpa [Event.firing?] using current)

/-- A stale result is dropped, and then the fetch that was parked behind it is due. -/
theorem turn_stale {ticket : Ticket} {result : Except CompletionError (List Candidate)}
    (coherent : Coherent l.session.control (.fetchResolved ticket result :: l.ahead))
    (stale : ticket.generation ≠ l.session.generation) :
    Turn ⟨l, .fetchResolved ticket result⟩
      (l.handle world (.fetchResolved ticket result)).session.control
      (l.handle world (.fetchResolved ticket result)).ahead := by
  obtain ⟨session, ahead⟩ := handle_fetchResolved world l ticket result
  obtain ⟨flying, -⟩ := coherent.landing rfl
  have discarded : (l.session.fetchResolved ticket result).2 = l.session.discard := by
    rw [Session.fetchResolved_discard result flying stale]
  rw [session, ahead, discarded]
  cases parked : l.session.pending with
  | none =>
    have drained : l.session.discard.drainPending = (none, l.session.discard) :=
      Session.drainPending_none parked
    rw [drained]
    exact .land rfl flying stale parked
  | some generation =>
    obtain ⟨rfl, -, debouncing⟩ := coherent.parked generation parked
    have drained := Session.drainPending_parked (s := l.session.discard) rfl parked
    rw [drained]
    refine turn_startFetch (h := ⟨l, _⟩) (.drained discarded rfl parked) rfl flying.symm ?_
    change { l.session.control with pending := none, inFlight := none } = l.session.control.settle
    rw [Control.settle, ← debouncing]

/-- A result of the present generation leaves nothing to wait for. -/
theorem turn_current {ticket : Ticket} {result : Except CompletionError (List Candidate)}
    (coherent : Coherent l.session.control (.fetchResolved ticket result :: l.ahead))
    (current : ticket.generation = l.session.generation) :
    Turn ⟨l, .fetchResolved ticket result⟩
      (l.handle world (.fetchResolved ticket result)).session.control
      (l.handle world (.fetchResolved ticket result)).ahead := by
  obtain ⟨session, ahead⟩ := handle_fetchResolved world l ticket result
  have flying : l.session.inFlight = some ticket := (coherent.landing rfl).1
  obtain ⟨-, onOffer, control⟩ := Session.control_fetchResolved result current
  have nothing : l.session.pending = none := (coherent.rested flying current).2
  have drained : (l.session.fetchResolved ticket result).2.drainPending =
      (none, (l.session.fetchResolved ticket result).2) :=
    Session.drainPending_none ((congrArg Control.pending control).trans nothing)
  rw [session, ahead, drained]
  dsimp only
  rw [control, if_pos flying]
  exact .apply rfl flying current

theorem turn_accept (valid : l.session.offers.Valid) (caller : Caller) :
    Turn ⟨l, .accept caller⟩ (l.handle world (.accept caller)).session.control
      (l.handle world (.accept caller)).ahead := by
  change Turn _ l.session.accept.2.control l.ahead
  rcases Session.control_accept l.session with ⟨accepted, shown, control⟩ | ⟨refused, control⟩
  · obtain ⟨text, shown⟩ := Option.isSome_iff_exists.mp shown
    rw [control]
    exact .accept accepted (Session.onOffer_iff.mpr (valid.items_ne_nil shown))
  · rw [control]
    exact .quiet rfl refused rfl (by simp [Event.firing?])

theorem turn_escalate (valid : l.session.offers.Valid) (caller : Caller) :
    Turn ⟨l, .escalate caller⟩ (l.handle world (.escalate caller)).session.control
      (l.handle world (.escalate caller)).ahead := by
  rcases Session.beginEscalation_cases l.session with ⟨-, refused⟩ | ⟨text, shown, asked⟩
  · simp only [handle, react, refused]
    exact .quiet rfl rfl rfl (by simp [Event.firing?])
  · simp only [handle, react, asked]
    obtain ⟨result, more⟩ := spawnGeneration_ahead world
      ⟨l.session.generation, buildPrompt l.session.config.promptTemplate text⟩ caller
      (l.withSession l.session)
    exact .ask rfl rfl (Session.onOffer_iff.mpr (valid.items_ne_nil shown)) more

/-- An escalation that comes back finds something on offer or changes nothing. -/
theorem turn_escalationResolved {request : EscalationRequest} {result : Except GhostError String}
    {caller : Caller}
    (coherent : Coherent l.session.control (.escalationResolved request result caller :: l.ahead)) :
    Turn ⟨l, .escalationResolved request result caller⟩
      (l.handle world (.escalationResolved request result caller)).session.control
      (l.handle world (.escalationResolved request result caller)).ahead := by
  change Turn _ (l.session.finishEscalation request result).2.control l.ahead
  have same : (l.session.finishEscalation request result).2.control = l.session.control := by
    rcases Session.control_finishEscalation request result with same | ⟨current, applied⟩
    · exact same
    · have onOffer := (coherent.escalations request (by simp [Event.request?])).2 current
      rw [applied, ← onOffer]
  rw [same]
  exact .quiet rfl rfl rfl (by simp [Event.firing?])

/-- Whatever event a coherent loop handles, unless it ends, is one of the nine cases. -/
theorem turn_handle (valid : l.session.offers.Valid)
    (coherent : Coherent l.session.control (event :: l.ahead))
    (going : (l.handle world event).running = true) :
    Turn ⟨l, event⟩ (l.handle world event).session.control (l.handle world event).ahead := by
  cases event with
  | documentChanged => exact turn_edit rfl
  | cursorMoved => exact turn_edit rfl
  | timerFired generation => exact turn_timerFired coherent
  | fetchResolved ticket result =>
    by_cases current : ticket.generation = l.session.generation
    · exact turn_current coherent current
    · exact turn_stale coherent current
  | cycle caller =>
    change Turn _ l.session.cycle.2.control l.ahead
    rw [Session.control_cycle]
    exact .quiet rfl rfl rfl (by simp [Event.firing?])
  | accept caller => exact turn_accept valid caller
  | escalate caller => exact turn_escalate valid caller
  | escalationResolved request result caller => exact turn_escalationResolved coherent
  | shutdown => cases going

end EventLoop
end InlineCompletion.Ghost
