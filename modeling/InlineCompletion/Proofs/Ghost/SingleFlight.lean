import InlineCompletion.Proofs.Ghost.Course

/-!
At most one fetch is outstanding at any time. The loop learns from its events that a fetch came back
and cannot ask for the state of one, so it goes by the ticket that it has noted as in flight; here
that note is shown to be right in every run, whatever the order in which the host, the timer, the
fetches and the escalations report.
-/
namespace InlineCompletion.Ghost
variable {σ : Type} {h : Handled σ} {c : Control} {ahead : List Event}

theorem Event.projections_of_isCommand {event : Event} (ofHost : event.isCommand = true) :
    event.ticket? = none ∧ event.firing? = none ∧ event.request? = none := by
  cases event with
  | timerFired | fetchResolved | escalationResolved => cases ofHost
  | _ => exact ⟨rfl, rfl, rfl⟩

theorem Event.ticket?_of_isEdit {event : Event} (edit : event.isEdit = true) :
    event.ticket? = none := by
  cases event with
  | fetchResolved => cases edit
  | _ => rfl

theorem Handled.ticket?_of_accepts (accepted : h.accepts = true) : h.event.ticket? = none := by
  obtain ⟨loop, event⟩ := h
  cases event with
  | fetchResolved => cases accepted
  | _ => rfl

namespace Coherent

theorem start (sink : Sink σ) (config : Config) :
    Coherent (Session.start sink config).control (EventLoop.start sink config).ahead where
  flight := rfl
  aloft := by simp [Session.control, Session.start]
  timers := by simp [EventLoop.ahead, EventLoop.start, EventLoop.timerAhead]
  armed := rfl
  waiting := by simp [Session.control, Session.start]
  parked := by simp [Session.control, Session.start]
  offered := by simp [Session.control, Session.start, Offers.none]
  escalations := by simp [EventLoop.ahead, EventLoop.start, EventLoop.timerAhead]

/-- A command of the host that arrives changes nothing yet. -/
theorem commands {commands : List Event} (coherent : Coherent c ahead)
    (ofHost : ∀ event ∈ commands, event.isCommand = true) : Coherent c (ahead ++ commands) := by
  have tickets : commands.filterMap Event.ticket? = [] :=
    List.filterMap_eq_nil_iff.mpr fun event member =>
      (Event.projections_of_isCommand (ofHost event member)).1
  have firings : commands.filterMap Event.firing? = [] :=
    List.filterMap_eq_nil_iff.mpr fun event member =>
      (Event.projections_of_isCommand (ofHost event member)).2.1
  have requests : commands.filterMap Event.request? = [] :=
    List.filterMap_eq_nil_iff.mpr fun event member =>
      (Event.projections_of_isCommand (ofHost event member)).2.2
  constructor
  case flight => simpa [tickets] using coherent.flight
  case timers => simpa [firings] using coherent.timers
  case armed => simpa [firings] using coherent.armed
  case escalations => simpa [requests] using coherent.escalations
  case aloft => exact coherent.aloft
  case waiting => exact coherent.waiting
  case parked => exact coherent.parked
  case offered => exact coherent.offered

variable {event : Event}

theorem timers_of_cons (coherent : Coherent c (event :: ahead)) :
    ∀ generation ∈ ahead.filterMap Event.firing?, generation ≤ c.generation :=
  fun generation member =>
    coherent.timers generation ((List.sublist_cons_self event ahead).filterMap _ |>.subset member)

theorem escalations_of_cons (coherent : Coherent c (event :: ahead)) :
    ∀ request ∈ ahead.filterMap Event.request?, request.generation ≤ c.generation ∧
      (request.generation = c.generation → c.onOffer = true) :=
  fun request member =>
    coherent.escalations request
      ((List.sublist_cons_self event ahead).filterMap _ |>.subset member)

theorem flight_of_cons (coherent : Coherent c (event :: ahead)) (noLanding : event.ticket? = none) :
    ahead.filterMap Event.ticket? = c.inFlight.toList := by
  have flight := coherent.flight
  rwa [List.filterMap_cons_none noLanding] at flight

theorem armed_of_cons (coherent : Coherent c (event :: ahead))
    (noFiring : event.firing? ≠ some c.generation) :
    (ahead.filterMap Event.firing?).count c.generation = c.debouncing.toNat := by
  rw [← coherent.armed]
  cases fired : event.firing? with
  | none => rw [List.filterMap_cons_none fired]
  | some generation =>
    rw [List.filterMap_cons_some fired, List.count_cons_of_ne]
    rw [fired] at noFiring
    simpa using noFiring

/-- An event that changes nothing leaves all that still lies ahead. -/
theorem quiet (coherent : Coherent c (event :: ahead)) (noLanding : event.ticket? = none)
    (noFiring : event.firing? ≠ some c.generation) : Coherent c ahead where
  flight := coherent.flight_of_cons noLanding
  aloft := coherent.aloft
  timers := coherent.timers_of_cons
  armed := coherent.armed_of_cons noFiring
  waiting := coherent.waiting
  parked := coherent.parked
  offered := coherent.offered
  escalations := coherent.escalations_of_cons

/-- A new generation leaves older timers, fetches and escalations behind. -/
theorem restart {gone kept : List Event} (coherent : Coherent c (event :: ahead))
    (noLanding : event.ticket? = none) (split : ahead = gone ++ kept)
    (timers : ∀ event ∈ gone, ∃ generation, event = .timerFired generation) :
    Coherent c.restart (.timerFired (c.generation + 1) :: kept) := by
  have tickets : gone.filterMap Event.ticket? = [] := by
    refine List.filterMap_eq_nil_iff.mpr fun event member => ?_
    obtain ⟨generation, rfl⟩ := timers event member
    rfl
  have older : ∀ generation ∈ kept.filterMap Event.firing?, generation ≤ c.generation :=
    fun generation member => coherent.timers_of_cons generation (by simp [split, member])
  constructor
  case flight =>
    have flight := coherent.flight_of_cons noLanding
    rw [split, List.filterMap_append, tickets, List.nil_append] at flight
    rwa [List.filterMap_cons_none rfl]
  case aloft =>
    intro ticket flying
    exact Nat.le_succ_of_le (coherent.aloft ticket flying)
  case timers =>
    intro generation member
    rcases List.mem_cons.mp member with rfl | member
    · exact Nat.le_refl _
    · exact Nat.le_succ_of_le (older generation member)
  case armed =>
    have absent : c.generation + 1 ∉ kept.filterMap Event.firing? := by
      intro member
      have := older _ member
      omega
    simp [Event.firing?, Control.restart, List.count_eq_zero.mpr absent]
  case waiting =>
    intro _ ticket flying
    exact Nat.lt_succ_of_le (coherent.aloft ticket flying)
  case parked => simp [Control.restart]
  case offered => simp [Control.restart]
  case escalations =>
    intro request member
    rw [List.filterMap_cons_none rfl] at member
    have earlier := (coherent.escalations_of_cons request (by simp [split, member])).1
    refine ⟨Nat.le_succ_of_le earlier, fun current => ?_⟩
    simp only [Control.restart] at current
    omega

theorem reset (coherent : Coherent c (event :: ahead)) (noLanding : event.ticket? = none) :
    Coherent c.reset ahead where
  flight := coherent.flight_of_cons noLanding
  aloft ticket flying := Nat.le_succ_of_le (coherent.aloft ticket flying)
  timers generation member := Nat.le_succ_of_le (coherent.timers_of_cons generation member)
  armed := by
    refine List.count_eq_zero.mpr fun member => ?_
    have := coherent.timers_of_cons _ member
    simp only [Control.reset] at this
    omega
  waiting := by simp [Control.reset]
  parked := by simp [Control.reset]
  offered := by simp [Control.reset]
  escalations := by
    intro request member
    have earlier := (coherent.escalations_of_cons request member).1
    refine ⟨Nat.le_succ_of_le earlier, fun current => ?_⟩
    simp only [Control.reset] at current
    omega

/-- A timer that fires behind a fetch in flight waits for it. -/
theorem park (coherent : Coherent c (.timerFired c.generation :: ahead))
    (flying : c.inFlight ≠ none) :
    Coherent { c with debouncing := false, pending := some c.generation } ahead := by
  obtain ⟨debouncing, once⟩ := coherent.firing rfl
  constructor
  case flight => exact coherent.flight_of_cons rfl
  case aloft => exact coherent.aloft
  case timers => exact coherent.timers_of_cons
  case armed => exact once
  case waiting =>
    intro _
    exact coherent.waiting (.inl debouncing)
  case parked =>
    intro generation parked
    exact ⟨(Option.some.inj parked).symm, flying, rfl⟩
  case offered =>
    intro onOffer
    exact absurd debouncing (by simp [(coherent.offered onOffer).2.2])
  case escalations => exact coherent.escalations_of_cons

/-- A fetch that falls due is the one that is waited for, and nothing else is outstanding. -/
theorem due {generation : Nat} {s : Session σ}
    (coherent : Coherent h.loop.session.control (h.event :: h.loop.ahead))
    (due : h.Due generation s) :
    generation = h.loop.session.generation ∧
      (h.loop.session.debouncing = true ∨ h.loop.session.pending ≠ none) ∧
      h.loop.ahead.filterMap Event.ticket? = [] ∧
      (h.loop.ahead.filterMap Event.firing?).count generation = 0 := by
  cases due with
  | @fired l generation current free =>
    subst current
    obtain ⟨debouncing, once⟩ := coherent.firing rfl
    have flight := coherent.flight_of_cons rfl
    refine ⟨rfl, .inl debouncing, ?_, once⟩
    simpa [Session.control, free] using flight
  | @drained l ticket generation result s resolved free parked =>
    rw [← resolved, Session.fetchResolved_pending] at parked
    obtain ⟨current, -, debouncing⟩ := coherent.parked _ parked
    have armed := coherent.armed_of_cons (by simp [Event.firing?])
    rw [debouncing, ← current] at armed
    exact ⟨current, .inr (by simp [parked]), (coherent.landing rfl).2, armed⟩

/-- A fetch that was due leaves nothing to wait for. -/
theorem block {generation : Nat} {s : Session σ}
    (coherent : Coherent h.loop.session.control (h.event :: h.loop.ahead))
    (due : h.Due generation s) :
    Coherent h.loop.session.control.settle h.loop.ahead := by
  obtain ⟨current, waits, landed, fired⟩ := coherent.due due
  subst current
  constructor
  case flight => exact landed
  case aloft => simp [Control.settle]
  case timers => exact coherent.timers_of_cons
  case armed => exact fired
  case waiting => simp [Control.settle]
  case parked => simp [Control.settle]
  case offered => simp [Control.settle]
  case escalations => exact coherent.escalations_of_cons

/-- A fetch takes off when nothing is waited for. -/
theorem launch {ticket : Ticket} {result : Except CompletionError (List Candidate)}
    (coherent : Coherent c ahead) (current : ticket.generation = c.generation)
    (free : c.inFlight = none) (nothing : c.debouncing = false ∧ c.pending = none)
    (hidden : c.onOffer = false) :
    Coherent (c.launch ticket) (.fetchResolved ticket result :: ahead) := by
  obtain ⟨rested, unparked⟩ := nothing
  constructor
  case flight =>
    have flight := coherent.flight
    rw [free] at flight
    change ticket :: ahead.filterMap Event.ticket? = [ticket]
    rw [flight]
    rfl
  case aloft =>
    intro other flying
    cases flying
    exact Nat.le_of_eq current
  case timers => exact coherent.timers
  case armed => exact coherent.armed
  case waiting => simp [Control.launch, rested, unparked]
  case parked => simp [Control.launch, unparked]
  case offered => simp [Control.launch, hidden]
  case escalations => exact coherent.escalations

/-- A fetch lands behind which nothing waits. -/
theorem land {ticket : Ticket} (coherent : Coherent c (event :: ahead))
    (resolved : event.ticket? = some ticket) (noFiring : event.firing? = none)
    (nothing : c.pending = none) : Coherent { c with inFlight := none } ahead where
  flight := (coherent.landing resolved).2
  aloft := by simp
  timers := coherent.timers_of_cons
  armed := coherent.armed_of_cons (by simp [noFiring])
  waiting := by simp
  parked := by simp [nothing]
  offered onOffer := ⟨rfl, (coherent.offered onOffer).2⟩
  escalations := coherent.escalations_of_cons

/-- A result of the present generation leaves nothing to wait for. -/
theorem apply {ticket : Ticket} {onOffer : Bool} (coherent : Coherent c (event :: ahead))
    (resolved : event.ticket? = some ticket) (noFiring : event.firing? = none)
    (current : ticket.generation = c.generation) :
    Coherent { c with inFlight := none, onOffer } ahead := by
  obtain ⟨flying, -⟩ := coherent.landing resolved
  obtain ⟨rested, unparked⟩ := coherent.rested flying current
  have landed := coherent.land resolved noFiring unparked
  exact {
    landed with
    offered := fun _ => ⟨rfl, unparked, rested⟩
    escalations := fun request member => by
      obtain ⟨earlier, shown⟩ := coherent.escalations_of_cons request member
      refine ⟨earlier, fun current => ?_⟩
      simpa [flying] using (coherent.offered (shown current)).1 }

/-- What is on offer may be escalated. -/
theorem ask {request : EscalationRequest} {result : Except GhostError String} {caller : Caller}
    (coherent : Coherent c ahead) (current : request.generation = c.generation)
    (onOffer : c.onOffer = true) :
    Coherent c (.escalationResolved request result caller :: ahead) := by
  constructor
  case flight => exact coherent.flight
  case aloft => exact coherent.aloft
  case timers => exact coherent.timers
  case armed => exact coherent.armed
  case waiting => exact coherent.waiting
  case parked => exact coherent.parked
  case offered => exact coherent.offered
  case escalations =>
    intro other member
    rcases List.mem_cons.mp member with rfl | member
    · exact ⟨Nat.le_of_eq current, fun _ => onOffer⟩
    · exact coherent.escalations other member

/-- The loop stays coherent whatever happens when an event is handled. -/
theorem turn {next : Control} {later : List Event}
    (coherent : Coherent h.loop.session.control (h.event :: h.loop.ahead))
    (turn : Turn h next later) : Coherent next later := by
  cases turn with
  | restart edit split timers =>
    exact coherent.restart (Event.ticket?_of_isEdit edit) split timers
  | accept accepted onOffer =>
    exact coherent.reset (Handled.ticket?_of_accepts accepted)
  | park fired flying =>
    rw [fired] at coherent
    exact coherent.park flying
  | launch due inReach landed current more =>
    have hidden := (coherent.hidden (coherent.due due).2.1)
    exact ((coherent.block due).launch current rfl ⟨rfl, rfl⟩ hidden).perm more
  | block due outOfReach landed => exact coherent.block due
  | land resolved flying stale nothing =>
    rw [resolved] at coherent
    exact coherent.land rfl rfl nothing
  | apply resolved flying current =>
    rw [resolved] at coherent
    exact coherent.apply rfl rfl current
  | ask asked current onOffer more =>
    rw [asked] at coherent
    exact ((coherent.quiet rfl (by simp [Event.firing?])).ask current onOffer).perm more
  | quiet noEdit refused noLanding noFiring => exact coherent.quiet noLanding noFiring

end Coherent

namespace EventLoop
variable {world : Collaborators} {sink : Sink σ} {config : Config} {log : List (Handled σ)}
  {l : EventLoop σ}

/-- A running loop is coherent. -/
theorem Run.coherent (run : Run world sink config log l) (running : l.running = true) :
    Coherent l.session.control l.ahead := by
  induction run with
  | start => exact .start sink config
  | arrive before arrival ih =>
    have coherent := ih (arrival.running ▸ running)
    obtain ⟨change, session⟩ := arrival.session
    obtain ⟨commands, ofHost, ahead⟩ := arrival.ahead (arrival.running ▸ running)
    rw [session, Session.control_withHost]
    exact (coherent.commands ofHost).perm ahead
  | @handle log l event rest before queued ih =>
    have going := handle_running (l := { l with queue := rest }) running
    have coherent := (ih going).perm (ahead_queue queued).symm
    exact coherent.turn (turn_handle before.offers_valid coherent running)
  | @abandon log l before ih => simp [abandon_running l] at running

/-- A loop that handles an event takes one of the turns, unless it is told to stop. -/
theorem Run.turn_or_stop {event : Event} {rest : List Event} (run : Run world sink config log l)
    (queued : l.queue = event :: rest) :
    event = .shutdown ∨
      Coherent l.session.control (event :: ({ l with queue := rest } : EventLoop σ).ahead) ∧
        ({ l with queue := rest }.handle world event).running = true ∧
        Turn ⟨{ l with queue := rest }, event⟩
          ({ l with queue := rest }.handle world event).session.control
          ({ l with queue := rest }.handle world event).ahead := by
  by_cases stops : event = .shutdown
  · exact .inl stops
  · have running := run.running_of_queue queued
    have coherent := (run.coherent running).perm (ahead_queue queued).symm
    have going := (handle_running_of_ne world { l with queue := rest } stops).trans running
    exact .inr ⟨coherent, going, turn_handle run.offers_valid coherent going⟩

/-- What holds of a new loop, and is kept by every turn of a coherent loop, holds of every running
loop. -/
theorem Run.turns (holds : List (Handled σ) → Control → Prop)
    (start : holds [] (Session.start sink config).control)
    (turn : ∀ (log : List (Handled σ)) (h : Handled σ) (next : Control) (later : List Event),
      Coherent h.loop.session.control (h.event :: h.loop.ahead) →
      holds log h.loop.session.control → Turn h next later → holds (log ++ [h]) next)
    (run : Run world sink config log l) (running : l.running = true) :
    holds log l.session.control := by
  induction run with
  | start => exact start
  | arrive before arrival ih =>
    obtain ⟨change, session⟩ := arrival.session
    rw [session, Session.control_withHost]
    exact ih (arrival.running ▸ running)
  | @handle log l event rest before queued ih =>
    have going := handle_running (l := { l with queue := rest }) running
    have coherent := (before.coherent going).perm (ahead_queue queued).symm
    exact turn _ _ _ _ coherent (ih going) (turn_handle before.offers_valid coherent running)
  | @abandon log l before ih => simp [abandon_running l] at running

/-- Number of fetches whose result was handled. -/
def landed (log : List (Handled σ)) : Nat :=
  log.countP fun handled => handled.event.ticket?.isSome

theorem landed_append (log : List (Handled σ)) (h : Handled σ) :
    landed (log ++ [h]) = landed log + h.event.ticket?.toList.length := by
  cases ticket : h.event.ticket? <;> simp [landed, ticket]

/-- Every fetch that was asked for was handled or is in flight. -/
theorem Run.fetches_eq (run : Run world sink config log l) (running : l.running = true) :
    l.session.stats.fetches = landed log + l.session.inFlight.toList.length := by
  refine run.turns (fun log c => c.fetches = landed log + c.inFlight.toList.length) rfl ?_ running
  intro log h next later coherent counted turn
  rw [landed_append]
  cases turn with
  | restart edit split timers =>
    rw [Event.ticket?_of_isEdit edit]
    exact counted
  | accept accepted onOffer =>
    rw [Handled.ticket?_of_accepts accepted]
    exact counted
  | park fired flying =>
    rw [fired]
    exact counted
  | launch due inReach landed current more =>
    rw [landed]
    exact congrArg (· + 1) counted
  | block due outOfReach landed =>
    rw [landed]
    exact counted
  | land resolved flying stale nothing =>
    have flying : h.loop.session.control.inFlight = _ := flying
    rw [flying] at counted
    rw [resolved]
    exact counted
  | apply resolved flying current =>
    have flying : h.loop.session.control.inFlight = _ := flying
    rw [flying] at counted
    rw [resolved]
    exact counted
  | ask asked current onOffer more =>
    rw [asked]
    exact counted
  | quiet noEdit refused noLanding noFiring =>
    rw [noLanding]
    exact counted

/-- What a loop notes about its fetches is what happens around it. -/
structure SingleFlight (log : List (Handled σ)) (l : EventLoop σ) : Prop where
  /-- The fetches that run, and those whose result is still in the queue, are the one in flight. -/
  outstanding :
    l.fetches.map FetchTask.ticket ++ l.queue.filterMap Event.ticket? = l.session.inFlight.toList
  /-- Only the present generation is parked, behind a fetch of an older one. -/
  parked : ∀ generation, l.session.pending = some generation →
    generation = l.session.generation ∧
      ∃ ticket, l.session.inFlight = some ticket ∧ ticket.generation < l.session.generation
  offered : l.session.offers.items ≠ [] →
    l.session.inFlight = none ∧ l.session.pending = none ∧ l.session.debouncing = false
  debouncing : l.session.debouncing = true → l.session.pending = none
  /-- Every fetch that was asked for was handled or is in flight. -/
  counted : l.session.stats.fetches = landed log + l.session.inFlight.toList.length

theorem ahead_tickets (l : EventLoop σ) :
    l.ahead.filterMap Event.ticket? =
      l.fetches.map FetchTask.ticket ++ l.queue.filterMap Event.ticket? := by
  have timers : l.timerAhead.filterMap Event.ticket? = [] := by
    simp [timerAhead, Event.ticket?]
  have escalations : (l.generations.map fun task =>
      Event.escalationResolved task.request task.result task.caller).filterMap Event.ticket? = [] := by
    simp [Event.ticket?]
  have fetches : (l.fetches.map fun task =>
      Event.fetchResolved task.ticket task.result).filterMap Event.ticket? =
        l.fetches.map FetchTask.ticket := by
    simp [List.filterMap_map, Function.comp_def, Event.ticket?]
  simp only [ahead, List.filterMap_append, timers, fetches, escalations, List.nil_append,
    List.append_nil]

/-- A coherent loop has only the fetch in flight outstanding. -/
theorem outstanding_eq (coherent : Coherent l.session.control l.ahead) :
    l.fetches.map FetchTask.ticket ++ l.queue.filterMap Event.ticket? =
      l.session.inFlight.toList := by
  rw [← ahead_tickets]
  exact coherent.flight

/-- A running loop has at most one fetch outstanding, and knows which. -/
theorem Run.singleFlight (run : Run world sink config log l) (running : l.running = true) :
    SingleFlight log l := by
  have coherent := run.coherent running
  constructor
  case outstanding => exact outstanding_eq coherent
  case parked =>
    intro generation parked
    obtain ⟨current, flying, -⟩ := coherent.parked generation parked
    obtain ⟨ticket, inFlight⟩ := Option.ne_none_iff_exists'.mp flying
    have older := coherent.waiting (.inr (by simp [Session.control, parked])) ticket inFlight
    exact ⟨current, ticket, inFlight, older⟩
  case offered =>
    intro showing
    exact coherent.offered (Session.onOffer_iff.mpr showing)
  case debouncing =>
    intro debouncing
    by_contra parked
    obtain ⟨generation, parked⟩ := Option.ne_none_iff_exists'.mp parked
    have rested := (coherent.parked generation parked).2.2
    exact absurd (debouncing.symm.trans rested) (by simp)
  case counted => exact run.fetches_eq running

/-- A source and a service that have nothing. -/
def silent : Collaborators :=
  ⟨fun _ _ => ⟨0, .ok []⟩, fun _ _ => ⟨0, .ok none⟩⟩

/-- An editor with an empty document. -/
def blank : Sink MemoryEditor :=
  MemoryEditor.sink ⟨some ⟨"", 0⟩, none, 0⟩

/-- An edit while a fetch is in flight, whose timer fires before that fetch comes back. -/
theorem Run.singleFlight_parked :
    ∃ (log : List (Handled MemoryEditor)) (l : EventLoop MemoryEditor),
      Run silent blank .standard log l ∧ l.session.pending = some 2 ∧
        l.session.inFlight = some ⟨1, 0⟩ ∧ SingleFlight log l := by
  have edited : Run silent blank .standard _ _ :=
    (Run.start.arrive (.command _ .documentChanged rfl)).handle rfl
  have fetching := (edited.arrive (.fire _)).handle rfl
  have again := (fetching.arrive (.command _ .documentChanged rfl)).handle rfl
  have parked := (again.arrive (.fire _)).handle rfl
  exact ⟨_, _, parked, rfl, rfl, parked.singleFlight rfl⟩

end EventLoop
end InlineCompletion.Ghost
