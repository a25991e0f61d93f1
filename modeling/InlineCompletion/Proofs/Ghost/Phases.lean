import InlineCompletion.Proofs.Ghost.LastEdit

/-!
The phases of a running loop. A phase is read off several fields in an order of priority; in a
running loop the order does not matter, since at most one of these fields says something at a time.
So the loop moves between idle, debouncing, fetching and showing as a machine of four phases does,
and where an event leads can be told from the phase, the event, the generation and the editor.
-/
namespace InlineCompletion.Ghost
variable {σ : Type} {c : Control} {ahead : List Event}

/-- The phase of a session, without its texts. -/
def Control.phase (c : Control) (index : Nat) : Phase :=
  if c.onOffer then .showing index
  else if c.debouncing then .debouncing
  else if c.inFlight.isSome || c.pending.isSome then .fetching
  else .idle

theorem Session.phase_eq (s : Session σ) : s.phase = s.control.phase s.offers.index := rfl

/-- In a coherent loop each phase has its own reason, and no other phase has one. -/
inductive Control.Rests (c : Control) (index : Nat) : Prop where
  | showing (onOffer : c.onOffer = true) (rested : c.debouncing = false)
      (landed : c.inFlight = none) (phase : c.phase index = .showing index)
  | debouncing (hidden : c.onOffer = false) (waits : c.debouncing = true)
      (phase : c.phase index = .debouncing)
  | fetching (hidden : c.onOffer = false) (rested : c.debouncing = false)
      (flying : c.inFlight ≠ none) (phase : c.phase index = .fetching)
  | idle (hidden : c.onOffer = false) (rested : c.debouncing = false)
      (landed : c.inFlight = none) (phase : c.phase index = .idle)

namespace Handled

/-- Whether an event made the session put the text of an escalation on offer. -/
def replaces (h : Handled σ) : Bool :=
  match h.event with
  | .escalationResolved request result _ =>
    match (h.loop.session.finishEscalation request result).1 with
    | .ok .applied => true
    | _ => false
  | _ => false

/-- Where an event leads from a phase. -/
inductive Moves (h : Handled σ) : Phase → Phase → Prop where
  | edit (phase : Phase) (edit : h.event.isEdit = true) : Moves h phase .debouncing
  /-- The timer of the present generation fires, and its fetch starts or waits for its turn. -/
  | fetch (fired : h.event = .timerFired h.loop.session.generation)
      (possible : h.loop.session.inFlight ≠ none ∨ ¬ h.loop.session.sink.OutOfReach) :
      Moves h .debouncing .fetching
  | block (fired : h.event = .timerFired h.loop.session.generation)
      (free : h.loop.session.inFlight = none) (outOfReach : h.loop.session.sink.OutOfReach) :
      Moves h .debouncing .idle
  | outdated (phase : Phase) {generation : Nat} (fired : h.event = .timerFired generation)
      (outdated : generation ≠ h.loop.session.generation) : Moves h phase phase
  | show {ticket : Ticket} {candidates : List Candidate}
      (resolved : h.event = .fetchResolved ticket (.ok candidates))
      (current : ticket.generation = h.loop.session.generation) (found : candidates ≠ []) :
      Moves h .fetching (.showing 0)
  /-- A fetch of the present generation has nothing, or has failed. -/
  | hide {ticket : Ticket} {result : Except CompletionError (List Candidate)}
      (resolved : h.event = .fetchResolved ticket result)
      (current : ticket.generation = h.loop.session.generation)
      (nothing : ∀ candidates, result = .ok candidates → candidates = []) :
      Moves h .fetching .idle
  | stale (phase : Phase) {ticket : Ticket} {result : Except CompletionError (List Candidate)}
      (resolved : h.event = .fetchResolved ticket result)
      (stale : ticket.generation ≠ h.loop.session.generation)
      (kept : phase ≠ .fetching ∨ ¬ h.loop.session.sink.OutOfReach) : Moves h phase phase
  /-- A stale fetch lands, and the one that was parked behind it cannot start. -/
  | strand {ticket : Ticket} {result : Except CompletionError (List Candidate)}
      (resolved : h.event = .fetchResolved ticket result)
      (stale : ticket.generation ≠ h.loop.session.generation)
      (parked : h.loop.session.pending = some h.loop.session.generation)
      (outOfReach : h.loop.session.sink.OutOfReach) : Moves h .fetching .idle
  | cycle {caller : Caller} (index : Nat) (cycled : h.event = .cycle caller) :
      Moves h (.showing index) (.showing ((index + 1) % h.loop.session.offers.items.length))
  | pass {caller : Caller} (phase : Phase) (cycled : h.event = .cycle caller)
      (hidden : ∀ index, phase ≠ .showing index) : Moves h phase phase
  | accept (index : Nat) (accepted : h.accepts = true) : Moves h (.showing index) .idle
  | refuse {caller : Caller} (phase : Phase) (asked : h.event = .accept caller)
      (refused : h.accepts = false) : Moves h phase phase
  | escalate {caller : Caller} (phase : Phase) (asked : h.event = .escalate caller) :
      Moves h phase phase
  | replace (index : Nat) (replaced : h.replaces = true) : Moves h (.showing index) (.showing 0)
  /-- An escalation comes back stale, or has failed. -/
  | discard {request : EscalationRequest} {result : Except GhostError String} {caller : Caller}
      (phase : Phase) (resolved : h.event = .escalationResolved request result caller)
      (kept : h.replaces = false) : Moves h phase phase

end Handled

namespace Coherent

/-- Nothing is parked but behind a fetch in flight. -/
theorem unparked (coherent : Coherent c ahead) (landed : c.inFlight = none) : c.pending = none := by
  by_contra parked
  obtain ⟨generation, parked⟩ := Option.ne_none_iff_exists'.mp parked
  exact (coherent.parked generation parked).2.1 landed

theorem rests (coherent : Coherent c ahead) (index : Nat) : c.Rests index := by
  cases onOffer : c.onOffer with
  | true =>
    obtain ⟨landed, -, rested⟩ := coherent.offered onOffer
    exact .showing onOffer rested landed (by simp [Control.phase, onOffer])
  | false =>
    cases debouncing : c.debouncing with
    | true => exact .debouncing onOffer debouncing (by simp [Control.phase, onOffer, debouncing])
    | false =>
      cases flying : c.inFlight with
      | some ticket =>
        exact .fetching onOffer debouncing (by simp [flying])
          (by simp [Control.phase, onOffer, debouncing, flying])
      | none =>
        have unparked := coherent.unparked flying
        exact .idle onOffer debouncing flying
          (by simp [Control.phase, onOffer, debouncing, flying, unparked])

theorem showing_iff (coherent : Coherent c ahead) {index shown : Nat} :
    c.phase index = .showing shown ↔ c.onOffer = true ∧ index = shown := by
  cases coherent.rests index with
  | showing onOffer rested landed phase => simp [phase, onOffer]
  | debouncing hidden waits phase | fetching hidden rested flying phase
  | idle hidden rested landed phase => simp [phase, hidden]

theorem debouncing_iff (coherent : Coherent c ahead) {index : Nat} :
    c.phase index = .debouncing ↔ c.debouncing = true := by
  cases coherent.rests index with
  | debouncing hidden waits phase => simp [phase, waits]
  | showing onOffer rested landed phase | fetching hidden rested flying phase
  | idle hidden rested landed phase => simp [phase, rested]

theorem fetching_iff (coherent : Coherent c ahead) {index : Nat} :
    c.phase index = .fetching ↔ c.debouncing = false ∧ c.inFlight ≠ none := by
  cases coherent.rests index with
  | fetching hidden rested flying phase => simp [phase, rested, flying]
  | debouncing hidden waits phase => simp [phase, waits]
  | showing onOffer rested landed phase | idle hidden rested landed phase => simp [phase, landed]

theorem idle_iff (coherent : Coherent c ahead) {index : Nat} :
    c.phase index = .idle ↔ c.onOffer = false ∧ c.debouncing = false ∧ c.inFlight = none := by
  cases coherent.rests index with
  | idle hidden rested landed phase => simp [phase, hidden, rested, landed]
  | showing onOffer rested landed phase => simp [phase, onOffer]
  | debouncing hidden waits phase => simp [phase, waits]
  | fetching hidden rested flying phase => simp [phase, flying]

/-- A generation that waits, but not for its timer, waits for a fetch of its own or for its turn. -/
theorem awaiting_iff (coherent : Coherent c ahead) (waits : c.inFlight ≠ none → c.Waits) :
    c.debouncing = false ∧ c.inFlight ≠ none ↔
      c.pending = some c.generation ∨
        ∃ ticket, c.inFlight = some ticket ∧ ticket.generation = c.generation := by
  constructor
  · rintro ⟨rested, flying⟩
    rcases waits flying with debouncing | parked | own
    · exact absurd debouncing (by simp [rested])
    · obtain ⟨generation, parked⟩ := Option.ne_none_iff_exists'.mp parked
      exact .inl (by rw [parked, (coherent.parked generation parked).1])
    · exact .inr own
  · rintro (parked | ⟨ticket, flying, own⟩)
    · obtain ⟨-, flying, rested⟩ := coherent.parked _ parked
      exact ⟨rested, flying⟩
    · exact ⟨(coherent.rested flying own).1, by simp [flying]⟩

end Coherent

namespace EventLoop

/-- What the phase of a loop says about it. -/
structure Reads (l : EventLoop σ) : Prop where
  showing : ∀ index, l.session.phase = .showing index ↔
    l.session.offers.items ≠ [] ∧ l.session.offers.index = index
  debouncing : l.session.phase = .debouncing ↔ l.session.debouncing = true
  fetching : l.session.phase = .fetching ↔
    l.session.debouncing = false ∧ l.session.inFlight ≠ none
  /-- A fetch runs, or its result is in the queue. -/
  outstanding : l.session.phase = .fetching ↔ l.session.debouncing = false ∧
    l.fetches.map FetchTask.ticket ++ l.queue.filterMap Event.ticket? ≠ []
  /-- The fetch of the present generation is in flight, or parked behind another. -/
  awaiting : l.session.phase = .fetching ↔
    l.session.pending = some l.session.generation ∨
      ∃ ticket, l.session.inFlight = some ticket ∧ ticket.generation = l.session.generation
  idle : l.session.phase = .idle ↔
    l.session.offers.items = [] ∧ l.session.debouncing = false ∧ l.session.inFlight = none

variable {world : Collaborators} {sink : Sink σ} {config : Config} {log : List (Handled σ)}
  {l next : EventLoop σ} {event : Event}

/-- A fetch in flight is one the present generation waits for, if it does not wait for its timer. -/
theorem Run.flight_waits (run : Run world sink config log l) (running : l.running = true)
    (flying : l.session.inFlight ≠ none) : l.session.control.Waits := by
  refine run.turns (fun _ c => c.inFlight ≠ none → c.Waits) (absurd rfl) ?_ running flying
  intro log h next later coherent waits turn flying
  cases turn with
  | restart => exact .inl rfl
  | accept accepted onOffer => exact absurd (coherent.offered onOffer).1 flying
  | park => exact .inr (.inl (Option.some_ne_none _))
  | launch due inReach landed current more => exact .inr (.inr ⟨_, rfl, current⟩)
  | block | land | apply => exact absurd rfl flying
  | ask | quiet => exact waits flying

/-- The phase of a running loop says what the loop waits for. -/
theorem Run.reads (run : Run world sink config log l) (running : l.running = true) : l.Reads := by
  have coherent := run.coherent running
  have fetching : l.session.phase = .fetching ↔
      l.session.debouncing = false ∧ l.session.inFlight ≠ none := coherent.fetching_iff
  constructor
  case showing =>
    intro index
    rw [← Session.onOffer_iff]
    exact coherent.showing_iff
  case debouncing => exact coherent.debouncing_iff
  case fetching => exact fetching
  case outstanding =>
    rw [fetching, outstanding_eq coherent]
    simp
  case awaiting => exact fetching.trans (coherent.awaiting_iff (run.flight_waits running))
  case idle =>
    rw [Session.phase_eq, coherent.idle_iff]
    simp [Session.control]

/-! ### Where each event leads -/

theorem moves_edit (edit : event.isEdit = true)
    (after : Coherent (l.handle world event).session.control (l.handle world event).ahead) :
    Handled.Moves ⟨l, event⟩ l.session.phase (l.handle world event).session.phase := by
  have waits : (l.handle world event).session.control.debouncing = true := by
    cases event with
    | documentChanged | cursorMoved =>
      rw [handle_call world l rfl, SessionCall.apply, Session.control_restartDebounce]
      rfl
    | _ => cases edit
  rw [Session.phase_eq (l.handle world event).session, after.debouncing_iff.mpr waits]
  exact .edit _ edit

theorem moves_firing (world : Collaborators)
    (coherent : Coherent l.session.control (.timerFired l.session.generation :: l.ahead)) :
    Handled.Moves ⟨l, .timerFired l.session.generation⟩ l.session.phase
      (l.handle world (.timerFired l.session.generation)).session.phase := by
  have turn := @turn_timerFired _ world _ _ coherent
  have after := coherent.turn turn
  obtain ⟨debouncing, -⟩ := coherent.firing rfl
  have before : l.session.phase = .debouncing := coherent.debouncing_iff.mpr debouncing
  rw [before, Session.phase_eq (l.handle world _).session]
  generalize (l.handle world _).session.control = next, (l.handle world _).ahead = later
    at turn after ⊢
  cases turn with
  | restart edit | accept edit => cases edit
  | land resolved | apply resolved => cases resolved
  | ask asked => cases asked
  | quiet noEdit refused noLanding noFiring => exact absurd rfl noFiring
  | park fired flying =>
    rw [after.fetching_iff.mpr ⟨rfl, flying⟩]
    exact .fetch rfl (.inl flying)
  | launch due inReach =>
    rw [after.fetching_iff.mpr ⟨rfl, Option.some_ne_none _⟩]
    cases due with
    | fired current free => exact .fetch rfl (.inr inReach)
  | block due outOfReach =>
    rw [after.idle_iff.mpr ⟨coherent.hidden (.inl debouncing), rfl, rfl⟩]
    cases due with
    | fired current free => exact .block rfl free outOfReach

/-- What is parked behind a stale fetch starts or not, and what waits for its timer still does. -/
theorem moves_stale (world : Collaborators) {ticket : Ticket}
    {result : Except CompletionError (List Candidate)}
    (coherent : Coherent l.session.control (.fetchResolved ticket result :: l.ahead))
    (waits : l.session.inFlight ≠ none → l.session.control.Waits)
    (stale : ticket.generation ≠ l.session.generation) :
    Handled.Moves ⟨l, .fetchResolved ticket result⟩ l.session.phase
      (l.handle world (.fetchResolved ticket result)).session.phase := by
  have turn := @turn_stale _ world _ _ _ coherent stale
  have after := coherent.turn turn
  obtain ⟨flying, -⟩ := coherent.landing rfl
  have dropped : (l.session.fetchResolved ticket result).2 = l.session.discard := by
    rw [Session.fetchResolved_discard result flying stale]
  have before (parked : l.session.pending = some l.session.generation) :
      l.session.phase = .fetching := by
    obtain ⟨-, flying, rested⟩ := coherent.parked _ parked
    exact coherent.fetching_iff.mpr ⟨rested, flying⟩
  rw [Session.phase_eq (l.handle world _).session]
  generalize (l.handle world _).session.control = next, (l.handle world _).ahead = later
    at turn after ⊢
  cases turn with
  | restart edit | accept edit => cases edit
  | park fired => cases fired
  | ask asked => cases asked
  | quiet noEdit refused noLanding noFiring => cases noLanding
  | apply resolved flying current =>
    cases resolved
    exact absurd current stale
  | launch due inReach =>
    cases due with
    | drained landed free parked =>
      rw [← landed, dropped] at parked inReach
      rw [before parked, after.fetching_iff.mpr ⟨rfl, Option.some_ne_none _⟩]
      exact .stale _ rfl stale (.inr inReach)
  | block due outOfReach =>
    cases due with
    | drained landed free parked =>
      rw [← landed, dropped] at parked outOfReach
      have waits : l.session.control.pending ≠ none := ne_of_eq_of_ne parked (Option.some_ne_none _)
      rw [before parked, after.idle_iff.mpr ⟨coherent.hidden (.inr waits), rfl, rfl⟩]
      exact .strand rfl stale parked outOfReach
  | land resolved flying other nothing =>
    -- the present generation waits for something, and only its timer is left
    have debouncing : l.session.debouncing = true := by
      rcases waits (ne_of_eq_of_ne flying (Option.some_ne_none _)) with
        debouncing | parked | ⟨own, inFlight, current⟩
      · exact debouncing
      · exact absurd nothing parked
      · cases flying.symm.trans inFlight
        exact absurd current other
    have phase : l.session.phase = .debouncing := coherent.debouncing_iff.mpr debouncing
    rw [phase, after.debouncing_iff.mpr debouncing]
    exact .stale _ rfl stale (.inl nofun)

/-- A result of the present generation shows what it has. -/
theorem moves_current (world : Collaborators) {ticket : Ticket}
    {result : Except CompletionError (List Candidate)}
    (coherent : Coherent l.session.control (.fetchResolved ticket result :: l.ahead))
    (current : ticket.generation = l.session.generation) :
    Handled.Moves ⟨l, .fetchResolved ticket result⟩ l.session.phase
      (l.handle world (.fetchResolved ticket result)).session.phase := by
  have after := coherent.turn (@turn_current _ world _ _ _ coherent current)
  obtain ⟨flying, -⟩ := coherent.landing rfl
  obtain ⟨rested, unparked⟩ := coherent.rested flying current
  have before : l.session.phase = .fetching :=
    coherent.fetching_iff.mpr ⟨rested, by simp [flying]⟩
  -- nothing is parked behind this fetch, so none starts after it
  have session : (l.handle world (.fetchResolved ticket result)).session =
      (l.session.fetchResolved ticket result).2 := by
    rw [(handle_fetchResolved world l ticket result).1, Session.drainPending_none]
    exact (Session.fetchResolved_pending ticket result).trans unparked
  rw [session] at after
  rw [before, session, Session.phase_eq]
  by_cases nothing : ∀ candidates, result = .ok candidates → candidates = []
  · rw [Session.fetchResolved_nothing current nothing] at after ⊢
    rw [Session.control_hide, Session.control_land] at after
    rw [Session.control_hide, Session.control_land,
      after.idle_iff.mpr ⟨rfl, rested, if_pos flying⟩]
    exact .hide rfl current nothing
  · push Not at nothing
    obtain ⟨candidates, rfl, found⟩ := nothing
    rw [Session.fetchResolved_found current found] at after ⊢
    have onOffer : Control.onOffer
        (({ l.session.land ticket with anchor := ticket.anchor } : Session σ).offer
          (candidates.map Item.candidate)).control = true := by
      simp [found]
    rw [after.showing_iff.mpr ⟨onOffer, by rw [Session.offer, Session.render_offers]⟩]
    exact .show rfl current found

theorem moves_cycle (world : Collaborators) (caller : Caller)
    (coherent : Coherent l.session.control (.cycle caller :: l.ahead)) :
    Handled.Moves ⟨l, .cycle caller⟩ l.session.phase
      (l.handle world (.cycle caller)).session.phase := by
  rw [handle_call world l rfl, SessionCall.apply]
  by_cases nothing : l.session.offers.items = []
  · have same : l.session.cycle.2.phase = l.session.phase := by
      rcases Session.cycle_empty nothing with same | said
      · rw [same]
      · rw [said]
        rfl
    rw [same]
    refine .pass _ rfl fun index showing => ?_
    exact Session.onOffer_iff.mp (coherent.showing_iff.mp showing).1 nothing
  · have onOffer := Session.onOffer_iff.mpr nothing
    have after : Coherent l.session.cycle.2.control (.cycle caller :: l.ahead) := by
      rwa [Session.control_cycle]
    have index : l.session.cycle.2.offers.index =
        (l.session.offers.index + 1) % l.session.offers.items.length := by
      rw [Session.cycle_showing nothing, Session.render_offers]
      simp [Offers.advance, nothing]
    rw [Session.phase_eq, Session.phase_eq, coherent.showing_iff.mpr ⟨onOffer, rfl⟩,
      after.showing_iff.mpr ⟨by rwa [Session.control_cycle], index⟩]
    exact .cycle _ rfl

theorem moves_accept (world : Collaborators) (caller : Caller) (valid : l.session.offers.Valid)
    (coherent : Coherent l.session.control (.accept caller :: l.ahead)) :
    Handled.Moves ⟨l, .accept caller⟩ l.session.phase
      (l.handle world (.accept caller)).session.phase := by
  have after := coherent.turn (@turn_accept _ world _ valid caller)
  rw [handle_call world l rfl, SessionCall.apply] at after ⊢
  rcases Session.accept_cases l.session with
    ⟨error, sink, refused, -⟩ | ⟨text, view, sink, shown, -, -, accepted⟩
  · have same : l.session.accept.2.phase = l.session.phase := by
      rw [refused]
      rfl
    rw [same]
    exact .refuse _ rfl (by simp [Handled.accepts, refused, Except.isOk, Except.toBool])
  · have onOffer := Session.onOffer_iff.mpr (valid.items_ne_nil shown)
    obtain ⟨landed, -, rested⟩ := coherent.offered onOffer
    have reset : l.session.accept.2.control = l.session.control.reset := by
      rw [accepted]
      exact Session.control_clear
    rw [reset] at after
    rw [Session.phase_eq, Session.phase_eq, reset, coherent.showing_iff.mpr ⟨onOffer, rfl⟩,
      after.idle_iff.mpr ⟨rfl, rfl, landed⟩]
    exact .accept _ (by simp [Handled.accepts, accepted, Except.isOk, Except.toBool])

theorem moves_escalate (world : Collaborators) (caller : Caller) :
    Handled.Moves ⟨l, .escalate caller⟩ l.session.phase
      (l.handle world (.escalate caller)).session.phase := by
  rw [handle_call world l rfl, SessionCall.apply]
  have same : l.session.beginEscalation.2.phase = l.session.phase := by
    rcases Session.beginEscalation_cases l.session with ⟨-, refused⟩ | ⟨text, -, asked⟩
    · rw [refused]
      rfl
    · rw [asked]
  rw [same]
  exact .escalate _ rfl

theorem moves_escalationResolved (world : Collaborators) {request : EscalationRequest}
    {result : Except GhostError String} {caller : Caller}
    (coherent : Coherent l.session.control (.escalationResolved request result caller :: l.ahead)) :
    Handled.Moves ⟨l, .escalationResolved request result caller⟩ l.session.phase
      (l.handle world (.escalationResolved request result caller)).session.phase := by
  have after := coherent.turn (@turn_escalationResolved _ world _ _ _ _ coherent)
  rw [handle_call world l rfl, SessionCall.apply] at after ⊢
  by_cases current : request.generation = l.session.generation
  · cases result with
    | ok text =>
      have onOffer := (coherent.escalations request (by simp [Event.request?])).2 current
      rw [Session.finishEscalation_ok text current] at after ⊢
      have replaced : Control.onOffer
          (l.session.offer [.escalated (Text.trimmed text)]).control = true := by
        simp
      rw [Session.phase_eq, Session.phase_eq, coherent.showing_iff.mpr ⟨onOffer, rfl⟩,
        after.showing_iff.mpr ⟨replaced, by rw [Session.offer, Session.render_offers]⟩]
      exact .replace _ (by simp [Handled.replaces, Session.finishEscalation_ok text current])
    | error error =>
      have kept : Handled.replaces ⟨l, .escalationResolved request (.error error) caller⟩ = false := by
        simp [Handled.replaces, Session.finishEscalation_error error current]
      rw [Session.finishEscalation_error error current]
      exact .discard _ rfl kept
  · have kept : Handled.replaces ⟨l, .escalationResolved request result caller⟩ = false := by
      simp [Handled.replaces, Session.finishEscalation_stale result current]
    rw [Session.finishEscalation_stale result current]
    exact .discard _ rfl kept

/-- Every event leads where the machine of four phases goes. -/
theorem moves_handle (world : Collaborators) (valid : l.session.offers.Valid)
    (coherent : Coherent l.session.control (event :: l.ahead))
    (waits : l.session.inFlight ≠ none → l.session.control.Waits) (goesOn : event ≠ .shutdown) :
    Handled.Moves ⟨l, event⟩ l.session.phase (l.handle world event).session.phase := by
  cases event with
  | documentChanged | cursorMoved => exact moves_edit rfl (coherent.turn (turn_edit rfl))
  | timerFired generation =>
    by_cases current : generation = l.session.generation
    · subst current
      exact moves_firing world coherent
    · rw [(handle_timerFired world l generation).1, Session.timerFired_outdated current]
      exact .outdated _ rfl current
  | fetchResolved ticket result =>
    by_cases current : ticket.generation = l.session.generation
    · exact moves_current world coherent current
    · exact moves_stale world coherent waits current
  | cycle caller => exact moves_cycle world caller coherent
  | accept caller => exact moves_accept world caller valid coherent
  | escalate caller => exact moves_escalate world caller
  | escalationResolved request result caller => exact moves_escalationResolved world coherent
  | shutdown => exact absurd rfl goesOn

/-- What is published is the view of the session. -/
theorem Run.published_eq (run : Run world sink config log l) :
    l.published = l.session.snapshot := by
  induction run with
  | start => rfl
  | arrive before arrival ih =>
    obtain ⟨change, session⟩ := arrival.session
    rw [arrival.published, ih, session]
    rfl
  | @handle log l event rest before queued ih => cases event <;> rfl
  | abandon before ih =>
    unfold EventLoop.abandon
    split
    · rfl
    · exact ih

theorem withSession_self (l : EventLoop σ) : l.withSession l.session = l := by
  simp [withSession]

/-- An outdated timer changes nothing. -/
theorem handle_outdated (world : Collaborators) (published : l.published = l.session.snapshot)
    {generation : Nat} (outdated : generation ≠ l.session.generation) :
    l.handle world (.timerFired generation) = l := by
  simp only [handle, react, Session.timerFired_outdated outdated, withSession_self, spawnFetch,
    publish, ← published]

theorem Arrival.phase (arrival : Arrival l next) : next.session.phase = l.session.phase := by
  obtain ⟨change, session⟩ := arrival.session
  rw [session]
  rfl

/-- A running loop moves between its phases as a machine of four phases does, and only when it
handles an event; each phase tells what the loop waits for. -/
theorem Reachable.phase_moves (reachable : Reachable world sink config l)
    (running : l.running = true) :
    l.Reads ∧ l.published = l.session.snapshot ∧
      (∀ next, Arrival l next → next.session.phase = l.session.phase) ∧
      ∀ event rest, l.queue = event :: rest → event ≠ .shutdown →
        let before : EventLoop σ := { l with queue := rest }
        let after := before.handle world event
        Handled.Moves ⟨before, event⟩ before.session.phase after.session.phase ∧
          (event.isEdit = true → after.session.offers = .none) ∧
          ∀ generation, event = .timerFired generation →
            generation ≠ before.session.generation → after = before := by
  obtain ⟨log, run⟩ := reachable_iff_run.mp reachable
  refine ⟨run.reads running, run.published_eq, fun _ => Arrival.phase, ?_⟩
  intro event rest queued goesOn before after
  have coherent := (run.coherent running).perm (ahead_queue queued).symm
  have waits := run.flight_waits running
  refine ⟨moves_handle (l := before) world run.offers_valid coherent waits goesOn, ?_, ?_⟩
  · intro edit
    cases event with
    | documentChanged | cursorMoved =>
      change before.session.restartDebounce.offers = .none
      rw [Session.restartDebounce_eq]
    | _ => cases edit
  · rintro generation rfl outdated
    exact handle_outdated (l := before) world run.published_eq outdated

/-- A fetch that was parked when the editor was closed leads from fetching to idle. -/
theorem Reachable.phase_moves_strand :
    ∃ l : EventLoop MemoryEditor, Reachable silent blank .standard l ∧ l.running = true ∧
      ∃ event rest, l.queue = event :: rest ∧ event ≠ .shutdown ∧
        Handled.Moves ⟨{ l with queue := rest }, event⟩ .fetching .idle := by
  have edited : Run silent blank .standard _ _ :=
    (Run.start.arrive (.command _ .documentChanged rfl)).handle rfl
  have fetching := (edited.arrive (.fire _)).handle rfl
  have again := (fetching.arrive (.command _ .documentChanged rfl)).handle rfl
  have parked := (again.arrive (.fire _)).handle rfl
  have closed := parked.arrive (.host _ fun editor => { editor with view := none })
  have reachable := reachable_iff_run.mpr ⟨_, closed.arrive (.finishFetch _ 0)⟩
  obtain ⟨-, -, -, moves⟩ := reachable.phase_moves rfl
  exact ⟨_, reachable, rfl, _, _, rfl, nofun, (moves _ _ rfl nofun).1⟩

end EventLoop
end InlineCompletion.Ghost
