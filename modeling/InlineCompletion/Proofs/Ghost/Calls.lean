import InlineCompletion.Ghost.Reach
import InlineCompletion.Proofs.Completion.Cursor
import InlineCompletion.Proofs.Ghost.Offers

/-!
What each call of a session does, as one equation or one case distinction for each, so that no later
proof has to look into a call again. Drawing is the only thing that all calls share: whatever was
drawn is removed, and the text to show, if there is one, is drawn anew.
-/
namespace InlineCompletion.Ghost

/-- A context is refused exactly for a cursor behind the end of the document, and otherwise holds as
many characters before the cursor as the cursor says. -/
theorem extractContext_cases (document : String) (cursor : Nat) (marker : String) :
    (document.toList.length < cursor ∧ ∃ error, extractContext document cursor marker = .error error) ∨
      (cursor ≤ document.toList.length ∧
        ∃ context, extractContext document cursor marker = .ok context ∧
          context.beforeCursor.toList.length = cursor) := by
  rw [String.length_toList]
  rcases Nat.lt_or_ge document.length cursor with beyond | within
  · left
    have split := splitAtCursor_beyond beyond
    exact ⟨beyond, _, by rw [extractContext, split]; rfl⟩
  · right
    obtain ⟨context, _, _, extracted, -, -, read⟩ := readAt_within within marker
    exact ⟨within, context, extracted, by rw [String.length_toList, read.characters]⟩

/-- There is no editor, or its cursor lies behind the end of its document. -/
def Sink.OutOfReach {σ : Type} (sink : Sink σ) : Prop :=
  sink.view = none ∨ ∃ view, sink.view = some view ∧ view.document.toList.length < view.cursor

/-- Whether a call draws or removes a decoration. -/
def SinkCall.isDrawing : SinkCall → Bool
  | .create _ _ _ | .dispose _ => true
  | .insert _ _ | .notice _ _ => false

/-- Whether a call shows a notice. -/
def SinkCall.isNotice : SinkCall → Bool
  | .notice _ _ => true
  | .create _ _ _ | .dispose _ | .insert _ _ => false

/-- A fetch for the present generation of a session and for its cursor, before which the context
ends. -/
def FetchRequest.AtCursorOf {σ : Type} (request : FetchRequest) (s : Session σ) : Prop :=
  ∃ view, s.sink.view = some view ∧ request.ticket = ⟨s.generation, view.cursor⟩ ∧
    request.context.beforeCursor.toList.length = view.cursor

namespace Session
variable {σ : Type} {s : Session σ}

/-- The ghost text that a session shows for a text. -/
def ghost (s : Session σ) (text : String) : GhostText :=
  ⟨text, s.anchor⟩

/-- The sink once the decoration of a session is removed. -/
def erased (s : Session σ) : Sink σ :=
  match s.decoration with
  | some handle => s.sink.dispose handle
  | none => s.sink

/-- The name of the decoration for a text, and the sink once it is drawn in place of the old one. -/
def redrawn (s : Session σ) (text : String) : Handle × Sink σ :=
  s.erased.create (s.ghost text) (decorationFor (s.ghost text) s.config.ghostStyle)

theorem undraw_eq (s : Session σ) : s.undraw = { s with sink := s.erased, decoration := none } := by
  obtain ⟨sink, config, offers, generation, debouncing, inFlight, pending, anchor, decoration, stats⟩ := s
  cases decoration <;> rfl

theorem render_of_none (hidden : s.offers.activeText = none) :
    s.render = { s with sink := s.erased, decoration := none } := by
  simp only [render, draw, undraw_eq, hidden]

theorem render_of_some {text : String} (shown : s.offers.activeText = some text) :
    s.render = { s with sink := (s.redrawn text).2, decoration := some (s.redrawn text).1 } := by
  simp only [render, draw, undraw_eq, shown]
  rfl

/-- Rendering changes the sink and the decoration, and nothing else. -/
theorem render_frame (s : Session σ) :
    ∃ sink decoration, s.render = { s with sink, decoration } := by
  cases shown : s.offers.activeText with
  | none => exact ⟨_, _, render_of_none shown⟩
  | some text => exact ⟨_, _, render_of_some shown⟩

theorem hide_eq (s : Session σ) :
    s.hide = { s with offers := .none, sink := s.erased, decoration := none } :=
  render_of_none (s := { s with offers := .none }) rfl

theorem restartDebounce_eq (s : Session σ) :
    s.restartDebounce =
      { s with
        offers := .none, sink := s.erased, decoration := none
        generation := s.generation + 1, pending := none, debouncing := true } := by
  rw [restartDebounce, hide_eq]

theorem clear_eq (s : Session σ) :
    s.clear =
      { s with
        offers := .none, sink := s.erased, decoration := none
        generation := s.generation + 1, pending := none, debouncing := false } := by
  rw [clear, hide_eq]

/-! ### Fetches -/

/-- A session with a fetch in flight that was not before. -/
def launch (s : Session σ) (ticket : Ticket) : Session σ :=
  { s with
    inFlight := some ticket
    stats := { s.stats with fetches := s.stats.fetches + 1, hasFetched := true } }

/-- A fetch starts unless the editor is out of reach, and names the cursor it starts at. -/
theorem startFetch_cases (s : Session σ) (generation : Nat) :
    (s.startFetch generation = (none, s) ∧ s.sink.OutOfReach) ∨
      ∃ request view, s.startFetch generation = (some request, s.launch request.ticket) ∧
        ¬ s.sink.OutOfReach ∧ s.sink.view = some view ∧
        request.ticket = ⟨generation, view.cursor⟩ ∧
        request.context.beforeCursor.toList.length = view.cursor := by
  unfold startFetch
  cases seen : s.sink.view with
  | none => exact .inl ⟨rfl, .inl seen⟩
  | some view =>
    rcases extractContext_cases view.document view.cursor s.config.lengthTagMarker with
      ⟨behind, error, refused⟩ | ⟨within, context, taken, length⟩
    · left
      simp only [refused]
      exact ⟨trivial, .inr ⟨view, seen, behind⟩⟩
    · right
      refine ⟨⟨⟨generation, view.cursor⟩, context⟩, view, by simp only [taken]; rfl, ?_, rfl, rfl,
        length⟩
      rintro (noEditor | ⟨other, same, behind⟩)
      · simp [seen] at noEditor
      · rw [seen, Option.some.injEq] at same
        subst same
        omega

theorem timerFired_outdated {generation : Nat} (outdated : generation ≠ s.generation) :
    s.timerFired generation = (none, s) := by
  simp only [timerFired, ne_eq, outdated, not_false_eq_true, ↓reduceIte]

/-- A session whose timer fired while a fetch was in flight. -/
def park (s : Session σ) : Session σ :=
  { s with
    debouncing := false
    stats := { s.stats with suppressedFires := s.stats.suppressedFires + 1 }
    pending := some s.generation }

theorem timerFired_parked (flying : s.inFlight.isSome) :
    s.timerFired s.generation = (none, s.park) := by
  simp only [timerFired, ne_eq, not_true_eq_false, ↓reduceIte, flying, park]

theorem timerFired_free (free : s.inFlight = none) :
    s.timerFired s.generation = { s with debouncing := false }.startFetch s.generation := by
  simp only [timerFired, ne_eq, not_true_eq_false, ↓reduceIte, free, Option.isSome_none,
    Bool.false_eq_true]

theorem land_eq (s : Session σ) (ticket : Ticket) :
    s.land ticket =
      { s with inFlight := if s.inFlight = some ticket then none else s.inFlight } := by
  unfold land
  split <;> rfl

theorem land_flying {ticket : Ticket} (flying : s.inFlight = some ticket) :
    s.land ticket = { s with inFlight := none } := by
  rw [land_eq, if_pos flying]

theorem fetchResolved_stale {ticket : Ticket} (result : Except CompletionError (List Candidate))
    (stale : ticket.generation ≠ s.generation) :
    s.fetchResolved ticket result = (.stale, (s.land ticket).dropStale) := by
  simp only [fetchResolved, land_eq, ne_eq, stale, not_false_eq_true, ↓reduceIte]

/-- A session whose fetch in flight came back too late. -/
def discard (s : Session σ) : Session σ :=
  { s.dropStale with inFlight := none }

theorem fetchResolved_discard {ticket : Ticket} (result : Except CompletionError (List Candidate))
    (flying : s.inFlight = some ticket) (stale : ticket.generation ≠ s.generation) :
    s.fetchResolved ticket result = (.stale, s.discard) := by
  rw [fetchResolved_stale result stale, land_flying flying]
  rfl

/-- A result of the present generation shows its candidates, or hides what is shown if it has
none. -/
theorem fetchResolved_cases {ticket : Ticket} (result : Except CompletionError (List Candidate))
    (current : ticket.generation = s.generation) :
    (∃ candidates, result = .ok candidates ∧ candidates ≠ [] ∧
        s.fetchResolved ticket result = (.shown candidates.length,
          { s.land ticket with anchor := ticket.anchor }.offer (candidates.map .candidate))) ∨
      ∃ outcome, (outcome = .empty ∨ outcome = .failed) ∧
        s.fetchResolved ticket result = (outcome, (s.land ticket).hide) := by
  have landed : (s.land ticket).generation = s.generation := by rw [land_eq]
  simp only [fetchResolved, landed, ne_eq, current, not_true_eq_false, ↓reduceIte]
  match result with
  | .ok [] => exact .inr ⟨.empty, .inl rfl, rfl⟩
  | .ok (candidate :: rest) => exact .inl ⟨_, rfl, List.cons_ne_nil _ _, rfl⟩
  | .error error =>
    right
    cases error with
    | emptySuggestionResult => exact ⟨.empty, .inl rfl, rfl⟩
    | _ => exact ⟨.failed, .inr rfl, rfl⟩

theorem fetchResolved_found {ticket : Ticket} {candidates : List Candidate}
    (current : ticket.generation = s.generation) (found : candidates ≠ []) :
    s.fetchResolved ticket (.ok candidates) = (.shown candidates.length,
      { s.land ticket with anchor := ticket.anchor }.offer (candidates.map .candidate)) := by
  have landed : (s.land ticket).generation = s.generation := by rw [land_eq]
  cases candidates with
  | nil => exact absurd rfl found
  | cons first rest =>
    simp only [fetchResolved, landed, ne_eq, current, not_true_eq_false, ↓reduceIte]

theorem fetchResolved_nothing {ticket : Ticket} {result : Except CompletionError (List Candidate)}
    (current : ticket.generation = s.generation)
    (nothing : ∀ candidates, result = .ok candidates → candidates = []) :
    (s.fetchResolved ticket result).2 = (s.land ticket).hide := by
  rcases fetchResolved_cases result current with ⟨candidates, got, found, -⟩ | ⟨outcome, -, hidden⟩
  · exact absurd (nothing candidates got) found
  · rw [hidden]

theorem drainPending_none (nothing : s.pending = none) : s.drainPending = (none, s) := by
  unfold drainPending
  split <;> simp only [nothing]

theorem drainPending_parked (free : s.inFlight = none) (parked : s.pending = some s.generation) :
    s.drainPending = { s with pending := none }.startFetch s.generation := by
  simp [drainPending, free, parked]

theorem startFetch_frame (s : Session σ) (generation : Nat) :
    ∃ inFlight stats, (s.startFetch generation).2 = { s with inFlight, stats } := by
  rcases s.startFetch_cases generation with ⟨none, -⟩ | ⟨request, view, started, -⟩
  · exact ⟨_, _, by rw [none]⟩
  · exact ⟨_, _, by rw [started]; rfl⟩

theorem startFetch_request {request : FetchRequest}
    (handed : (s.startFetch s.generation).1 = some request) : request.AtCursorOf s := by
  rcases s.startFetch_cases s.generation with ⟨none, -⟩ | ⟨issued, view, started, -, spec⟩
  · rw [none] at handed
    cases handed
  · rw [started] at handed
    cases handed
    exact ⟨view, spec⟩

theorem timerFired_request {generation : Nat} {request : FetchRequest}
    (handed : (s.timerFired generation).1 = some request) : request.AtCursorOf s := by
  unfold timerFired at handed
  split at handed
  · cases handed
  next current =>
    split at handed
    · cases handed
    · obtain rfl : generation = s.generation := by simpa using current
      exact startFetch_request (s := { s with debouncing := false }) handed

/-- Only the timer of the present generation starts a fetch, and only while none is in flight. -/
theorem timerFired_due {generation : Nat} {request : FetchRequest}
    (handed : (s.timerFired generation).1 = some request) :
    generation = s.generation ∧ s.inFlight = none := by
  by_cases current : generation = s.generation
  · subst current
    refine ⟨rfl, ?_⟩
    cases flying : s.inFlight with
    | none => rfl
    | some ticket =>
      rw [timerFired_parked (by rw [flying]; rfl)] at handed
      cases handed
  · rw [timerFired_outdated current] at handed
    cases handed

theorem drainPending_request {request : FetchRequest}
    (handed : s.drainPending.1 = some request) : request.AtCursorOf s := by
  unfold drainPending at handed
  split at handed
  · cases handed
  · split at handed
    · cases handed
    next generation parked =>
      dsimp only at handed
      split at handed
      · cases handed
      next current =>
        obtain rfl : generation = s.generation := by simpa using current
        exact startFetch_request (s := { s with pending := none }) handed

/-- Only the parked timer of the present generation starts a fetch, and only while none is in
flight. -/
theorem drainPending_due {request : FetchRequest} (handed : s.drainPending.1 = some request) :
    s.inFlight = none ∧ s.pending = some s.generation := by
  unfold drainPending at handed
  split at handed
  · cases handed
  next free =>
    split at handed
    · cases handed
    next generation parked =>
      dsimp only at handed
      split at handed
      · cases handed
      next current =>
        obtain rfl : generation = s.generation := by simpa using current
        exact ⟨by simpa using free, parked⟩

/-- A timer changes only what a session waits for. -/
theorem timerFired_frame (s : Session σ) (generation : Nat) :
    ∃ debouncing inFlight pending stats,
      (s.timerFired generation).2 = { s with debouncing, inFlight, pending, stats } := by
  unfold timerFired
  split
  · exact ⟨_, _, _, _, rfl⟩
  · split
    · exact ⟨_, _, _, _, rfl⟩
    · obtain ⟨inFlight, stats, started⟩ :=
        startFetch_frame { s with debouncing := false } generation
      exact ⟨_, _, _, _, started⟩

/-- Draining changes only what a session waits for. -/
theorem drainPending_frame (s : Session σ) :
    ∃ inFlight pending stats, s.drainPending.2 = { s with inFlight, pending, stats } := by
  unfold drainPending
  split
  · exact ⟨_, _, _, rfl⟩
  · split
    · exact ⟨_, _, _, rfl⟩
    · dsimp only
      split
      · exact ⟨_, _, _, rfl⟩
      · obtain ⟨inFlight, stats, started⟩ := startFetch_frame { s with pending := none } _
        exact ⟨_, _, _, started⟩

/-! ### Commands and escalations -/

theorem phase_offered (offered : s.offers.items ≠ []) : s.phase = .showing s.offers.index := by
  simp [phase, offered]

/-- A session shows only what is on offer. -/
theorem items_ne_nil_of_showing {index : Nat} (showing : s.phase = .showing index) :
    s.offers.items ≠ [] := by
  intro nothing
  simp only [phase, nothing, List.isEmpty_nil, Bool.not_true, Bool.false_eq_true, ↓reduceIte]
    at showing
  split at showing
  · cases showing
  · split at showing <;> cases showing

theorem cycle_showing (showing : s.offers.items ≠ []) :
    s.cycle = (some s.offers.advance.index, { s with offers := s.offers.advance }.render) := by
  simp only [cycle, phase_offered showing, Offers.advance?_offered showing]

/-- With nothing on offer there is nothing to cycle through; only an idle session says so. -/
theorem cycle_empty (nothing : s.offers.items = []) :
    s.cycle = (none, s) ∨
      s.cycle = (none, { s with sink := s.sink.notify .info "No Ghost Text to cycle." }) := by
  unfold cycle
  cases phase : s.phase with
  | showing index => exact absurd nothing (items_ne_nil_of_showing phase)
  | idle => exact .inr rfl
  | debouncing => exact .inl rfl
  | fetching => exact .inl rfl

/-- Cycling goes on to the next item. Beside that it changes only the sink and the decoration. -/
theorem cycle_frame (s : Session σ) :
    ∃ sink decoration, s.cycle.2 = { s with offers := s.offers.advance, sink, decoration } := by
  by_cases nothing : s.offers.items = []
  · rw [Offers.advance_empty nothing]
    rcases cycle_empty nothing with same | said
    · exact ⟨_, _, by rw [same]⟩
    · exact ⟨_, _, by rw [said]⟩
  · obtain ⟨sink, decoration, rendered⟩ := render_frame { s with offers := s.offers.advance }
    exact ⟨sink, decoration, by rw [cycle_showing nothing, rendered]⟩

/-- Why a text is not accepted. The editor is looked at first, then the text, and only then is the
text handed to the editor. -/
inductive Refuses (s : Session σ) : GhostError → Prop where
  | noEditor (closed : s.sink.view = none) : Refuses s .noActiveTarget
  | nothingShown {view : EditorView} (seen : s.sink.view = some view)
      (hidden : s.offers.activeText = none) : Refuses s (.nothingToAct "accept")
  | rejected {view : EditorView} {text reason : String} (seen : s.sink.view = some view)
      (shown : s.offers.activeText = some text)
      (rejected : (s.sink.insert view.cursor text).1 = .error reason) : Refuses s (.editor reason)

/-- Text is accepted if the editor takes it at its cursor, and then the session is cleared. Else
the session only says in one notice why it was not, if need be after the editor refused the text. -/
theorem accept_cases (s : Session σ) :
    (∃ error sink, s.accept = (.error error, { s with sink }) ∧
        ∃ tail, sink.log = s.sink.log ++ tail ∧ (∀ call ∈ tail, call.isDrawing = false) ∧
          tail.countP SinkCall.isNotice = 1 ∧ s.Refuses error) ∨
      ∃ text view sink, s.offers.activeText = some text ∧ s.sink.view = some view ∧
        s.sink.insert view.cursor text = (.ok (), sink) ∧
        s.accept = (.ok text,
          let cleared := { s with sink }.clear
          { cleared with
            sink := cleared.sink.notify .info "Ghost Text inserted into editor." }) := by
  unfold accept
  cases seen : s.sink.view with
  | none => exact .inl ⟨_, _, rfl, [_], rfl, by simp [SinkCall.isDrawing], rfl, .noEditor seen⟩
  | some view =>
    cases shown : s.offers.activeText with
    | none =>
      exact .inl ⟨_, _, rfl, [_], rfl, by simp [SinkCall.isDrawing], rfl, .nothingShown seen shown⟩
    | some text =>
      obtain ⟨answer, sink, inserted⟩ :
          ∃ answer sink, s.sink.insert view.cursor text = (answer, sink) := ⟨_, _, rfl⟩
      cases answer with
      | error reason =>
        left
        have log : sink.log = s.sink.log ++ [.insert view.cursor text] :=
          congrArg (fun answer => answer.2.log) inserted.symm
        refine ⟨.editor reason, sink.notify .error ("Failed to insert Ghost Text: " ++ reason), ?_,
          [.insert view.cursor text, .notice .error ("Failed to insert Ghost Text: " ++ reason)],
          ?_, ?_, rfl, .rejected seen shown (congrArg Prod.fst inserted)⟩
        · simp only [inserted]
        · simp only [Sink.notify, log, List.append_assoc, List.singleton_append]
        · simp [SinkCall.isDrawing]
      | ok answer => exact .inr ⟨text, view, sink, rfl, rfl, inserted, by simp only [inserted]⟩

/-- An escalation is asked for in the present generation while a text is shown. -/
theorem beginEscalation_cases (s : Session σ) :
    (s.offers.activeText = none ∧
        s.beginEscalation = (.error (.nothingToAct "escalate"),
          { s with sink := s.sink.notify .warning "No Ghost Text to escalate." })) ∨
      ∃ text, s.offers.activeText = some text ∧
        s.beginEscalation =
          (.ok ⟨s.generation, buildPrompt s.config.promptTemplate text⟩, s) := by
  unfold beginEscalation
  cases shown : s.offers.activeText with
  | none => exact .inl ⟨rfl, rfl⟩
  | some text => exact .inr ⟨text, rfl, rfl⟩

theorem finishEscalation_stale {request : EscalationRequest} (result : Except GhostError String)
    (stale : request.generation ≠ s.generation) :
    s.finishEscalation request result = (.ok .stale, s.dropStale) := by
  simp only [finishEscalation, ne_eq, stale, not_false_eq_true, ↓reduceIte]

theorem finishEscalation_ok {request : EscalationRequest} (text : String)
    (current : request.generation = s.generation) :
    s.finishEscalation request (.ok text) =
      (.ok .applied, s.offer [.escalated (Text.trimmed text)]) := by
  simp only [finishEscalation, ne_eq, current, not_true_eq_false, ↓reduceIte]

theorem finishEscalation_error {request : EscalationRequest} (error : GhostError)
    (current : request.generation = s.generation) :
    s.finishEscalation request (.error error) =
      (.error error,
        { s with
          sink := s.sink.notify .warning ("Failed to generate code: " ++ error.message) }) := by
  simp only [finishEscalation, ne_eq, current, not_true_eq_false, ↓reduceIte]

/-! ### Runs -/

/-- What every call keeps is kept by every list of calls. -/
theorem run_induction {holds : Session σ → Prop}
    (keep : ∀ s call, holds s → holds (SessionCall.apply s call)) (calls : List (SessionCall σ))
    (start : holds s) : holds (s.run calls) := by
  induction calls generalizing s with
  | nil => exact start
  | cons call rest ih => exact ih (keep s call start)

theorem run_append (s : Session σ) (first rest : List (SessionCall σ)) :
    s.run (first ++ rest) = (s.run first).run rest :=
  List.foldl_append

theorem render_offers (s : Session σ) : s.render.offers = s.offers := by
  obtain ⟨sink, decoration, rendered⟩ := render_frame s
  rw [rendered]

theorem offer_config (s : Session σ) (items : List Item) : (s.offer items).config = s.config := by
  obtain ⟨sink, decoration, rendered⟩ := render_frame { s with offers := .ofItems items }
  rw [offer, rendered]

/-- Every call leaves the text to show that of the current item. -/
theorem apply_valid (s : Session σ) (call : SessionCall σ) (valid : s.offers.Valid) :
    (call.apply s).offers.Valid := by
  cases call with
  | restartDebounce =>
    simp only [SessionCall.apply, restartDebounce_eq]
    exact Offers.none_valid
  | timerFired generation =>
    obtain ⟨_, _, _, _, fired⟩ := timerFired_frame s generation
    simpa only [SessionCall.apply, fired] using valid
  | fetchResolved ticket result =>
    simp only [SessionCall.apply]
    by_cases current : ticket.generation = s.generation
    · rcases fetchResolved_cases result current with ⟨candidates, -, -, shown⟩ | ⟨_, -, hidden⟩
      · rw [shown, offer, render_offers]
        exact Offers.ofItems_valid _
      · rw [hidden, hide_eq]
        exact Offers.none_valid
    · rw [fetchResolved_stale result current, land_eq]
      exact valid
  | drainPending =>
    obtain ⟨_, _, _, drained⟩ := drainPending_frame s
    simpa only [SessionCall.apply, drained] using valid
  | cycle =>
    obtain ⟨_, _, cycled⟩ := cycle_frame s
    rw [SessionCall.apply, cycled]
    exact valid.advance
  | accept =>
    simp only [SessionCall.apply]
    rcases accept_cases s with ⟨error, sink, refused, -⟩ | ⟨text, view, sink, -, -, -, accepted⟩
    · rwa [refused]
    · rw [accepted, clear_eq]
      exact Offers.none_valid
  | beginEscalation =>
    simp only [SessionCall.apply]
    rcases beginEscalation_cases s with ⟨-, refused⟩ | ⟨text, -, asked⟩
    · rwa [refused]
    · rwa [asked]
  | finishEscalation request result =>
    simp only [SessionCall.apply]
    by_cases current : request.generation = s.generation
    · cases result with
      | ok text =>
        rw [finishEscalation_ok text current, offer, render_offers]
        exact Offers.ofItems_valid _
      | error error => rwa [finishEscalation_error error current]
    · rwa [finishEscalation_stale result current]
  | clear | dispose =>
    simp only [SessionCall.apply, dispose, clear_eq]
    exact Offers.none_valid
  | host change => exact valid

/-- In every session the text to show is that of the current item. -/
theorem run_valid (sink : Sink σ) (config : Config) (calls : List (SessionCall σ)) :
    ((start sink config).run calls).offers.Valid :=
  run_induction apply_valid calls Offers.none_valid

/-- No call changes the settings. -/
theorem apply_config (s : Session σ) (call : SessionCall σ) : (call.apply s).config = s.config := by
  cases call with
  | restartDebounce => simp only [SessionCall.apply, restartDebounce_eq]
  | timerFired generation =>
    obtain ⟨_, _, _, _, fired⟩ := timerFired_frame s generation
    rw [SessionCall.apply, fired]
  | fetchResolved ticket result =>
    simp only [SessionCall.apply]
    by_cases current : ticket.generation = s.generation
    · rcases fetchResolved_cases result current with ⟨candidates, -, -, shown⟩ | ⟨_, -, hidden⟩
      · rw [shown, offer_config, land_eq]
      · rw [hidden, hide_eq, land_eq]
    · rw [fetchResolved_stale result current, land_eq]
      rfl
  | drainPending =>
    obtain ⟨_, _, _, drained⟩ := drainPending_frame s
    rw [SessionCall.apply, drained]
  | cycle =>
    obtain ⟨_, _, cycled⟩ := cycle_frame s
    rw [SessionCall.apply, cycled]
  | accept =>
    rw [SessionCall.apply]
    rcases accept_cases s with ⟨error, sink, refused, -⟩ | ⟨text, view, sink, -, -, -, accepted⟩
    · rw [refused]
    · rw [accepted, clear_eq]
  | beginEscalation =>
    rw [SessionCall.apply]
    rcases beginEscalation_cases s with ⟨-, refused⟩ | ⟨text, -, asked⟩
    · rw [refused]
    · rw [asked]
  | finishEscalation request result =>
    rw [SessionCall.apply]
    by_cases current : request.generation = s.generation
    · cases result with
      | ok text => rw [finishEscalation_ok text current, offer_config]
      | error error => rw [finishEscalation_error error current]
    · rw [finishEscalation_stale result current]
      rfl
  | clear | dispose => simp only [SessionCall.apply, dispose, clear_eq]
  | host change => rfl

theorem run_config (sink : Sink σ) (config : Config) (calls : List (SessionCall σ)) :
    ((start sink config).run calls).config = config := by
  have keep (s : Session σ) (call : SessionCall σ) (same : s.config = config) :
      (call.apply s).config = config := (apply_config s call).trans same
  exact run_induction keep calls rfl

end Session
end InlineCompletion.Ghost
