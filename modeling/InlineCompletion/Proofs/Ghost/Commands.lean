import InlineCompletion.Proofs.Ghost.Ledger

/-!
Commands of a session that fail, and the one that ends what it shows. A command that cannot do its
work says so in one notice, or in none if there was no user who asked for it, and leaves everything
else as it was, whatever state the session is in. A text that is accepted is inserted once, and after
it nothing is left of what was shown or scheduled.
-/
namespace InlineCompletion.Ghost
variable {σ : Type}

/-- Whether a call inserts a text. -/
def SinkCall.isInsert : SinkCall → Bool
  | .insert _ _ => true
  | .create _ _ _ | .dispose _ | .notice _ _ => false

namespace Session
variable {s : Session σ}

/-- A session that a call has left as it was: all of it is the same, and what its host was asked for
meanwhile draws nothing and holds this many notices. -/
structure Untouched (s after : Session σ) (notices : Nat) : Prop where
  same : after = { s with sink := after.sink }
  said : ∃ said, after.sink.log = s.sink.log ++ said ∧
    (∀ call ∈ said, call.isDrawing = false) ∧ said.countP SinkCall.isNotice = notices

/-- A session after its text was accepted. -/
structure Accepted (s after : Session σ) (text : String) : Prop where
  /-- The text that was shown was inserted at the cursor, and nothing else was. -/
  inserted : ∃ view said, s.sink.view = some view ∧ s.offers.activeText = some text ∧
    after.sink.log = s.sink.log ++ .insert view.cursor text :: said ∧
    ∀ call ∈ said, call.isInsert = false
  hidden : after.offers = .none
  undrawn : after.decoration = none
  generation : after.generation = s.generation + 1
  unparked : after.pending = none
  rested : after.debouncing = false

theorem untouched_self (s : Session σ) : s.Untouched s 0 :=
  ⟨rfl, [], by simp, by simp, rfl⟩

/-- A notice touches nothing. -/
theorem untouched_notify (s : Session σ) (level : NoticeLevel) (message : String) :
    s.Untouched { s with sink := s.sink.notify level message } 1 :=
  ⟨rfl, [.notice level message], rfl, by simp [SinkCall.isDrawing], rfl⟩

/-- A text is refused for exactly these reasons, and the reason is what the command fails with. -/
theorem accept_error_iff {error : GhostError} : s.accept.1 = .error error ↔ s.Refuses error := by
  constructor
  · intro failed
    rcases s.accept_cases with ⟨other, sink, refused, tail, -, -, -, reason⟩ |
      ⟨text, view, sink, -, -, -, accepted⟩
    · rw [refused] at failed
      cases failed
      exact reason
    · rw [accepted] at failed
      cases failed
  · intro reason
    cases reason with
    | noEditor closed => simp only [accept, closed]
    | nothingShown seen hidden => simp only [accept, seen, hidden]
    | @rejected view text reason seen shown rejected =>
      obtain ⟨answer, sink, inserted⟩ :
          ∃ answer sink, s.sink.insert view.cursor text = (answer, sink) := ⟨_, _, rfl⟩
      rw [inserted] at rejected
      cases rejected
      simp only [accept, seen, shown, inserted]

theorem accept_untouched {error : GhostError} (failed : s.accept.1 = .error error) :
    s.Untouched s.accept.2 1 := by
  rcases s.accept_cases with ⟨other, sink, refused, tail, said, noDrawing, once, -⟩ |
    ⟨text, view, sink, -, -, -, accepted⟩
  · rw [refused]
    exact ⟨rfl, tail, said, noDrawing, once⟩
  · rw [accepted] at failed
    cases failed

/-- What is removed when a session removes its decoration. -/
theorem erased_log (s : Session σ) :
    s.erased.log = s.sink.log ++ s.decoration.toList.map SinkCall.dispose := by
  unfold erased
  cases s.decoration with
  | none => simp
  | some handle => rfl

theorem accept_accepted {text : String} (taken : s.accept.1 = .ok text) :
    s.Accepted s.accept.2 text := by
  rcases s.accept_cases with ⟨error, sink, refused, -⟩ |
    ⟨text, view, sink, shown, seen, inserted, accepted⟩
  · rw [refused] at taken
    cases taken
  · rw [accepted] at taken ⊢
    cases taken
    have log : sink.log = s.sink.log ++ [.insert view.cursor text] :=
      congrArg (fun answer => answer.2.log) inserted.symm
    rw [clear_eq]
    refine ⟨⟨view, s.decoration.toList.map .dispose ++
      [.notice .info "Ghost Text inserted into editor."], seen, shown, ?_, ?_⟩,
      rfl, rfl, rfl, rfl, rfl⟩
    · simp [Sink.notify, erased_log, log]
    · rw [List.forall_mem_append, List.forall_mem_map, List.forall_mem_singleton]
      exact ⟨fun _ _ => rfl, rfl⟩

theorem beginEscalation_error_iff {error : GhostError} :
    s.beginEscalation.1 = .error error ↔
      s.offers.activeText = none ∧ error = .nothingToAct "escalate" := by
  rcases s.beginEscalation_cases with ⟨hidden, refused⟩ | ⟨text, shown, asked⟩
  · simp [refused, hidden, eq_comm]
  · simp [asked, shown]

theorem beginEscalation_untouched {error : GhostError}
    (failed : s.beginEscalation.1 = .error error) : s.Untouched s.beginEscalation.2 1 := by
  rcases s.beginEscalation_cases with ⟨-, refused⟩ | ⟨text, -, asked⟩
  · rw [refused]
    exact s.untouched_notify _ _
  · rw [asked] at failed
    cases failed

theorem finishEscalation_untouched {request : EscalationRequest} (error : GhostError)
    (current : request.generation = s.generation) :
    (s.finishEscalation request (.error error)).1 = .error error ∧
      s.Untouched (s.finishEscalation request (.error error)).2 1 := by
  rw [finishEscalation_error error current]
  exact ⟨rfl, s.untouched_notify _ _⟩

/-- An escalation that is waited for touches nothing when it fails, be it for want of a text to
escalate or of one to show. -/
theorem escalate_untouched {service : String → Reply} {error : GhostError}
    (failed : (s.escalate service).1 = .error error) : s.Untouched (s.escalate service).2 1 := by
  unfold escalate at failed ⊢
  rcases s.beginEscalation_cases with ⟨-, refused⟩ | ⟨text, -, asked⟩
  · rw [refused]
    exact s.untouched_notify _ _
  · rw [asked] at failed ⊢
    dsimp only at failed ⊢
    cases answer : usableText (service (buildPrompt s.config.promptTemplate text)) with
    | error reason => exact (finishEscalation_untouched reason rfl).2
    | ok text =>
      rw [answer, finishEscalation_ok text rfl] at failed
      cases failed

/-- There is nothing to cycle through exactly if nothing is on offer. -/
theorem cycle_none_iff : s.cycle.1 = none ↔ s.offers.items = [] := by
  by_cases nothing : s.offers.items = []
  · rcases cycle_empty nothing with same | said
    · simp [same, nothing]
    · simp [said, nothing]
  · simp [cycle_showing nothing, nothing]

/-- Only an idle session says that there is nothing to cycle through. -/
theorem cycle_untouched (nothing : s.cycle.1 = none) :
    s.Untouched s.cycle.2 (if s.phase = .idle then 1 else 0) := by
  have empty := cycle_none_iff.mp nothing
  unfold cycle
  cases phase : s.phase with
  | showing index => exact absurd empty (items_ne_nil_of_showing phase)
  | idle => exact s.untouched_notify _ _
  | debouncing | fetching => exact s.untouched_self

/-- A session that was only called since its start has nothing drawn after its text was accepted. -/
theorem accept_erased {host : Host σ} {state : σ} {config : Config} {calls : List (SessionCall σ)}
    {text : String} (run : s = (start ⟨host, state, []⟩ config).run calls)
    (taken : s.accept.1 = .ok text) : live s.accept.2.sink.log = [] := by
  have shows : s.Shows := run ▸ run_shows calls
  obtain ⟨drawing, owns, same, -⟩ := shows.accept
  have hidden : s.accept.2.offers.activeText = none := by
    rw [(accept_accepted taken).hidden]
    rfl
  rw [hidden, Option.map_none, Option.map_eq_none_iff] at same
  rw [owns.balanced.live_eq, same, Option.toList_none]

/-- Every command of a session does its work or leaves the session as it was. -/
structure AllOrNothing (s : Session σ) : Prop where
  refuses : ∀ error, s.accept.1 = .error error ↔ s.Refuses error
  accept : ∀ error, s.accept.1 = .error error → s.Untouched s.accept.2 1
  accepted : ∀ text, s.accept.1 = .ok text → s.Accepted s.accept.2 text
  /-- What was drawn before is removed with the decoration of the session. -/
  erased : ∀ host state config calls, s = (start ⟨host, state, []⟩ config).run calls →
    ∀ text, s.accept.1 = .ok text → live s.accept.2.sink.log = []
  hides : ∀ error, s.beginEscalation.1 = .error error ↔
    s.offers.activeText = none ∧ error = .nothingToAct "escalate"
  begin : ∀ error, s.beginEscalation.1 = .error error → s.Untouched s.beginEscalation.2 1
  finish : ∀ request error, request.generation = s.generation →
    (s.finishEscalation request (.error error)).1 = .error error ∧
      s.Untouched (s.finishEscalation request (.error error)).2 1
  escalate : ∀ service error, (s.escalate service).1 = .error error →
    s.Untouched (s.escalate service).2 1
  empties : s.cycle.1 = none ↔ s.offers.items = []
  /-- Only an idle session says that there is nothing to cycle through. -/
  cycle : s.cycle.1 = none → s.Untouched s.cycle.2 (if s.phase = .idle then 1 else 0)
  outdated : ∀ generation, generation ≠ s.generation → s.timerFired generation = (none, s)

/-- A command that fails leaves its session as it was, in every state, and one that accepts a text
leaves nothing of what the session showed. -/
theorem commands_whole (s : Session σ) : s.AllOrNothing where
  refuses _ := accept_error_iff
  accept _ := accept_untouched
  accepted _ := accept_accepted
  erased _ _ _ _ run _ := accept_erased run
  hides _ := beginEscalation_error_iff
  begin _ := beginEscalation_untouched
  finish _ := finishEscalation_untouched
  escalate _ _ := escalate_untouched
  empties := cycle_none_iff
  cycle := cycle_untouched
  outdated _ := timerFired_outdated

/-- An item with an empty text is on offer, but it is not accepted; the next one is. -/
theorem commands_whole_emptyText :
    let editor : Sink MemoryEditor := ⟨MemoryEditor.host, ⟨some ⟨"", 0⟩, none, 0⟩, []⟩
    let calls : List (SessionCall MemoryEditor) :=
      [.restartDebounce, .timerFired 1,
        .fetchResolved ⟨1, 0⟩ (.ok [⟨"", 1, "00000"⟩, ⟨"int", 1, "00001"⟩])]
    let s := (start editor .standard).run calls
    let next := (start editor .standard).run (calls ++ [.cycle])
    s.phase = .showing 0 ∧ s.accept.1 = .error (.nothingToAct "accept") ∧
      s.Untouched s.accept.2 1 ∧ s.timerFired 0 = (none, s) ∧ next.accept.1 = .ok "int" ∧
      next.Accepted next.accept.2 "int" ∧ live next.accept.2.sink.log = [] := by
  intro editor calls s next
  have taken : next.accept.1 = .ok "int" := rfl
  have whole := commands_whole s
  have after := commands_whole next
  exact ⟨rfl, rfl, whole.accept _ rfl, whole.outdated 0 (by decide), taken,
    after.accepted _ taken, after.erased _ _ _ _ rfl _ taken⟩

end Session
end InlineCompletion.Ghost
