import Mathlib.Data.List.Forall2
import InlineCompletion.Proofs.Completion.Cursor
import InlineCompletion.Proofs.Completion.PromptPath

/-!
The plain path and the prompt path next to each other. Both look at the cursor before they ask the
source, ask it once about the same context, and take an answer without candidates for an empty list;
so they fail together and with the same failure. What they list differs in the texts and in how many
entries there are, but the entries of the prompt path stand for the first ones of the plain path.
-/
namespace InlineCompletion
open Listing

/-- An answer without candidates counts as a failure. -/
def someOrFail : Except CompletionError (List Candidate) → Except CompletionError (List Candidate)
  | .ok [] => .error .emptySuggestionResult
  | answer => answer

/-- An answer without candidates, and the failure that says so, count as an empty list. -/
def orNone : Except CompletionError (List Candidate) → Except CompletionError (List Candidate)
  | .error .emptySuggestionResult => .ok []
  | answer => answer

theorem orNone_error {error : CompletionError} (other : error ≠ .emptySuggestionResult) :
    orNone (.error error) = .error error := by
  rw [orNone]
  rintro ⟨⟩
  exact other rfl

/-- That an answer without candidates counted as a failure before makes no difference. -/
theorem orNone_someOrFail (answer : Except CompletionError (List Candidate)) :
    orNone (someOrFail answer) = orNone answer := by
  cases answer with
  | error error => rfl
  | ok found => cases found <;> rfl

section
variable (source : SuggestionSource) (generator : BodyGenerator) {config : Config}
  {document : String} {cursor : Nat} {context : Context} {typed : Typed} {error : CompletionError}

/-! ### Candidates -/

/-- The source is asked once, and what it says is the answer unless it has no candidates. -/
theorem candidates_asked
    (extracted : extractContext document cursor config.lengthTagMarker = .ok context) :
    candidates config source document cursor =
      .mk { value := someOrFail (source context), calls := [], asked := [context] } := by
  rw [candidates, extracted]
  change (ask source context >>= fun found =>
    if found.isEmpty then throw .emptySuggestionResult else pure found) = _
  rw [ask]
  cases source context with
  | error error => rfl
  | ok found => cases found <;> rfl

theorem candidatesOrNone_asked
    (extracted : extractContext document cursor config.lengthTagMarker = .ok context) :
    candidatesOrNone config source document cursor =
      .mk { value := orNone (source context), calls := [], asked := [context] } := by
  rw [candidatesOrNone, candidates_asked source extracted, ← orNone_someOrFail]
  cases someOrFail (source context) with
  | error error => cases error <;> rfl
  | ok found => rfl

/-! ### Lists -/

theorem plain_asked (typedAt : typedAtCursor document cursor = .ok typed)
    (extracted : extractContext document cursor config.lengthTagMarker = .ok context) :
    (plain config source document cursor).run =
      { value := (orNone (source context)).map fun found => plainItems found typed.line
        calls := [], asked := [context] } := by
  rw [plain, typedAt, candidatesOrNone_asked source extracted]
  cases orNone (source context) <;> rfl

/-- The calls of the prompt path are those that reconciling takes. -/
theorem prompt_asked (typedAt : typedAtCursor document cursor = .ok typed)
    (extracted : extractContext document cursor config.lengthTagMarker = .ok context) :
    ∃ calls, (prompt config source generator document cursor).run =
      { value := (orNone (source context)).map fun found =>
          (reconcileCandidates config generator typed found).value
        calls, asked := [context] } := by
  rw [prompt, typedAt, candidatesOrNone_asked source extracted]
  cases orNone (source context) <;> exact ⟨_, rfl⟩

/-- A cursor that is refused is refused by all, before anything is asked. -/
theorem refused_alike
    (refused : extractContext document cursor config.lengthTagMarker = .error error)
    (refusedTyped : typedAtCursor document cursor = .error error) :
    (candidates config source document cursor).run = pure (.error error) ∧
      (plain config source document cursor).run = pure (.error error) ∧
      (prompt config source generator document cursor).run = pure (.error error) := by
  rw [candidates, plain, prompt, refused, refusedTyped]
  exact ⟨rfl, rfl, rfl⟩

/-! ### Both lists -/

/-- The lists of both paths for the same candidates. -/
structure Listed (cap : Nat) (line : String) (found : List Candidate) (shown entries : List Entry) :
    Prop where
  plain : List.Forall₂ (fun candidate entry => entry.displayLabel = candidate.label ∧
    entry.sortText = candidate.sortText ∧ entry.filterText = line) found shown
  prompt : List.Forall₂ (fun first entry => entry.sortText = first.sortText ∧
    entry.filterText = first.filterText) (shown.take (min cap found.length)) entries

theorem plainItems_eq (found : List Candidate) (line : String) :
    plainItems found line = found.map (plainEntry · line) := by
  rw [plainItems, select, Cap.apply, List.take_length]

theorem listed_both (found : List Candidate) :
    Listed config.promptCap typed.line found (plainItems found typed.line)
      (reconcileCandidates config generator typed found).value := by
  constructor
  case plain =>
    rw [plainItems_eq, List.forall₂_map_right_iff, List.forall₂_same]
    exact fun candidate _ => ⟨rfl, rfl, rfl⟩
  case prompt =>
    rw [plainItems_eq, ← List.map_take, ← List.take_eq_take_min, reconcileCandidates_eq,
      List.forall₂_map_left_iff, List.forall₂_map_right_iff, List.forall₂_same]
    exact fun candidate _ => ⟨rfl, rfl⟩

end

/-- What comes of the answer that a source gives about the context at the cursor. -/
structure Answered (config : Config) (source : SuggestionSource) (generator : BodyGenerator)
    (document : String) (cursor : Nat) (context : Context) (line : String) : Prop where
  askedOnce : (candidates config source document cursor).run.asked = [context] ∧
    (plain config source document cursor).run.asked = [context] ∧
    (prompt config source generator document cursor).run.asked = [context]
  empty : source context = .ok [] ∨ source context = .error .emptySuggestionResult →
    fetch config source document cursor = .error .emptySuggestionResult ∧
    plainCompletions config source document cursor = .ok [] ∧
    (promptCompletions config source generator document cursor).value = .ok []
  failed : ∀ error, source context = .error error → error ≠ .emptySuggestionResult →
    fetch config source document cursor = .error error ∧
    plainCompletions config source document cursor = .error error ∧
    (promptCompletions config source generator document cursor).value = .error error
  found : ∀ found, source context = .ok found → found ≠ [] →
    fetch config source document cursor = .ok found
  listed : ∀ found, source context = .ok found → ∃ shown entries,
    plainCompletions config source document cursor = .ok shown ∧
    (promptCompletions config source generator document cursor).value = .ok entries ∧
    Listed config.promptCap line found shown entries

/-- How the two paths go together, at any cursor and for any answer. -/
structure PathsAgree (config : Config) (source : SuggestionSource) (generator : BodyGenerator)
    (document : String) (cursor : Nat) : Prop where
  together : ∀ error, plainCompletions config source document cursor = .error error ↔
    (promptCompletions config source generator document cursor).value = .error error
  /-- No generator is called on the plain path. -/
  silent : (plain config source document cursor).run.calls = []
  /-- Nothing is asked and nothing is called about a cursor behind the end. -/
  refused : document.length < cursor →
    (candidates config source document cursor).run =
      pure (.error (.offsetOutOfRange cursor document.length)) ∧
    (plain config source document cursor).run =
      pure (.error (.offsetOutOfRange cursor document.length)) ∧
    (prompt config source generator document cursor).run =
      pure (.error (.offsetOutOfRange cursor document.length))
  answered : cursor ≤ document.length → ∃ context line,
    extractContext document cursor config.lengthTagMarker = .ok context ∧
    lineAtCursor document cursor = .ok line ∧
    Answered config source generator document cursor context line

section
variable {config : Config} {document : String} {cursor : Nat} {context : Context} {typed : Typed}

theorem answered_of_asked (source : SuggestionSource) (generator : BodyGenerator)
    (typedAt : typedAtCursor document cursor = .ok typed)
    (extracted : extractContext document cursor config.lengthTagMarker = .ok context) :
    Answered config source generator document cursor context typed.line := by
  have fetched := congrArg ExceptT.run (candidates_asked source extracted)
  rw [ExceptT.run_mk] at fetched
  have shown := plain_asked source typedAt extracted
  obtain ⟨calls, entries⟩ := prompt_asked source generator typedAt extracted
  constructor
  case askedOnce => exact ⟨by rw [fetched], by rw [shown], by rw [entries]⟩
  case empty =>
    intro none
    have nothing : (reconcileCandidates config generator typed []).value = [] := by
      rw [reconcileCandidates_eq, List.take_nil, List.map_nil]
    rw [fetch, plainCompletions, promptCompletions, fetched, shown, entries]
    rcases none with answer | answer <;> rw [answer] <;>
      exact ⟨rfl, rfl, congrArg Except.ok nothing⟩
  case failed =>
    intro error answer other
    rw [fetch, plainCompletions, promptCompletions, fetched, shown, entries, answer,
      orNone_error other]
    exact ⟨rfl, rfl, rfl⟩
  case found =>
    intro found answer some
    rw [fetch, fetched, answer, someOrFail]
    rintro ⟨⟩
    exact some rfl
  case listed =>
    intro found answer
    rw [plainCompletions, promptCompletions, shown, entries, answer]
    exact ⟨_, _, rfl, rfl, listed_both generator found⟩

end

/-- Both paths list something, nothing or a failure at the same cursors and for the same answers,
and list the same candidates in the same order, up to the cap of the prompt path. -/
theorem paths_agree (config : Config) (source : SuggestionSource) (generator : BodyGenerator)
    (document : String) (cursor : Nat) : PathsAgree config source generator document cursor := by
  rcases Nat.lt_or_ge document.length cursor with beyond | within
  case inl =>
    obtain ⟨refused, -, refusedTyped⟩ := refused_beyond beyond config.lengthTagMarker
    obtain ⟨fetched, shown, entries⟩ := refused_alike source generator refused refusedTyped
    constructor
    case together =>
      intro error
      rw [plainCompletions, promptCompletions, shown, entries]
    case silent => rw [shown]; rfl
    case refused => exact fun _ => ⟨fetched, shown, entries⟩
    case answered => exact fun within => absurd beyond (Nat.not_lt.mpr within)
  case inr =>
    obtain ⟨context, line, typed, extracted, lineAt, typedAt, readAt⟩ :=
      readAt_within within config.lengthTagMarker
    have shown := plain_asked source typedAt extracted
    obtain ⟨calls, entries⟩ := prompt_asked source generator typedAt extracted
    constructor
    case together =>
      intro error
      rw [plainCompletions, promptCompletions, shown, entries]
      cases orNone (source context) with
      | error other => rfl
      | ok found => exact iff_of_false nofun nofun
    case silent => rw [shown]
    case refused => exact fun beyond => absurd beyond (Nat.not_lt.mpr within)
    case answered =>
      intro _
      exact ⟨context, line, extracted, lineAt,
        readAt.sameLine ▸ answered_of_asked source generator typedAt extracted⟩

end InlineCompletion
