import InlineCompletion.Cursor
import InlineCompletion.Entry
import InlineCompletion.Fragment
import InlineCompletion.Settings.Basic

/-!
The two paths that feed the completion list. The plain path lists every candidate by its phrase and
asks for a body only when the host resolves an entry. The prompt path reconciles the first few
candidates at once and lists what is left to insert. Both ask the same source and agree on when
there is something to list.
-/
namespace InlineCompletion

/-- Answers a cursor context with candidates, in its own order. -/
abbrev SuggestionSource := Context → Except CompletionError (List Candidate)

/-- Turns a label and a context into a body of code, if it has one. -/
abbrev BodyGenerator := String → String → Except CompletionError (Option String)

/-- How a source answers that replies through a slot which it may use once. -/
inductive SlotAnswer where
  | deliver (candidates : List Candidate)
  /-- A payload that is checked on its way in. -/
  | deliverJson (payload : Json)
  | fail (message : String)
  /-- The slot is given up without an answer. -/
  | dropped

/-- What arrives through the slot. -/
def SlotAnswer.result : SlotAnswer → Except CompletionError (List Candidate)
  | .deliver candidates => .ok candidates
  | .deliverJson payload => parseCandidates payload
  | .fail message => .error (.sourceError message)
  | .dropped => .error (.sourceError "suggestion source dropped the request")

/-- One call of a generator. -/
structure GeneratorCall where
  label : String
  context : String
deriving Repr, DecidableEq

/-- A value together with the generator calls that were made for it, in order. -/
structure Traced (α : Type) where
  value : α
  calls : List GeneratorCall

instance : Monad Traced where
  pure value := ⟨value, []⟩
  bind first next :=
    let second := next first.value
    ⟨second.value, first.calls ++ second.calls⟩

/-- One call of a generator. A failure counts as no body. -/
def generateBody (generator : BodyGenerator) (label context : String) : Traced (Option String) :=
  ⟨match generator label context with
    | .ok body => body
    | .error _ => none,
  [⟨label, context⟩]⟩

/-- A value together with all calls that were made for it, those of either kind in their order: the
generator calls, and the contexts that a source was asked about. -/
structure Served (α : Type) extends Traced α where
  asked : List Context

instance : Monad Served where
  pure value := { value, calls := [], asked := [] }
  bind first next :=
    let second := next first.value
    { value := second.value
      calls := first.calls ++ second.calls
      asked := first.asked ++ second.asked }

/-- Generator calls ask no source. -/
instance : MonadLift Traced Served where
  monadLift traced := { traced with asked := [] }

/-- What is done for a completion list. It may fail, and then the calls stay made. -/
abbrev Listing := ExceptT CompletionError Served

namespace Listing

/-- One question to a source. -/
def ask (source : SuggestionSource) (context : Context) : Listing (List Candidate) :=
  ExceptT.mk { value := source context, calls := [], asked := [context] }

/-- The candidates at the cursor; an empty answer is a failure. -/
def candidates (config : Config) (source : SuggestionSource) (document : String) (cursor : Nat) :
    Listing (List Candidate) := do
  let context ← MonadExcept.ofExcept (extractContext document cursor config.lengthTagMarker)
  let found ← ask source context
  if found.isEmpty then throw .emptySuggestionResult else return found

/-- The candidates at the cursor; an empty answer is an empty list. -/
def candidatesOrNone (config : Config) (source : SuggestionSource) (document : String)
    (cursor : Nat) : Listing (List Candidate) :=
  tryCatch (candidates config source document cursor) fun
    | .emptySuggestionResult => return []
    | error => throw error

end Listing

/-- The candidates at the cursor; an empty answer is a failure. -/
def fetch (config : Config) (source : SuggestionSource) (document : String) (cursor : Nat) :
    Except CompletionError (List Candidate) :=
  (Listing.candidates config source document cursor).run.value

/-- Entries of the plain path, one for each candidate. -/
def plainItems (candidates : List Candidate) (line : String) : List Entry :=
  (select candidates .unbounded).map fun candidate => plainEntry candidate line

/-- The plain path. -/
def Listing.plain (config : Config) (source : SuggestionSource) (document : String)
    (cursor : Nat) : Listing (List Entry) := do
  let typed ← MonadExcept.ofExcept (typedAtCursor document cursor)
  let candidates ← Listing.candidatesOrNone config source document cursor
  return plainItems candidates typed.line

/-- The list of the plain path. -/
def plainCompletions (config : Config) (source : SuggestionSource) (document : String)
    (cursor : Nat) : Except CompletionError (List Entry) :=
  (Listing.plain config source document cursor).run.value

/-- A plain entry with its text, for the host that resolves it. -/
def resolvePlain (config : Config) (generator : BodyGenerator) (entry : Entry) : Traced Entry := do
  let body ← generateBody generator entry.displayLabel config.plainPathContext
  return { entry with insertText := plainInsertText entry.filterText body }

/-- The entry of one candidate on the prompt path. A candidate that cannot be reconciled keeps its
place with an empty text. -/
def reconcileCandidate (config : Config) (generator : BodyGenerator) (typed : Typed)
    (candidate : Candidate) : Traced Entry := do
  let body ← generateBody generator candidate.label typed.resolved
  let insertText := match reconcile config.sentinelMarker candidate.label body typed with
    | .ok reconciled => reconciled.insertText
    | .error _ => ""
  return promptEntry candidate insertText typed.line

/-- Entries of the prompt path for the first candidates, as many as the cap allows. No generator
call is made for the others. -/
def reconcileCandidates (config : Config) (generator : BodyGenerator) (typed : Typed)
    (candidates : List Candidate) : Traced (List Entry) :=
  (select candidates (.limited config.promptCap)).mapM (reconcileCandidate config generator typed)

/-- The prompt path. -/
def Listing.prompt (config : Config) (source : SuggestionSource) (generator : BodyGenerator)
    (document : String) (cursor : Nat) : Listing (List Entry) := do
  let typed ← MonadExcept.ofExcept (typedAtCursor document cursor)
  let candidates ← Listing.candidatesOrNone config source document cursor
  reconcileCandidates config generator typed candidates

/-- The list of the prompt path, with the calls that were made for it. -/
def promptCompletions (config : Config) (source : SuggestionSource) (generator : BodyGenerator)
    (document : String) (cursor : Nat) : Served (Except CompletionError (List Entry)) :=
  (Listing.prompt config source generator document cursor).run

/-- A prompt entry with its final text, for the host that resolves it. -/
def resolvePrompt (entry : Entry) : Entry :=
  { entry with insertText := promptInsertText entry.filterText entry.displayLabel }

end InlineCompletion
