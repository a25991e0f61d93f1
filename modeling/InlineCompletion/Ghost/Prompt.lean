import InlineCompletion.Ghost.Error
import InlineCompletion.Settings.Basic
import InlineCompletion.Text.Trim

/-!
Prompts for the text service and its replies. A text is put into a template at its placeholder; a
reply without a character that is not blank counts as a failure.
-/
namespace InlineCompletion.Ghost
open Text

/-- What the text service says to a prompt: a text if it has one, or a failure. -/
abbrev Reply := Except GhostError (Option String)

/-- The prompt for a text: the template with its first placeholder replaced, or the template, an
empty line and the text. -/
def buildPrompt (template text : String) : String :=
  match splitAtFirst? promptPlaceholder.toList template.toList with
  | some (before, after) => .ofList (before ++ text.toList ++ after)
  | none => template ++ "\n\n" ++ text

/-- The usable text of a reply, trimmed. Every failure is one of the service. -/
def usableText (reply : Reply) : Except GhostError String :=
  match reply with
  | .ok (some text) =>
    if isBlankText text then .error (.generatorUnavailable "no text returned")
    else .ok (trimmed text)
  | .ok none => .error (.generatorUnavailable "no text returned")
  | .error (.generatorUnavailable reason) => .error (.generatorUnavailable reason)
  | .error error => .error (.generatorUnavailable error.message)

/-- A whole document next to what the service proposes for it. -/
structure Proposal where
  entered : String
  proposed : String
deriving Repr, DecidableEq

/-- Both versions in one text. -/
def Proposal.sideBySide (p : Proposal) : String :=
  "[Code entered]\n" ++ p.entered ++ "\n\n==\n\n[Proposed Code]\n" ++ p.proposed

/-- The proposal of a service for a whole document, with the prompt it was sent. -/
def proposeDocument (service : String → Reply) (template document : String) :
    String × Except GhostError Proposal :=
  let prompt := buildPrompt template document
  (prompt, (usableText (service prompt)).map fun proposed => ⟨document, proposed⟩)

end InlineCompletion.Ghost
