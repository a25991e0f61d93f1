import InlineCompletion.Error

/-!
What can go wrong with commands on ghost text, and the wording of each failure. None of them ends a
session.
-/
namespace InlineCompletion.Ghost

/-- A failure of a command on ghost text. -/
inductive GhostError where
  /-- There is no editor. -/
  | noActiveTarget
  /-- No ghost text is shown that the command could act on. -/
  | nothingToAct (command : String)
  /-- The text service had no usable text. -/
  | generatorUnavailable (reason : String)
  /-- A failure of the completion paths. -/
  | completion (error : CompletionError)
  /-- The editor refused an edit. -/
  | editor (reason : String)
  /-- The event loop does not run any more. -/
  | stopped
deriving Repr, DecidableEq

/-- The name of the kind of failure. One of the completion paths keeps its own. -/
def GhostError.kind : GhostError → String
  | .noActiveTarget => "NoActiveTarget"
  | .nothingToAct _ => "NothingToAct"
  | .generatorUnavailable _ => "GeneratorUnavailable"
  | .completion error => error.kind
  | .editor _ => "Editor"
  | .stopped => "Stopped"

/-- The wording of a failure. -/
def GhostError.message : GhostError → String
  | .noActiveTarget => "No active editor found"
  | .nothingToAct command => "No ghost text to " ++ command
  | .generatorUnavailable reason => "Generative service unavailable: " ++ reason
  | .completion error => error.message
  | .editor reason => "Editor error: " ++ reason
  | .stopped => "Ghost text session stopped"

end InlineCompletion.Ghost
