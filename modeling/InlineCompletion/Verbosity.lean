/-!
Levels of a log by their names. Letter case does not count, and an unknown name means the middle
level.
-/
namespace InlineCompletion

/-- How much is logged. -/
inductive Verbosity where
  | trace
  | debug
  | info
  | warn
  | error
deriving Repr, DecidableEq

/-- The level with this name. Only ASCII letters have two cases here. -/
def Verbosity.ofName (name : String) : Verbosity :=
  let name := name.map Char.toLower
  if name = "trace" then .trace
  else if name = "debug" then .debug
  else if name = "warn" ∨ name = "warning" then .warn
  else if name = "error" then .error
  else .info

/-- The name of a level, in capitals. -/
def Verbosity.name : Verbosity → String
  | .trace => "TRACE"
  | .debug => "DEBUG"
  | .info => "INFO"
  | .warn => "WARN"
  | .error => "ERROR"

end InlineCompletion
