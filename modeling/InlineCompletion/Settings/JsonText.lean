import InlineCompletion.Json.Tree
import InlineCompletion.Settings.Fields

/-!
Settings from a JSON text: an object with their fields, or an array of the fields' values in order.
-/
namespace InlineCompletion
open Json

/-- The text of a JSON string. -/
def Json.Tree.text? : Tree → Option String
  | .string text => text
  | _ => none

/-- The value of a JSON integer from zero on. -/
def Json.Tree.natural? : Tree → Option Nat
  | .number numeral =>
    match numeral.value? with
    | some (.integer n) => if n < 0 then none else some n.natAbs
    | _ => none
  | _ => none

/-- A style by its name, or by an object with that name as its only member and no value in it. -/
def Json.Tree.style? : Tree → Option GhostStyle
  | .string (some name) => GhostStyle.ofName? name
  | .object [(some name, .null)] => GhostStyle.ofName? name
  | _ => none

/-- How settings are read from JSON. -/
def Json.Tree.reader : ValueReader Tree :=
  ⟨Tree.text?, Tree.natural?, Tree.style?⟩

/-- Members with their names, unless one of the names holds half of a surrogate pair. -/
def Json.Tree.named? : List (Option String × Tree) → Option (List (String × Tree))
  | [] => some []
  | (none, _) :: _ => none
  | (some name, value) :: rest => (named? rest).map fun others => (name, value) :: others

/-- Settings from a JSON text. -/
def Config.ofJsonText? (text : String) : Option Config :=
  match parseTree? text with
  | some (.object members) =>
    match Tree.named? members with
    | some fields => Config.ofFields? Tree.reader fields
    | none => none
  | some (.array values) => Config.ofPlaces? Tree.reader values
  | _ => none

end InlineCompletion
