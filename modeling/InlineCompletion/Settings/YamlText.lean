import InlineCompletion.Settings.Fields
import InlineCompletion.Yaml.Node

/-!
Settings from a YAML text: a mapping with their fields. A text without a document, and a document
whose root is not written, are the standard settings.
-/
namespace InlineCompletion
open Yaml

/-- The number of some digits of a base; no digit at all is no number. -/
def Yaml.digitsValue? (base : Nat) (digits : List Char) : Option Nat :=
  if digits.isEmpty then none else Text.number? base digits

/-- A number up to `2^64 - 1`: after an optional plus sign, digits of base sixteen, eight or two
behind `0x`, `0o` or `0b`, or decimal digits that do not start with a zero unless it is the only
one. -/
def Yaml.natural? (text : List Char) : Option Nat :=
  let unsigned := if startsWith (· == '+') text then text.drop 1 else text
  let value := match unsigned with
    | '0' :: 'x' :: digits => digitsValue? 16 digits
    | '0' :: 'o' :: digits => digitsValue? 8 digits
    | '0' :: 'b' :: digits => digitsValue? 2 digits
    | '0' :: _ :: _ => none
    | digits => digitsValue? 10 digits
  value.bind fun n => if n < Nat.pow 2 64 then some n else none

/-- The text of a tag without its exclamation mark. -/
def Yaml.tagName? (tag : List UInt8) : Option String :=
  let exclamation := (33 : UInt8)
  let name := match tag with
    | [] => []
    | first :: rest => if first == exclamation && !rest.isEmpty then rest else tag
  String.fromUTF8? ⟨name.toArray⟩

/-- The text of a scalar, however it is written. -/
def Yaml.Node.text? (anchored : List (Nat × Node)) (node : Node) : Option String :=
  match node.target anchored with
  | some (.scalar _ _ _ text) => some (.ofList text)
  | _ => none

/-- The number of a plain scalar. -/
def Yaml.Node.natural? (anchored : List (Nat × Node)) (node : Node) : Option Nat :=
  match node.target anchored with
  | some (.scalar _ _ true text) => Yaml.natural? text
  | _ => none

/-- A style by its name: a scalar without a tag, or the tag of a scalar that is empty. -/
def Yaml.Node.style? (anchored : List (Nat × Node)) (node : Node) : Option GhostStyle :=
  match node.target anchored with
  | some (.scalar _ tag _ text) =>
    match tag.bind tagName? with
    | some name => if text.isEmpty then GhostStyle.ofName? name else none
    | none => GhostStyle.ofName? (.ofList text)
  | _ => none

/-- How settings are read from the nodes of a document. -/
def Yaml.Node.reader (anchored : List (Nat × Node)) : ValueReader Node :=
  ⟨Node.text? anchored, Node.natural? anchored, Node.style? anchored⟩

/-- The entries of a mapping by their names. Every key has to be a scalar. -/
def Yaml.Node.named? (anchored : List (Nat × Node)) :
    List (Node × Node) → Option (List (String × Node))
  | [] => some []
  | (key, value) :: rest => do
    let name ← key.text? anchored
    let others ← named? anchored rest
    return (name, value) :: others

/-- Settings from the root of a document. -/
def Config.ofNode? (root : Node) : Option Config :=
  match root with
  | .mapping _ _ entries => do
    let fields ← Node.named? root.anchored entries
    Config.ofFields? (Node.reader root.anchored) fields
  | .scalar _ _ true [] => some .standard
  | _ => none

/-- Settings from a YAML text. -/
def Config.ofYamlText? (text : String) : Option Config :=
  match Document.parse? text with
  | some .empty => some .standard
  | some (.root node) => Config.ofNode? node
  | none => none

end InlineCompletion
