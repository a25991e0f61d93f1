import InlineCompletion.Decimal.Layout
import InlineCompletion.Json.Basic
import InlineCompletion.Text.Quoted

/-!
Reading JSON values as values of a type, with the first thing that does not fit. A record is read
from an object, member by member in the order of their names, or from an array of its fields in the
order of their declaration. An enumeration is read from the name of a variant, or from an object
with that name as its only member.
-/
namespace InlineCompletion.Json

/-- What does not fit. -/
inductive DecodeError where
  /-- A value of the wrong type. -/
  | wrongType (found : Json) (expected : String)
  /-- A variant without the value it needs. -/
  | bareVariant
  /-- A number that the expected type cannot hold. -/
  | wrongInteger (found : Int) (expected : String)
  /-- An object in place of a variant that has no member or several. -/
  | notOneMember
  /-- An array of fields that ends too early or too late. -/
  | wrongLength (length : Nat) (expected : String)
  | missingField (name : String)
  | unknownField (name : String) (known : List String)
  | unknownVariant (name : String) (known : List String)
deriving Inhabited

/-- How a value is named in a message about its type. -/
def describe : Json → String
  | .null => "null"
  | .bool true => "boolean `true`"
  | .bool false => "boolean `false`"
  | .integer n => "integer `" ++ n.repr ++ "`"
  | .double x => "floating point `" ++ Decimal.writeFloat .data x ++ "`"
  | .string text => "string " ++ Text.quoted text
  | .array _ => "sequence"
  | .object _ => "map"

/-- A name between backticks. -/
def ticked (name : String) : String :=
  "`" ++ name ++ "`"

/-- The names that would have been accepted. -/
def oneOf : List String → String
  | [] => "nothing"
  | [name] => ticked name
  | [first, second] => ticked first ++ " or " ++ ticked second
  | names => "one of " ++ ", ".intercalate (names.map ticked)

/-- The wording of a failure. -/
def DecodeError.message : DecodeError → String
  | .wrongType found expected => "invalid type: " ++ describe found ++ ", expected " ++ expected
  | .bareVariant => "invalid type: unit variant, expected newtype variant"
  | .wrongInteger found expected =>
    "invalid value: integer `" ++ found.repr ++ "`, expected " ++ expected
  | .notOneMember => "invalid value: map, expected map with a single key"
  | .wrongLength length expected => "invalid length " ++ length.repr ++ ", expected " ++ expected
  | .missingField name => "missing field " ++ ticked name
  | .unknownField name known => "unknown field " ++ ticked name ++ ", expected " ++ oneOf known
  | .unknownVariant name known => "unknown variant " ++ ticked name ++ ", expected " ++ oneOf known

/-- The result of reading a value. -/
abbrev Decoded := Except DecodeError

/-- A string. -/
def asString : Json → Decoded String
  | .string text => .ok text
  | other => .error (.wrongType other "a string")

/-- A string, or null for none. -/
def asOptionalString : Json → Decoded (Option String)
  | .null => .ok none
  | other => (asString other).map some

/-- A number. -/
def asFloat : Json → Decoded Float
  | .integer n => .ok (if n < 0 then -n.natAbs.toUInt64.toFloat else n.natAbs.toUInt64.toFloat)
  | .double x => .ok x
  | other => .error (.wrongType other "f64")

/-- A whole number from zero on; `expected` is the name of its type. -/
def asNatural (expected : String) : Json → Decoded Nat
  | .integer n => if n < 0 then .error (.wrongInteger n expected) else .ok n.natAbs
  | other => .error (.wrongType other expected)

/-- A number of 64 bits. -/
def asWord : Json → Decoded Nat :=
  asNatural "u64"

/-- An offset or a count. -/
def asCount : Json → Decoded Nat :=
  asNatural "usize"

/-- No value: null. -/
def asUnit : Json → Decoded Unit
  | .null => .ok ()
  | other => .error (.wrongType other "unit")

/-- The name of a variant and the value that comes with it, if any. -/
def asVariant : Json → Decoded (String × Option Json)
  | .string name => .ok (name, none)
  | .object [(name, value)] => .ok (name, some value)
  | .object _ => .error .notOneMember
  | other => .error (.wrongType other "string or map")

/-- A variant that holds no value. -/
def plainVariant {α : Type} (result : α) : Option Json → Decoded α
  | none => .ok result
  | some value => (asUnit value).map fun _ => result

/-- A variant that holds a value. -/
def heldVariant {α : Type} (read : Json → Decoded α) : Option Json → Decoded α
  | none => .error .bareVariant
  | some value => read value

/-- An enumeration: its variants with the way in which each is read. -/
def asEnumeration {α : Type} (variants : List (String × (Option Json → Decoded α))) (json : Json) :
    Decoded α := do
  let (name, value) ← asVariant json
  match variants.find? fun variant => variant.1 == name with
  | some variant => variant.2 value
  | none => .error (.unknownVariant name (variants.map Prod.fst))

/-- An enumeration whose variants hold no values. -/
def asPlainEnumeration {α : Type} (variants : List (String × α)) : Json → Decoded α :=
  asEnumeration (variants.map fun variant => (variant.1, plainVariant variant.2))

/-- Where the fields of a record come from: the value of a field if it is there, and the failure if
it is not. Both know the place of the field in the declaration and its name. -/
structure FieldSource where
  value? : Nat → String → Option Json
  missing : Nat → String → DecodeError

/-- A field that must be there. -/
def FieldSource.required {α : Type} (source : FieldSource) (place : Nat) (name : String)
    (read : Json → Decoded α) : Decoded α :=
  match source.value? place name with
  | some value => read value
  | none => .error (source.missing place name)

/-- A field with a value to fall back on. -/
def FieldSource.optional {α : Type} (source : FieldSource) (place : Nat) (name : String)
    (read : Json → Decoded α) (default : α) : Decoded α :=
  match source.value? place name with
  | some value => read value
  | none => .ok default

/-- The fields of a record: its name, the fields with the way in which each value is checked, and
whether other members are refused. -/
structure RecordShape where
  name : String
  fields : List (String × (Json → Decoded Unit))
  strict : Bool

/-- A way of reading, used for its failures only. -/
def checking {α : Type} (read : Json → Decoded α) (value : Json) : Decoded Unit :=
  (read value).map fun _ => ()

/-- The first member that does not fit, in the order of the members. -/
def RecordShape.check (shape : RecordShape) : List (String × Json) → Decoded Unit
  | [] => .ok ()
  | (name, value) :: rest =>
    match shape.fields.find? fun field => field.1 == name with
    | some field => do
      field.2 value
      shape.check rest
    | none =>
      if shape.strict then .error (.unknownField name (shape.fields.map Prod.fst))
      else shape.check rest

/-- A record from an object or from an array. From an object all members are checked before the
missing fields are looked for. An array may lack fields at its end that have a value to fall back
on, and may hold no further items. -/
def RecordShape.read {α : Type} (shape : RecordShape) (build : FieldSource → Decoded α) :
    Json → Decoded α
  | .object members => do
    shape.check members
    build ⟨fun _ name => (Json.object members).member? name, fun _ name => .missingField name⟩
  | .array items => do
    let size := shape.fields.length
    let record ← build ⟨fun place _ => items[place]?, fun place _ =>
      .wrongLength place ("struct " ++ shape.name ++ " with " ++ size.repr ++ " elements")⟩
    if size < items.length then .error (.wrongLength items.length "fewer elements in array")
    else return record
  | other => .error (.wrongType other ("struct " ++ shape.name))

end InlineCompletion.Json
