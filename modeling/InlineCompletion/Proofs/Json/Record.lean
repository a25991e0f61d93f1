import InlineCompletion.Json.Decode

/-!
When a record is read. From an object: every member fits its field, no other member is there unless
the shape lets it pass, and each field finds its member by name. From an array: there are not more
items than fields, and each field finds its item by its place.
-/
namespace InlineCompletion.Json

variable {α β : Type}

/-- Of two steps that may fail both succeed if the whole does. -/
theorem bind_eq_ok_iff {ε : Type} {first : Except ε α} {next : α → Except ε β} {result : β} :
    first >>= next = .ok result ↔ ∃ value, first = .ok value ∧ next value = .ok result := by
  cases first with
  | error e => exact iff_of_false (nomatch ·) fun ⟨_, failed, _⟩ => nomatch failed
  | ok value =>
    constructor
    · exact fun done => ⟨value, rfl, done⟩
    · rintro ⟨_, same, done⟩
      cases same
      exact done

/-- A check before a step. -/
theorem check_bind_eq_ok_iff {ε : Type} {check : Except ε Unit} {next : Unit → Except ε β}
    {result : β} : check >>= next = .ok result ↔ check = .ok () ∧ next () = .ok result := by
  rw [bind_eq_ok_iff]
  constructor
  · rintro ⟨_, passed, done⟩
    exact ⟨passed, done⟩
  · rintro ⟨passed, done⟩
    exact ⟨(), passed, done⟩

/-! ### Values -/

theorem asString_eq_ok_iff {value : Json} {text : String} :
    asString value = .ok text ↔ value = .string text := by
  cases value <;> simp [asString]

theorem asOptionalString_eq_ok_iff {value : Json} {text : Option String} :
    asOptionalString value = .ok text ↔
      (value = .null ∧ text = none) ∨ ∃ own, value = .string own ∧ text = some own := by
  cases value <;> simp [asOptionalString, asString, Except.map, eq_comm]

/-- A check that uses a way of reading passes what can be read. -/
theorem checking_eq_ok_iff {read : Json → Decoded α} {value : Json} :
    checking read value = .ok () ↔ ∃ result, read value = .ok result := by
  rw [checking]
  cases read value <;> simp [Except.map]

/-! ### Fields -/

variable {source : FieldSource} {place : Nat} {name : String} {read : Json → Decoded α} {result : α}

theorem FieldSource.required_eq_ok_iff :
    source.required place name read = .ok result ↔
      ∃ value, source.value? place name = some value ∧ read value = .ok result := by
  rw [FieldSource.required]
  cases source.value? place name <;> simp

theorem FieldSource.optional_eq_ok_iff {default : α} :
    source.optional place name read default = .ok result ↔
      (source.value? place name = none ∧ result = default) ∨
      ∃ value, source.value? place name = some value ∧ read value = .ok result := by
  rw [FieldSource.optional]
  cases source.value? place name <;> simp [eq_comm]

/-! ### Records -/

variable {shape : RecordShape} {build : FieldSource → Decoded α}

/-- A member that may stand in an object of this shape. -/
def RecordShape.Admits (shape : RecordShape) (member : String × Json) : Prop :=
  match shape.fields.find? fun field => field.1 == member.1 with
  | some field => field.2 member.2 = .ok ()
  | none => shape.strict = false

theorem RecordShape.check_eq_ok_iff {members : List (String × Json)} :
    shape.check members = .ok () ↔ ∀ member ∈ members, shape.Admits member := by
  induction members with
  | nil => exact iff_of_true rfl fun _ inside => absurd inside List.not_mem_nil
  | cons member others ih =>
    rw [List.forall_mem_cons, ← ih, RecordShape.check, RecordShape.Admits]
    cases shape.fields.find? fun field => field.1 == member.1 with
    | some field => exact check_bind_eq_ok_iff
    | none => cases shape.strict <;> simp

theorem RecordShape.read_object_eq_ok_iff {members : List (String × Json)} :
    shape.read build (.object members) = .ok result ↔
      (∀ member ∈ members, shape.Admits member) ∧
      build ⟨fun _ name => (Json.object members).member? name, fun _ name => .missingField name⟩ =
        .ok result := by
  rw [← RecordShape.check_eq_ok_iff]
  exact check_bind_eq_ok_iff

theorem RecordShape.read_array_eq_ok_iff {items : List Json} :
    shape.read build (.array items) = .ok result ↔
      items.length ≤ shape.fields.length ∧
      build ⟨fun place _ => items[place]?, fun place _ => .wrongLength place
        ("struct " ++ shape.name ++ " with " ++ shape.fields.length.repr ++ " elements")⟩ =
        .ok result := by
  rw [RecordShape.read, bind_eq_ok_iff]
  constructor
  · rintro ⟨record, built, kept⟩
    split at kept
    case isTrue => cases kept
    case isFalse short =>
      cases kept
      exact ⟨Nat.le_of_not_lt short, built⟩
  · rintro ⟨short, built⟩
    exact ⟨result, built, if_neg (Nat.not_lt.mpr short)⟩

/-- Only objects and arrays are read as records. -/
theorem RecordShape.read_other {value : Json} (noObject : ∀ members, value ≠ .object members)
    (noArray : ∀ items, value ≠ .array items) : shape.read build value ≠ .ok result := by
  cases value with
  | object members => exact absurd rfl (noObject members)
  | array items => exact absurd rfl (noArray items)
  | _ => exact nofun

end InlineCompletion.Json
