import InlineCompletion.Json.Tree
import Mathlib.Algebra.Group.Int.Defs
import Mathlib.Algebra.Group.Nat.Defs

/-!
Well-formed JSON values: integers fit 64 bits, and an object has each name once. A value that is
read from a text is well-formed, whatever the text holds.
-/
namespace InlineCompletion.Json

/-- A value whose integers fit 64 bits, signed or not, and whose objects have each name once. -/
inductive WellFormed : Json → Prop where
  | null : WellFormed .null
  | bool (value : Bool) : WellFormed (.bool value)
  | integer {value : Int} (low : -2 ^ 63 ≤ value) (high : value < 2 ^ 64) :
      WellFormed (.integer value)
  | double (value : Float) : WellFormed (.double value)
  | string (text : String) : WellFormed (.string text)
  | array {items : List Json} (all : ∀ item ∈ items, WellFormed item) : WellFormed (.array items)
  | object {members : List (String × Json)} (once : (members.map Prod.fst).Nodup)
      (all : ∀ member ∈ members, WellFormed member.2) : WellFormed (.object members)

variable {members : List (String × Json)} {name : String} {value : Json}

theorem wellFormed_array_iff {items : List Json} :
    (Json.array items).WellFormed ↔ ∀ item ∈ items, item.WellFormed :=
  ⟨fun | .array all => all, .array⟩

theorem wellFormed_object_iff :
    (Json.object members).WellFormed ↔
      (members.map Prod.fst).Nodup ∧ ∀ member ∈ members, member.2.WellFormed :=
  ⟨fun | .object once all => ⟨once, all⟩, fun ⟨once, all⟩ => .object once all⟩

/-! ### The members of an object -/

/-- Where each name stands once, looking a name up finds the member that stands in the object. -/
theorem member?_eq_some_iff (once : (members.map Prod.fst).Nodup) :
    (Json.object members).member? name = some value ↔ (name, value) ∈ members := by
  induction members with
  | nil => simp [member?]
  | cons member others ih =>
    obtain ⟨first, held⟩ := member
    obtain ⟨absent, once⟩ := List.nodup_cons.mp once
    specialize ih once
    rw [member?] at ih ⊢
    by_cases same : first = name
    case pos =>
      subst same
      have elsewhere : (first, value) ∉ others := fun inside =>
        absent (List.mem_map.mpr ⟨(first, value), inside, rfl⟩)
      simp [elsewhere, eq_comm]
    case neg =>
      have differs : (first == name) = false := beq_false_of_ne same
      rw [List.find?_cons_of_neg (by simp [differs]), ih, List.mem_cons]
      exact (or_iff_right fun equal => same (Prod.ext_iff.mp equal).1.symm).symm

/-- Members in ascending order of their names. -/
def Ascending (members : List (String × Json)) : Prop :=
  members.Pairwise fun member later => member.1 < later.1

theorem Ascending.once (order : Ascending members) : (members.map Prod.fst).Nodup := by
  refine List.pairwise_map.mpr (order.imp fun below same => ?_)
  rw [same] at below
  exact String.lt_irrefl _ below

/-- Of the members around one that is put into its place none is new. -/
theorem mem_insertMember {member : String × Json}
    (inside : member ∈ insertMember name value members) :
    member = (name, value) ∨ member ∈ members := by
  induction members with
  | nil => exact .inl (List.mem_singleton.mp inside)
  | cons first others ih => grind [insertMember]

theorem ascending_insertMember (order : Ascending members) :
    Ascending (insertMember name value members) := by
  induction members with
  | nil => exact List.pairwise_singleton ..
  | cons first others ih =>
    obtain ⟨above, others⟩ := List.pairwise_cons.mp order
    rw [insertMember]
    split
    case isTrue same =>
      subst same
      exact List.pairwise_cons.mpr ⟨above, others⟩
    case isFalse other =>
      split
      case isTrue below =>
        refine List.pairwise_cons.mpr ⟨fun later inside => ?_, order⟩
        rcases List.mem_cons.mp inside with rfl | inside
        · exact below
        · exact String.lt_trans below (above later inside)
      case isFalse notBelow =>
        refine List.pairwise_cons.mpr ⟨fun later inside => ?_, ih others⟩
        rcases mem_insertMember inside with rfl | inside
        · exact Std.lt_of_le_of_ne (String.not_lt.mp notBelow) (Ne.symm other)
        · exact above later inside

/-- Members that are put into their places one after the other stay ascending, and none is new. -/
theorem foldl_insertMember (members : List (String × Json)) {sorted : List (String × Json)}
    (order : Ascending sorted) :
    Ascending (members.foldl (fun sorted member => insertMember member.1 member.2 sorted) sorted) ∧
    ∀ member ∈ members.foldl (fun sorted member => insertMember member.1 member.2 sorted) sorted,
      member ∈ sorted ∨ member ∈ members := by
  induction members generalizing sorted with
  | nil => exact ⟨order, fun member inside => .inl inside⟩
  | cons first others ih =>
    obtain ⟨order, origin⟩ := ih (ascending_insertMember order)
    refine ⟨order, fun member inside => ?_⟩
    rcases origin member inside with inside | inside
    · rcases mem_insertMember inside with rfl | inside
      · exact .inr List.mem_cons_self
      · exact .inl inside
    · exact .inr (List.mem_cons_of_mem _ inside)

theorem wellFormed_ofMembers (all : ∀ member ∈ members, member.2.WellFormed) :
    (ofMembers members).WellFormed := by
  obtain ⟨order, origin⟩ := foldl_insertMember members List.Pairwise.nil
  refine .object order.once fun member inside => ?_
  exact all member ((origin member inside).resolve_left List.not_mem_nil)

/-! ### Numbers -/

/-- The digits that are read fit 64 bits. -/
theorem appendDigits_lt {significand : Nat} {digits : List Nat} (fits : significand < 2 ^ 64) :
    (appendDigits significand digits).1 < 2 ^ 64 := by
  induction digits generalizing significand with
  | nil => exact fits
  | cons digit rest ih =>
    rw [appendDigits]
    split
    case isTrue fits => exact ih fits
    case isFalse => exact fits

/-- A numeral that stands for an integer stands for one of 64 bits. -/
theorem wellFormed_integer {numeral : Numeral} {n : Int}
    (stands : numeral.value? = some (.integer n)) : (Json.integer n).WellFormed := by
  have fits : (appendDigits 0 numeral.whole).1 < 2 ^ 64 := appendDigits_lt (by decide)
  have double {negative significand exponent} :
      signed? negative significand exponent ≠ some (.integer n) := by
    simp [signed?]
  rw [Numeral.value?] at stands
  generalize appendDigits 0 numeral.whole = read at stands fits
  obtain ⟨whole, beyond⟩ := read
  simp only at stands fits
  split at stands
  case h_2 => exact absurd stands double
  case h_1 =>
    split at stands
    · cases stands
      exact .integer (by omega) (by omega)
    · split at stands
      case isFalse => exact absurd stands double
      case isTrue bound =>
        cases stands
        have upper : whole ≤ 2 ^ 63 := bound.2
        exact .integer (by omega) (by omega)

/-! ### Values of a text -/

mutual

/-- The value of a tree is well-formed. -/
theorem Tree.wellFormed_value? : ∀ {tree : Tree} {value : Json},
    tree.value? = some value → value.WellFormed
  | .null, _, read => by cases read; exact .null
  | .bool _, _, read => by cases read; exact .bool _
  | .number numeral, _, read => by
    rw [Tree.value?] at read
    obtain ⟨stood, stands, rfl⟩ := Option.map_eq_some_iff.mp read
    cases stood with
    | integer n => exact wellFormed_integer stands
    | double x => exact .double x
  | .string text, _, read => by
    rw [Tree.value?] at read
    obtain ⟨text, -, rfl⟩ := Option.map_eq_some_iff.mp read
    exact .string text
  | .array items, _, read => by
    rw [Tree.value?] at read
    obtain ⟨values, each, rfl⟩ := Option.map_eq_some_iff.mp read
    exact .array (wellFormed_itemValues? each)
  | .object members, _, read => by
    rw [Tree.value?] at read
    obtain ⟨values, each, rfl⟩ := Option.map_eq_some_iff.mp read
    exact wellFormed_ofMembers (wellFormed_memberValues? each)

theorem wellFormed_itemValues? : ∀ {items : List Tree} {values : List Json},
    itemValues? items = some values → ∀ value ∈ values, value.WellFormed
  | [], _, read => by cases read; exact fun _ inside => nomatch inside
  | item :: rest, _, read => by
    simp only [itemValues?, Option.bind_eq_bind, Option.bind_eq_some_iff, Option.pure_def,
      Option.some.injEq] at read
    obtain ⟨value, first, values, others, rfl⟩ := read
    exact List.forall_mem_cons.mpr ⟨item.wellFormed_value? first, wellFormed_itemValues? others⟩

theorem wellFormed_memberValues? : ∀ {trees : List (Option String × Tree)}
    {members : List (String × Json)}, memberValues? trees = some members →
    ∀ member ∈ members, member.2.WellFormed
  | [], _, read => by cases read; exact fun _ inside => nomatch inside
  | (name, item) :: rest, _, read => by
    simp only [memberValues?, Option.bind_eq_bind, Option.bind_eq_some_iff, Option.pure_def,
      Option.some.injEq] at read
    obtain ⟨name, -, value, first, values, others, rfl⟩ := read
    exact List.forall_mem_cons.mpr ⟨item.wellFormed_value? first, wellFormed_memberValues? others⟩

end

/-- Whatever value a text has, it is well-formed. -/
theorem wellFormed_of_parse? {text : String} (read : parse? text = some value) :
    value.WellFormed := by
  simp only [parse?, Option.bind_eq_bind, Option.bind_eq_some_iff] at read
  obtain ⟨tree, -, read⟩ := read
  exact tree.wellFormed_value? read

end InlineCompletion.Json
