import InlineCompletion.Json.Tree
import InlineCompletion.Json.Writer
import InlineCompletion.Proofs.Text.Digits
import Mathlib.Algebra.Group.Int.Defs

/-!
Reading what is written. A value without doubles is read from its text as the tree that holds it:
each string with all its characters, however they are escaped, each integer with its digits, and all
items and members in their order. Behind a value the reader stops where the writer stopped.
-/
namespace InlineCompletion.Json

/-! ### Strings -/

/-- Two hexadecimal digits are enough for a control. -/
theorem number?_control {n : Nat} (control : n < 32) :
    Text.number? 16 ['0', '0', Nat.digitChar (n / 16), Nat.digitChar (n % 16)] = some n := by
  revert n
  decide

theorem readUnits_escaped {c letter : Char} (rest : List Char) (stands : escaped? letter = some c) :
    readUnits ('\\' :: letter :: rest) =
      (readUnits rest).map fun read => (c.toNat :: read.1, read.2) := by
  rw [readUnits, stands]
  · cases readUnits rest <;> rfl
  · rintro _ _ _ _ _ rfl
    cases stands

theorem readUnits_unescaped {c : Char} (rest : List Char) (quote : c ≠ '\x22')
    (backslash : c ≠ '\\') (printed : ¬ c.toNat < 0x20) :
    readUnits (c :: rest) = (readUnits rest).map fun read => (c.toNat :: read.1, read.2) := by
  rw [readUnits, if_neg quote, if_neg (not_or.mpr ⟨printed, backslash⟩)]
  · cases readUnits rest <;> rfl
  · exact fun _ _ _ _ _ same => absurd same backslash
  · exact fun _ _ same => absurd same backslash

/-- However a character is written, it is read as its code point. -/
theorem readUnits_writeChar (c : Char) (rest : List Char) :
    readUnits (writeChar c ++ rest) =
      (readUnits rest).map fun read => (c.toNat :: read.1, read.2) := by
  fun_cases writeChar c
  case case8 control =>
    change readUnits ('\\' :: 'u' :: _ :: _ :: _ :: _ :: rest) = _
    rw [readUnits, number?_control control]
    cases readUnits rest <;> rfl
  case case9 quote backslash _ _ _ _ _ printed =>
    exact readUnits_unescaped rest quote backslash printed
  -- In the other cases a single letter stands for the character.
  all_goals
    subst c
    exact readUnits_escaped rest rfl

theorem readUnits_written (text rest : List Char) :
    readUnits (text.flatMap writeChar ++ '\x22' :: rest) = some (text.map Char.toNat, rest) := by
  induction text with
  | nil =>
    rw [List.flatMap_nil, List.nil_append, readUnits]
    · rfl
    · exact nofun
    · exact nofun
  | cons c text ih =>
    rw [List.flatMap_cons, List.append_assoc, readUnits_writeChar, ih]
    rfl

/-- No character is half of a surrogate pair. -/
theorem not_isHalf (c : Char) : isFirstHalf c.toNat = false ∧ isSecondHalf c.toNat = false := by
  have valid : c.toNat < 0xD800 ∨ 0xDFFF < c.toNat := c.valid.imp_right And.left
  simp only [isFirstHalf, isSecondHalf, Bool.and_eq_false_iff, decide_eq_false_iff_not]
  omega

theorem joinUnits_codePoints (text : List Char) : joinUnits (text.map Char.toNat) = some text := by
  induction text with
  | nil => rfl
  | cons c text ih =>
    obtain ⟨notFirst, notSecond⟩ := not_isHalf c
    cases text with
    | nil => simp [joinUnits, notFirst, notSecond]
    | cons d text =>
      rw [List.map_cons, List.map_cons, joinUnits, ← List.map_cons, ih]
      simp [notFirst, notSecond]

theorem readString_written (text : String) (rest : List Char) :
    readString (text.toList.flatMap writeChar ++ '\x22' :: rest) = some (some text, rest) := by
  rw [readString, readUnits_written, Option.map_some, joinUnits_codePoints, Option.map_some,
    String.ofList_toList]

/-! ### Integers -/

/-- What may follow a value: the end of the text, or a mark between values or behind them. -/
def Closes (rest : List Char) : Prop :=
  ∀ c ∈ rest.head?, c = ',' ∨ c = ']' ∨ c = '\x7d'

/-- The numeral that an integer is written as. -/
def Numeral.ofInteger (n : Int) : Numeral where
  negative := n < 0
  whole := digitValues (Nat.toDigits 10 n.natAbs)
  fraction := none
  exponent := none

section
variable {digits rest : List Char}

theorem readDigits_written (all : ∀ c ∈ digits, c.isDigit = true) (closes : Closes rest) :
    readDigits (digits ++ rest) = (digitValues digits, rest) := by
  induction digits with
  | nil =>
    cases rest with
    | nil => rfl
    | cons c rest =>
      have other : c.isDigit = false := by rcases closes c rfl with rfl | rfl | rfl <;> rfl
      rw [List.nil_append, readDigits, decimalDigit?_other other]
      rfl
  | cons c digits ih =>
    obtain ⟨first, all⟩ := List.forall_mem_cons.mp all
    rw [List.cons_append, readDigits, decimalDigit?_digit first, ih all]
    rfl

theorem readWhole_written (n : Nat) (closes : Closes rest) :
    readWhole (Nat.toDigits 10 n ++ rest) = some (digitValues (Nat.toDigits 10 n), rest) := by
  rw [readWhole, readDigits_written (isDigit_toDigits n) closes]
  split
  case h_1 empty =>
    have length := congrArg (fun read => read.1.length) empty
    simp [digitValues] at length
  case h_2 padded => exact absurd (congrArg Prod.fst padded) (digitValues_unpadded n)
  case h_3 => rfl

theorem readMagnitude_written (negative : Bool) (n : Nat) (closes : Closes rest) :
    readMagnitude negative (Nat.toDigits 10 n ++ rest) =
      some (⟨negative, digitValues (Nat.toDigits 10 n), none, none⟩, rest) := by
  rw [readMagnitude, readWhole_written n closes]
  cases rest with
  | nil => rfl
  | cons c rest => rcases closes c rfl with rfl | rfl | rfl <;> rfl

theorem readNumeral_written (n : Int) (closes : Closes rest) :
    readNumeral (writeInteger n ++ rest) = some (.ofInteger n, rest) := by
  rw [writeInteger, Numeral.ofInteger]
  split
  case isTrue negative =>
    rw [List.cons_append, readNumeral, readMagnitude_written true n.natAbs closes,
      decide_eq_true negative]
  case isFalse natural =>
    rw [readNumeral, readMagnitude_written false n.natAbs closes, decide_eq_false natural]
    intro others minus
    obtain ⟨c, digits, written, digit⟩ := toDigits_eq_cons n.natAbs
    rw [written] at minus
    cases minus
    cases digit

/-- Digits of a number that fits 64 bits all find room. -/
theorem appendDigits_fitting {n : Nat} (fits : Nat.ofDigitChars 10 digits n < 2 ^ 64) :
    appendDigits n (digitValues digits) = (Nat.ofDigitChars 10 digits n, 0) := by
  induction digits generalizing n with
  | nil => rfl
  | cons c digits ih =>
    rw [Nat.ofDigitChars_cons] at fits
    have first := Nat.lt_of_le_of_lt (le_ofDigitChars digits _) fits
    rw [digitValues, List.map_cons, appendDigits, ← digitValues, Nat.ofDigitChars_cons]
    exact (if_pos first).trans (ih fits)

theorem value?_ofInteger {n : Int} (low : -2 ^ 63 ≤ n) (high : n < 2 ^ 64) :
    (Numeral.ofInteger n).value? = some (.integer n) := by
  have fits : Nat.ofDigitChars 10 (Nat.toDigits 10 n.natAbs) 0 < 2 ^ 64 := by
    rw [Nat.ofDigitChars_ten_toDigits]
    omega
  rw [Numeral.value?, Numeral.ofInteger, appendDigits_fitting fits, Nat.ofDigitChars_ten_toDigits]
  dsimp only
  by_cases negative : n < 0
  case pos =>
    have bounds : 0 < n.natAbs ∧ n.natAbs ≤ 2 ^ 63 := by omega
    have same : -(n.natAbs : Int) = n := by omega
    rw [decide_eq_true negative, same]
    exact if_pos bounds
  case neg =>
    have same : (n.natAbs : Int) = n := by omega
    rw [decide_eq_false negative, same]
    rfl

end

/-! ### Values -/

mutual

/-- A tree that holds what a value holds, every part as it is written. Doubles are left out. -/
inductive Tree.Holds : Tree → Json → Prop where
  | null : Tree.Holds .null .null
  | bool (value : Bool) : Tree.Holds (.bool value) (.bool value)
  | integer (n : Int) : Tree.Holds (.number (.ofInteger n)) (.integer n)
  | string (text : String) : Tree.Holds (.string (some text)) (.string text)
  | array {trees : List Tree} {items : List Json} (all : ItemsHold trees items) :
      Tree.Holds (.array trees) (.array items)
  | object {trees : List (Option String × Tree)} {members : List (String × Json)}
      (all : MembersHold trees members) : Tree.Holds (.object trees) (.object members)

/-- Trees that hold what items hold, in order. -/
inductive ItemsHold : List Tree → List Json → Prop where
  | nil : ItemsHold [] []
  | cons {tree : Tree} {item : Json} {trees : List Tree} {items : List Json}
      (first : tree.Holds item) (rest : ItemsHold trees items) :
      ItemsHold (tree :: trees) (item :: items)

/-- Named trees that hold what members hold, in order. -/
inductive MembersHold : List (Option String × Tree) → List (String × Json) → Prop where
  | nil : MembersHold [] []
  | cons {name : String} {tree : Tree} {value : Json} {trees : List (Option String × Tree)}
      {members : List (String × Json)} (first : tree.Holds value)
      (rest : MembersHold trees members) :
      MembersHold ((some name, tree) :: trees) ((name, value) :: members)

end

section
variable {tree : Tree} {value : Json} {fuel : Nat} {rest : List Char} {c : Char}

/-- No number starts with a mark that is no digit. -/
theorem ne_of_numeral (number : c = '-' ∨ c.isDigit = true) (mark : Char) (minus : mark ≠ '-')
    (digit : mark.isDigit = false) : c ≠ mark := by
  rintro rfl
  rcases number with same | same
  · exact minus same
  · rw [digit] at same
    cases same

theorem readTree_numeral (number : c = '-' ∨ c.isDigit = true) :
    readTree (fuel + 1) (c :: rest) =
      (readNumeral (c :: rest)).map fun read => (.number read.1, read.2) := by
  have other := ne_of_numeral number
  rw [readTree, if_neg (other _ (by decide) rfl), if_neg (other _ (by decide) rfl),
    if_neg (other _ (by decide) rfl)]
  · exact fun _ first _ => other 'n' (by decide) rfl first
  · exact fun _ first _ => other 't' (by decide) rfl first
  · exact fun _ first _ => other 'f' (by decide) rfl first

theorem writeInteger_eq_cons (n : Int) :
    ∃ c rest, writeInteger n = c :: rest ∧ (c = '-' ∨ c.isDigit = true) := by
  rw [writeInteger]
  split
  case isTrue => exact ⟨_, _, rfl, .inl rfl⟩
  case isFalse =>
    obtain ⟨c, digits, written, digit⟩ := toDigits_eq_cons n.natAbs
    exact ⟨c, digits, written, .inr digit⟩

/-- No value starts with a blank or with the mark that closes an array. -/
theorem write_eq_cons (holds : tree.Holds value) :
    ∃ c rest, write value = c :: rest ∧ isGap c = false ∧ c ≠ ']' := by
  cases holds with
  | null => exact ⟨_, _, rfl, by decide⟩
  | bool value => cases value <;> exact ⟨_, _, rfl, by decide⟩
  | integer n =>
    obtain ⟨c, rest, written, number⟩ := writeInteger_eq_cons n
    have other := ne_of_numeral number
    refine ⟨c, rest, written, ?_, other _ (by decide) rfl⟩
    simp [isGap, other ' ' (by decide) rfl, other '\t' (by decide) rfl,
      other '\n' (by decide) rfl, other '\r' (by decide) rfl]
  | string text => exact ⟨_, _, rfl, by decide⟩
  | array all => cases all <;> exact ⟨_, _, rfl, by decide⟩
  | object all => cases all <;> exact ⟨_, _, rfl, by decide⟩

theorem skipGaps_write (holds : tree.Holds value) (rest : List Char) :
    skipGaps (write value ++ rest) = write value ++ rest := by
  obtain ⟨c, others, written, solid, -⟩ := write_eq_cons holds
  rw [written, List.cons_append, skipGaps, List.dropWhile_cons_of_neg (by simp [solid])]

theorem closes_writeItems (items : List Json) (rest : List Char) :
    Closes (writeItems items ++ rest) := by
  cases items with
  | nil => rintro c ⟨⟩; exact .inr (.inl rfl)
  | cons item items => rintro c ⟨⟩; exact .inl rfl

theorem closes_writeMembers (members : List (String × Json)) (rest : List Char) :
    Closes (writeMembers members ++ rest) := by
  cases members with
  | nil => rintro c ⟨⟩; exact .inr (.inr rfl)
  | cons member members => rintro c ⟨⟩; exact .inl rfl

-- Each step of the reader takes one from its fuel and at least one character from the text, so the
-- induction is on the fuel, which the length of what is written never exceeds.
mutual

/-- A value is read as the tree that holds it, and the reader stops behind it. -/
theorem readTree_written : ∀ {fuel : Nat} {tree : Tree} {value : Json} {rest : List Char},
    tree.Holds value → (write value).length ≤ fuel → Closes rest →
    readTree fuel (write value ++ rest) = some (tree, rest)
  | 0, _, _, _, holds, fits, _ => by
    obtain ⟨c, others, written, -⟩ := write_eq_cons holds
    rw [written] at fits
    exact absurd fits (Nat.not_succ_le_zero _)
  | _ + 1, _, _, _, .null, _, _ => rfl
  | _ + 1, _, _, _, .bool true, _, _ => rfl
  | _ + 1, _, _, _, .bool false, _, _ => rfl
  | _ + 1, _, _, _, .integer n, _, closes => by
    obtain ⟨c, others, written, number⟩ := writeInteger_eq_cons n
    have read := readNumeral_written n closes
    rw [written, List.cons_append] at read
    rw [write, written, List.cons_append, readTree_numeral number, read]
    rfl
  | _ + 1, _, _, _, .string text, _, _ => by
    simp only [write, writeString, List.cons_append, List.append_assoc, List.nil_append]
    rw [readTree, if_pos rfl, readString_written]
    · rfl
    all_goals exact nofun
  | _ + 1, _, _, _, .array .nil, _, _ => rfl
  | fuel + 1, _, _, rest, .array (@ItemsHold.cons tree item trees items first others), fits, _ => by
    simp only [write, List.length_append, List.length_cons] at fits
    have read : readItems fuel (write item ++ writeItems items ++ rest) =
        some (tree :: trees, rest) :=
      readItems_written first others (by rw [List.length_append]; omega)
    simp only [write, List.cons_append, List.append_assoc] at read ⊢
    rw [readTree, if_neg (by decide), if_pos rfl, skipGaps_write first]
    · split
      case h_1 same =>
        obtain ⟨c, others, written, -, unclosed⟩ := write_eq_cons first
        rw [written] at same
        cases same
        exact absurd rfl unclosed
      case h_2 =>
        rw [read]
        rfl
    all_goals exact nofun
  | _ + 1, _, _, _, .object .nil, _, _ => rfl
  | fuel + 1, _, _, rest, .object (@MembersHold.cons name tree value trees members first others),
    fits, _ => by
    simp only [write, List.length_append, List.length_cons] at fits
    have read : readMembers fuel
        (writeString name ++ ':' :: write value ++ writeMembers members ++ rest) =
          some ((some name, tree) :: trees, rest) :=
      readMembers_written first others
        (by simp only [List.length_append, List.length_cons]; omega)
    simp only [write, List.cons_append, List.append_assoc] at read ⊢
    rw [readTree, if_neg (by decide), if_neg (by decide), if_pos rfl]
    · change (readMembers fuel (writeString name ++ ':' ::
        (write value ++ (writeMembers members ++ rest)))).map _ = _
      rw [read]
      rfl
    all_goals exact nofun

/-- The items of an array behind its opening mark. -/
theorem readItems_written : ∀ {fuel : Nat} {tree : Tree} {item : Json} {trees : List Tree}
    {items : List Json} {rest : List Char}, tree.Holds item → ItemsHold trees items →
    (write item ++ writeItems items).length ≤ fuel →
    readItems fuel (write item ++ writeItems items ++ rest) = some (tree :: trees, rest)
  | 0, _, _, _, _, _, holds, _, fits => by
    obtain ⟨c, others, written, -⟩ := write_eq_cons holds
    rw [written] at fits
    exact absurd fits (Nat.not_succ_le_zero _)
  | fuel + 1, _, _, _, items, rest, holds, others, fits => by
    have marked : 0 < (writeItems items).length := by cases items <;> exact Nat.succ_pos _
    rw [List.length_append] at fits
    rw [readItems, List.append_assoc, skipGaps_write holds,
      readTree_written holds (by omega) (closes_writeItems items rest)]
    cases others with
    | nil => rfl
    | @cons tree item trees items first others =>
      simp only [writeItems, List.length_append, List.length_cons] at fits
      have read : readItems fuel (write item ++ writeItems items ++ rest) =
          some (tree :: trees, rest) :=
        readItems_written first others (by rw [List.length_append]; omega)
      change (readItems fuel (write item ++ writeItems items ++ rest) >>= _) = _
      rw [read]
      rfl

/-- The members of an object behind its opening mark. -/
theorem readMembers_written : ∀ {fuel : Nat} {name : String} {tree : Tree} {value : Json}
    {trees : List (Option String × Tree)} {members : List (String × Json)} {rest : List Char},
    tree.Holds value → MembersHold trees members →
    (writeString name ++ ':' :: write value ++ writeMembers members).length ≤ fuel →
    readMembers fuel (writeString name ++ ':' :: write value ++ writeMembers members ++ rest) =
      some ((some name, tree) :: trees, rest)
  | 0, _, _, _, _, _, _, _, _, fits => absurd fits (Nat.not_succ_le_zero _)
  | fuel + 1, _, _, _, _, members, rest, holds, others, fits => by
    simp only [writeString, List.length_append, List.length_cons] at fits
    simp only [writeString, List.cons_append, List.append_assoc, List.nil_append]
    change (readString _ >>= _) = _
    rw [readString_written]
    change (readTree fuel (skipGaps (_ ++ _)) >>= _) = _
    rw [skipGaps_write holds,
      readTree_written holds (by omega) (closes_writeMembers members rest)]
    cases others with
    | nil => rfl
    | @cons name tree value trees members first others =>
      simp only [writeMembers, List.length_append, List.length_cons] at fits
      have read : readMembers fuel
          (writeString name ++ ':' :: write value ++ writeMembers members ++ rest) =
            some ((some name, tree) :: trees, rest) :=
        readMembers_written first others
          (by simp only [List.length_append, List.length_cons]; omega)
      change (readMembers fuel
        (writeString name ++ ':' :: write value ++ writeMembers members ++ rest) >>= _) = _
      rw [read]
      rfl

end

/-- The text of a value is read as the tree that holds it. -/
theorem parseTree?_render (holds : tree.Holds value) : parseTree? (render value) = some tree := by
  have start := skipGaps_write holds []
  have read : readTree ((write value).length + 1) (write value ++ []) = some (tree, []) :=
    readTree_written holds (Nat.le_succ _) nofun
  rw [List.append_nil] at start read
  rw [parseTree?, render, String.toList_ofList, start, read]
  rfl

end

end InlineCompletion.Json
