import InlineCompletion.Text.Digit
import Mathlib.Algebra.Group.Nat.Defs

/-!
Texts of decimal digits and the numbers they stand for. A number in writing starts with a zero only
if it is zero.
-/
namespace InlineCompletion
open Text

section
variable {x : Char} {digits : List Char}

/-- The numbers of digits are below ten. -/
theorem digit_bounds (isDigit : x.isDigit = true) : 48 ≤ x.toNat ∧ x.toNat ≤ 57 :=
  Char.isDigit_iff_toNat.mp isDigit

/-- The number of digits is that of their rest, and of the first as many tens higher. -/
theorem ofDigitChars_cons_zero :
    Nat.ofDigitChars 10 (x :: digits) 0 =
      10 ^ digits.length * (x.toNat - 48) + Nat.ofDigitChars 10 digits 0 := by
  rw [Nat.ofDigitChars_cons, Nat.ofDigitChars_eq_ofDigitChars_zero, Nat.mul_zero, Nat.zero_add]
  rfl

/-- Digits stand for a number with at most as many digits. -/
theorem ofDigitChars_lt (all : ∀ c ∈ digits, c.isDigit = true) :
    Nat.ofDigitChars 10 digits 0 < 10 ^ digits.length := by
  induction digits with
  | nil => exact Nat.zero_lt_one
  | cons x rest ih =>
    obtain ⟨first, all⟩ := List.forall_mem_cons.mp all
    have bounds := digit_bounds first
    have highest : 10 ^ rest.length * (x.toNat - 48) ≤ 10 ^ rest.length * 9 :=
      Nat.mul_le_mul_left _ (by omega)
    have := ih all
    rw [ofDigitChars_cons_zero, List.length_cons, Nat.pow_succ]
    omega

/-- Further digits do not make a number less. -/
theorem le_ofDigitChars (digits : List Char) (n : Nat) : n ≤ Nat.ofDigitChars 10 digits n := by
  induction digits generalizing n with
  | nil => exact Nat.le_refl n
  | cons c rest ih =>
    rw [Nat.ofDigitChars_cons]
    exact Nat.le_trans (by omega) (ih _)

/-! ### Numbers in writing -/

theorem isDigit_toDigits (n : Nat) : ∀ c ∈ Nat.toDigits 10 n, c.isDigit = true :=
  fun _ inside => Nat.isDigit_of_mem_toDigits (by decide) (by decide) inside

theorem toDigits_eq_cons (n : Nat) :
    ∃ c digits, Nat.toDigits 10 n = c :: digits ∧ c.isDigit = true := by
  cases written : Nat.toDigits 10 n with
  | nil => exact absurd (congrArg List.length written) (Nat.ne_of_gt Nat.length_toDigits_pos)
  | cons c digits => exact ⟨c, digits, rfl, isDigit_toDigits n c (written ▸ List.mem_cons_self)⟩

/-- No number is written with a zero in front of other digits. -/
theorem toDigits_unpadded (n : Nat) : Nat.toDigits 10 n ≠ '0' :: x :: digits := by
  intro padded
  have all := isDigit_toDigits n
  have same : Nat.ofDigitChars 10 (Nat.toDigits 10 n) 0 = n := Nat.ofDigitChars_ten_toDigits
  rw [padded] at all same
  rw [ofDigitChars_cons_zero] at same
  have fits : n < 10 ^ (x :: digits).length := by
    rw [← same]
    simpa using ofDigitChars_lt (List.forall_mem_cons.mp all).2
  have short := (Nat.length_toDigits_le_iff (by decide) (Nat.succ_pos _)).mpr fits
  rw [padded] at short
  exact Nat.not_succ_le_self _ short

/-! ### Values of digits -/

/-- The values of decimal digits. -/
def digitValues (digits : List Char) : List Nat :=
  digits.map fun c => c.toNat - 48

theorem decimalDigit?_digit (isDigit : x.isDigit = true) :
    decimalDigit? x = some (x.toNat - 48) :=
  if_pos (digit_bounds isDigit)

theorem decimalDigit?_other (other : x.isDigit = false) : decimalDigit? x = none := by
  refine if_neg fun bounds => ?_
  rw [Char.isDigit_iff_toNat.mpr bounds] at other
  cases other

theorem digitValues_unpadded (n : Nat) {d : Nat} {others : List Nat} :
    digitValues (Nat.toDigits 10 n) ≠ 0 :: d :: others := by
  intro padded
  obtain ⟨x, rest, written, zero, more⟩ := List.map_eq_cons_iff.mp padded
  obtain ⟨y, digits, rfl, -, -⟩ := List.map_eq_cons_iff.mp more
  have bounds := digit_bounds (isDigit_toDigits n x (written ▸ List.mem_cons_self))
  have first : x = '0' := Char.toNat_inj.mp (by simp only [Char.reduceToNat]; omega)
  exact toDigits_unpadded n (first ▸ written)

end

end InlineCompletion
