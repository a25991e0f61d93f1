import InlineCompletion.Json.Decode
import Mathlib

/-!
The doubles that whole numbers are read as. A whole number of 64 bits becomes the nearest double:
never infinite, never below zero, and its negation is below zero unless it is zero. The proof
follows the number into its mantissa of 53 bits: a shorter one is shifted up, a longer one is
shifted down and rounded, and rounding can carry into one bit more.
-/
namespace InlineCompletion.Decimal
open Float.Model UnpackedFloat

/-- A number with a full mantissa and an exponent that the format can hold. -/
inductive IsNormal (sign : Sign) : UnpackedFloat → Prop where
  | finite {mantissa : Nat} {exponent : Int} (present : 0 < mantissa)
      (full : mantissa.log2 = 52) (low : -1074 ≤ exponent) (high : exponent ≤ 971) :
      IsNormal sign (.finite sign mantissa exponent present)

variable {sign : Sign} {mantissa : Nat} {exponent : Int} {x : UnpackedFloat}

/-- A mantissa is full if it has its 53rd bit and no further one. -/
theorem log2_eq_iff_full (lower : 2 ^ 52 ≤ mantissa) : mantissa.log2 = 52 ↔ mantissa < 2 ^ 53 := by
  rw [Nat.log2_eq_iff (by omega)]
  exact and_iff_right lower

/-! ### Storing a number and reading it back -/

theorem Sign.ofBitVec_toBitVec (sign : Sign) : Sign.ofBitVec sign.toBitVec = sign := by
  cases sign <;> rfl

/-- The sign is the first bit of the stored number. -/
theorem unpackSign_packComponents (sign : Sign) (biased : BitVec 11) (stored : BitVec 52) :
    unpackSign (packComponents Format.binary64 sign biased stored) = sign.toBitVec := by
  change (sign.toBitVec ++ biased ++ stored).extractLsb' 63 1 = sign.toBitVec
  rw [BitVec.extractLsb'_append_eq_of_le (by decide),
    BitVec.extractLsb'_append_eq_of_le (by decide)]
  exact BitVec.extractLsb'_eq_self

/-- The first bit of a full mantissa is not stored, and reading puts it back. -/
theorem implicit_bit (lower : 2 ^ 52 ≤ mantissa) (upper : mantissa < 2 ^ 53) :
    2 ^ 52 ||| mantissa % 2 ^ 52 = mantissa := by
  have sum := Nat.two_pow_add_eq_or_of_lt (i := 52) (b := mantissa % 2 ^ 52) (by omega) 1
  rw [Nat.mul_one] at sum
  rw [← sum]
  omega

/-- A normal number is read back as it was stored. -/
theorem IsNormal.unpack_pack (normal : IsNormal sign x) : (Float.Model.pack x).unpack = x := by
  obtain @⟨mantissa, exponent, present, full, low, high⟩ := normal
  have bias : Format.binary64.exponentBias = 1023 := by rfl
  have lower : 2 ^ 52 ≤ mantissa := (Nat.le_log2 (by omega)).mp (by omega)
  have upper : mantissa < 2 ^ 53 := (log2_eq_iff_full lower).mp full
  unfold Float.Model.unpack Float.Model.pack UnpackedFloat.pack
  simp only [bias]
  rw [if_neg, if_pos]
  case hnc => simp; omega
  case hc => rw [full]; rfl
  unfold UnpackedFloat.unpack
  simp only [unpackMantissa_packComponents, unpackExponent_packComponents,
    unpackSign_packComponents]
  -- The biased exponent lies strictly between the two that are kept for other numbers.
  rw [if_neg, if_neg]
  case hnc =>
    intro ones
    have := congrArg BitVec.toNat ones
    simp at this
    omega
  case hnc =>
    intro zero
    have := congrArg BitVec.toNat zero
    simp at this
    omega
  rw [Sign.ofBitVec_toBitVec, UnpackedFloat.finite.injEq]
  refine ⟨rfl, ?_, ?_⟩
  · rw [BitVec.toNat_append]
    simpa using implicit_bit lower upper
  · rw [bias]
    simp
    omega

/-! ### Rounding -/

theorem mantissa_shiftRight (em : ExtendedMantissa) (count : Nat) :
    (em >>> count).mantissa = em.mantissa / 2 ^ count := by
  induction count with
  | zero => simp [HShiftRight.hShiftRight, Nat.repeat]
  | succ count ih =>
    have step : em >>> (count + 1) = ExtendedMantissa.shiftRightOne (em >>> count) := rfl
    rw [step, ExtendedMantissa.shiftRightOne, ih, Nat.div_div_eq_div_mul, ← Nat.pow_succ]

/-- Rounding adds one to the mantissa or leaves it. -/
theorem roundedMantissa_cases (em : ExtendedMantissa) :
    em.roundedMantissa = em.mantissa ∨ em.roundedMantissa = em.mantissa + 1 := by
  unfold ExtendedMantissa.roundedMantissa Accuracy.roundToNearestEven
  split
  · exact .inl rfl
  · exact .inl rfl
  · omega
  · exact .inr rfl

/-- Away from the smallest numbers the exponent is chosen such that the mantissa is full. -/
theorem targetExponent_eq {total : Int} (low : -1021 ≤ total) :
    Format.binary64.targetExponent total = total - 53 := by
  have least : Format.binary64.minExponent = -1074 := by rfl
  have bits : (Format.binary64.mantissaBits : Int) = 53 := by rfl
  rw [Format.targetExponent, least, bits]
  omega

/-- A mantissa that is full or longer is shifted down until it is full. -/
theorem shiftToTargetExponent_eq (wide : 52 ≤ mantissa.log2) (low : -1074 ≤ exponent) :
    shiftToTargetExponent Format.binary64 mantissa exponent .exact =
      ((⟨mantissa, false, false⟩ : ExtendedMantissa) >>> (mantissa.log2 - 52),
        exponent + (mantissa.log2 - 52 : Nat)) := by
  have amount : (Format.binary64.targetExponent (totalExponent mantissa exponent)
      - exponent).toNat = mantissa.log2 - 52 := by
    rw [totalExponent, targetExponent_eq (by omega)]
    omega
  simp only [shiftToTargetExponent, shiftToExponent, amount,
    ExtendedMantissa.ofMantissaAndAccuracy]

theorem shifted_full (wide : 52 ≤ mantissa.log2) :
    2 ^ 52 ≤ mantissa / 2 ^ (mantissa.log2 - 52) ∧
      mantissa / 2 ^ (mantissa.log2 - 52) < 2 ^ 53 := by
  have present : mantissa ≠ 0 := by
    rintro rfl
    exact absurd wide (by decide)
  constructor
  · rw [Nat.le_div_iff_mul_le (Nat.two_pow_pos _), ← Nat.pow_add, Nat.add_sub_cancel' wide]
    exact Nat.log2_self_le present
  · have bits : 53 + (mantissa.log2 - 52) = mantissa.log2 + 1 := by omega
    rw [Nat.div_lt_iff_lt_mul (Nat.two_pow_pos _), ← Nat.pow_add, bits]
    exact Nat.lt_log2_self

/-- Rounding a mantissa that is full or longer gives a normal number. -/
theorem isNormal_roundWithAccuracy (wide : 52 ≤ mantissa.log2) (low : -1074 ≤ exponent)
    (high : exponent + (mantissa.log2 - 52 : Nat) ≤ 970) :
    IsNormal sign (roundWithAccuracy Format.binary64 sign mantissa exponent .exact) := by
  obtain ⟨lower, upper⟩ := shifted_full wide
  rw [roundWithAccuracy, shiftToTargetExponent_eq wide low]
  have same := mantissa_shiftRight ⟨mantissa, false, false⟩ (mantissa.log2 - 52)
  generalize (⟨mantissa, false, false⟩ : ExtendedMantissa) >>> (mantissa.log2 - 52) = em at same
  have bounds : 2 ^ 52 ≤ em.roundedMantissa ∧ em.roundedMantissa ≤ 2 ^ 53 := by
    rcases roundedMantissa_cases em with down | up <;> dsimp only at same <;> omega
  -- Only a carry makes the rounded mantissa longer, so the second shift drops one bit at most.
  have again : 52 ≤ em.roundedMantissa.log2 := (Nat.le_log2 (by omega)).mpr bounds.1
  have once : em.roundedMantissa.log2 < 54 := (Nat.log2_lt (by omega)).mpr (by omega)
  have kept := mantissa_shiftRight ⟨em.roundedMantissa, false, false⟩ (em.roundedMantissa.log2 - 52)
  obtain ⟨lower', upper'⟩ := shifted_full again
  dsimp only at kept
  rw [← kept] at lower' upper'
  dsimp only
  rw [shiftToTargetExponent_eq again (by omega)]
  dsimp only
  rw [dif_neg (by omega)]
  exact .finite _ ((log2_eq_iff_full lower').mpr upper') (by omega) (by omega)

theorem log2_shiftLeft {n : Nat} (present : n ≠ 0) (count : Nat) :
    (n <<< count).log2 = n.log2 + count := by
  induction count with
  | zero => rfl
  | succ count ih =>
    rw [Nat.shiftLeft_succ, Nat.log2_two_mul, ih, Nat.add_assoc]
    rw [Nat.shiftLeft_eq]
    exact Nat.mul_ne_zero present (Nat.ne_of_gt (Nat.two_pow_pos _))

/-- A whole number of 64 bits other than zero becomes a normal number above zero. -/
theorem isNormal_ofNat {n : Nat} (present : 0 < n) (bound : n < 2 ^ 64) :
    IsNormal .positive (UnpackedFloat.ofNat Format.binary64 n) := by
  have order : compare (n : Int) 0 = .gt := Int.compare_eq_gt.mpr (by omega)
  have bits : n.log2 < 64 := (Nat.log2_lt (by omega)).mpr bound
  unfold UnpackedFloat.ofNat UnpackedFloat.ofInt UnpackedFloat.normalize UnpackedFloat.round
    decreaseExponent
  rw [order]
  simp only [Int.toNat_natCast]
  rw [totalExponent, targetExponent_eq (by omega)]
  have amount : (0 - ((n.log2 : Int) + 1 + 0 - 53)).toNat = 52 - n.log2 := by omega
  have shifted := log2_shiftLeft (Nat.ne_of_gt present) (52 - n.log2)
  simp only [amount]
  exact isNormal_roundWithAccuracy (by omega) (by omega) (by omega)

/-! ### Whole numbers -/

theorem IsNormal.neg (normal : IsNormal .positive x) : IsNormal .negative x.neg := by
  obtain ⟨present, full, low, high⟩ := normal
  exact .finite present full low high

theorem isNormal_toFloat {n : UInt64} (present : n ≠ 0) :
    IsNormal .positive n.toFloat.toModel.unpack := by
  have normal : IsNormal .positive (UnpackedFloat.ofNat Format.binary64 n.toNat) :=
    isNormal_ofNat (Nat.pos_of_ne_zero fun zero => present (UInt64.toNat_inj.mp zero)) n.toNat_lt
  have same : n.toFloat.toModel.unpack = UnpackedFloat.ofNat Format.binary64 n.toNat :=
    normal.unpack_pack
  rwa [same]

/-- A normal number is below zero if its sign is negative. -/
theorem IsNormal.lt_zero {y : Float} (normal : IsNormal sign y.toModel.unpack) :
    y < 0 ↔ sign = .negative := by
  have zero : (0 : Float).toModel.unpack = .zero .positive := by rfl
  have order : y < 0 ↔ y.toModel.unpack.lt (0 : Float).toModel.unpack = true :=
    decide_eq_true_iff
  rw [order, zero]
  generalize y.toModel.unpack = stored at normal
  obtain ⟨present, full, low, high⟩ := normal
  cases sign
  case positive => exact iff_of_false Bool.false_ne_true Sign.noConfusion
  case negative => exact iff_of_true rfl rfl

/-- A normal number is finite. -/
theorem IsNormal.isFinite {y : Float} (normal : IsNormal sign y.toModel.unpack) :
    y.isFinite = true := by
  change y.toModel.unpack.isFinite = true
  generalize y.toModel.unpack = stored at normal
  obtain ⟨present, full, low, high⟩ := normal
  rfl

/-- No whole number of 64 bits is too large for a double. -/
theorem isFinite_toFloat (n : UInt64) : n.toFloat.isFinite = true := by
  by_cases zero : n = 0
  case pos => rw [zero]; rfl
  case neg => exact (isNormal_toFloat zero).isFinite

theorem toFloat_not_lt_zero (n : UInt64) : ¬ n.toFloat < 0 := by
  by_cases zero : n = 0
  case pos => rw [zero]; decide +kernel
  case neg =>
    intro below
    cases (isNormal_toFloat zero).lt_zero.mp below

theorem neg_toFloat_lt_zero {n : UInt64} (present : n ≠ 0) : -n.toFloat < 0 := by
  have normal := (isNormal_toFloat present).neg
  have same : (-n.toFloat).toModel.unpack = n.toFloat.toModel.unpack.neg := normal.unpack_pack
  rw [← same] at normal
  exact normal.lt_zero.mpr rfl

end InlineCompletion.Decimal
