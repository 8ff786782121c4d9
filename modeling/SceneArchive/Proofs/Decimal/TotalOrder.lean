import Mathlib
import SceneArchive.Proofs.Decimal.Rounding

/-!
# The order of doubles

Doubles have a total order, in which negative zero comes before zero and every double has a place
of its own, and the comparison of IEEE 754, which knows the numbers by their values alone. Both
come down to one number: the exponent field and behind it the fraction field (`fields`), which
grows with the magnitude.

* `order_inj`, `scaled_le_of_order_le`: the total order tells all doubles apart and does not go
  against their values.
* `scaled_eq_iff`: only the two zeros share a value.
* `isNaN_eq`, `lt_iff`, `le_iff`: numbers are compared by their values.
-/

namespace SceneArchive.Binary64

variable {x y : Float}

/-! ## Magnitudes -/

/-- The exponent field and behind it the fraction field, as one number. -/
def fields (x : Float) : Nat := bits x % twoTo 63

theorem bits_lt (x : Float) : bits x < twoTo 64 := x.toBits.toNat_lt

theorem bits_inj : bits x = bits y ↔ x = y := by
  rw [bits, bits, UInt64.toNat_inj, Float.toBits_inj]

theorem isNegative_iff : isNegative x = true ↔ twoTo 63 ≤ bits x := decide_eq_true_iff

theorem exponentField_eq (x : Float) : exponentField x = fields x / twoTo 52 := by
  have bound := bits_lt x
  rw [exponentField, fields]
  simp only [twoTo, Nat.pow_eq, Nat.reducePow] at bound ⊢
  omega

theorem fractionField_eq (x : Float) : fractionField x = fields x % twoTo 52 := by
  rw [fractionField, fields]
  simp only [twoTo, Nat.pow_eq, Nat.reducePow]
  omega

theorem fields_eq (x : Float) : fields x = shift x * twoTo 52 + significand x := by
  rw [shift, significand, exponentField_eq, fractionField_eq]
  split <;>
  · simp only [twoTo, Nat.pow_eq, Nat.reducePow] at *
    omega

theorem le_significand (h : 0 < shift x) : twoTo 52 ≤ significand x := by
  rw [shift] at h
  rw [significand, if_neg (by omega)]
  exact Nat.le_add_right _ _

theorem fields_lt_iff : fields x < fields y ↔
    shift x < shift y ∨ shift x = shift y ∧ significand x < significand y := by
  have bound := significand_lt x
  have bound' := significand_lt y
  have normal := le_significand (x := x)
  have normal' := le_significand (x := y)
  rw [fields_eq, fields_eq]
  simp only [twoTo, Nat.pow_eq, Nat.reducePow] at *
  omega

theorem magnitude_lt_of_fields_lt (h : fields x < fields y) : magnitude x < magnitude y := by
  rw [magnitude, magnitude]
  rcases fields_lt_iff.mp h with less | ⟨same, less⟩
  · -- A significand is below twice the least one at the next exponent.
    calc significand x * twoTo (shift x) < twoTo 53 * twoTo (shift x) :=
          Nat.mul_lt_mul_of_pos_right (significand_lt x) (twoTo_pos _)
      _ = twoTo 52 * twoTo (shift x + 1) := by
          rw [← twoTo_add, ← twoTo_add]
          congr 1
          omega
      _ ≤ significand y * twoTo (shift y) :=
          Nat.mul_le_mul (le_significand (by omega)) (Nat.pow_le_pow_right (by decide) less)
  · rw [same]
    exact Nat.mul_lt_mul_of_pos_right less (twoTo_pos _)

theorem magnitude_eq_of_fields_eq (h : fields x = fields y) : magnitude x = magnitude y := by
  rw [magnitude, magnitude, significand, significand, shift, shift, exponentField_eq,
    exponentField_eq, fractionField_eq, fractionField_eq, h]

theorem magnitude_lt_iff : magnitude x < magnitude y ↔ fields x < fields y := by
  refine ⟨fun less => ?_, magnitude_lt_of_fields_lt⟩
  rcases lt_trichotomy (fields x) (fields y) with less' | same | greater
  · exact less'
  · exact absurd (magnitude_eq_of_fields_eq same) less.ne
  · exact absurd (magnitude_lt_of_fields_lt greater) less.asymm

/-! ## The total order -/

theorem order_eq (x : Float) :
    order x = if isNegative x then -1 - (fields x : Int) else fields x := by
  have bound := bits_lt x
  simp only [order, fields, isNegative_iff]
  split <;>
  · simp only [twoTo, Nat.pow_eq, Nat.reducePow] at *
    omega

/-- Different doubles have different places in the order, the two zeros among them. -/
theorem order_inj : order x = order y ↔ x = y := by
  refine ⟨fun same => bits_inj.mp ?_, congrArg order⟩
  have bound := bits_lt x
  have bound' := bits_lt y
  simp only [order, isNegative_iff] at same
  split at same <;> split at same <;>
  · simp only [twoTo, Nat.pow_eq, Nat.reducePow] at *
    omega

/-- The total order refines the order by value. -/
theorem scaled_le_of_order_le (h : order x ≤ order y) : scaled x ≤ scaled y := by
  have le := magnitude_lt_iff (x := x) (y := y)
  have ge := magnitude_lt_iff (x := y) (y := x)
  rw [order_eq, order_eq] at h
  rw [scaled, scaled]
  generalize isNegative x = negative, isNegative y = negative' at h ⊢
  cases negative <;> cases negative' <;>
    simp only [if_true, if_false, Bool.false_eq_true] at h ⊢ <;> omega

theorem magnitude_eq_zero_iff : magnitude x = 0 ↔ fields x = 0 := by
  constructor
  · intro zero
    rw [magnitude, Nat.mul_eq_zero, or_iff_left (twoTo_pos _).ne'] at zero
    have normal := le_significand (x := x)
    rw [fields_eq, zero]
    simp only [twoTo, Nat.pow_eq, Nat.reducePow] at *
    omega
  · intro zero
    rw [magnitude, significand, exponentField_eq, fractionField_eq, zero]
    simp

/-- The exact value leaves nothing of a double open but the sign of a zero. -/
theorem scaled_eq_iff : scaled x = scaled y ↔ SameNumber x y := by
  refine ⟨fun same => ?_, scaled_eq_of_sameNumber⟩
  have le := magnitude_lt_iff (x := x) (y := y)
  have ge := magnitude_lt_iff (x := y) (y := x)
  rw [SameNumber, ← order_inj, order_eq, order_eq]
  rw [scaled, scaled] at same
  generalize isNegative x = negative, isNegative y = negative' at same ⊢
  cases negative <;> cases negative' <;>
    simp only [if_true, if_false, Bool.false_eq_true] at same ⊢ <;> omega

/-! ## Comparison

A double is unpacked before it is compared. Of two numbers with the same sign the one with the
greater fields has the greater magnitude, whichever of them is an infinity or below the normal
numbers. -/

section Unpacking

open Float.Model Float.Model.UnpackedFloat

/-- The sign of a double. -/
def sign (x : Float) : Sign := if isNegative x then .negative else .positive

theorem toNat_unpackExponent (x : Float) :
    (@unpackExponent .binary64 x.toModel.toBits.toBitVec).toNat = exponentField x := by
  rw [unpackExponent_def, BitVec.extractLsb'_toNat, Nat.shiftRight_eq_div_pow]
  rfl

theorem toNat_unpackMantissa (x : Float) :
    (@unpackMantissa .binary64 x.toModel.toBits.toBitVec).toNat = fractionField x := by
  rw [unpackMantissa_def, BitVec.extractLsb'_toNat, Nat.shiftRight_eq_div_pow, pow_zero,
    Nat.div_one]
  rfl

theorem toNat_unpackSign (x : Float) :
    (@unpackSign .binary64 x.toModel.toBits.toBitVec).toNat = if isNegative x then 1 else 0 := by
  have bound := bits_lt x
  rw [unpackSign_def, BitVec.extractLsb'_toNat, Nat.shiftRight_eq_div_pow]
  change bits x / 2 ^ 63 % 2 ^ 1 = _
  simp only [isNegative_iff]
  split <;>
  · simp only [twoTo, Nat.pow_eq, Nat.reducePow] at *
    omega

theorem ofBitVec_unpackSign (x : Float) :
    Sign.ofBitVec (@unpackSign .binary64 x.toModel.toBits.toBitVec) = sign x := by
  have same := toNat_unpackSign x
  rw [Sign.ofBitVec, sign]
  simp only [← BitVec.toNat_inj, same]
  cases isNegative x <;> rfl

theorem unpack_eq (x : Float) : x.toModel.unpack =
    if exponentField x = 2047 then
      if fractionField x = 0 then .infinity (sign x) else .notANumber
    else if exponentField x = 0 then
      if positive : 0 < fractionField x then .finite (sign x) (fractionField x) (-1074) positive
      else .zero (sign x)
    else
      .finite (sign x) (twoTo 52 + fractionField x) (exponentField x - 1075)
        (Nat.add_pos_left (twoTo_pos 52) _) := by
  have exponent := toNat_unpackExponent x
  have mantissa := toNat_unpackMantissa x
  have normal : (1#1 ++ @unpackMantissa .binary64 x.toModel.toBits.toBitVec).toNat =
      twoTo 52 + fractionField x := by
    have bound : fractionField x < 2 ^ 52 := Nat.mod_lt _ (twoTo_pos 52)
    rw [BitVec.toNat_append, mantissa, ← Nat.shiftLeft_add_eq_or_of_lt bound]
    rfl
  have bias : (Format.binary64.exponentBias : Int) + (52 : Nat) = 1075 := rfl
  have ones : (-1#11).toNat = 2047 := rfl
  have zeros (w : Nat) : (0#w).toNat = 0 := BitVec.toNat_zero
  simp only [Float.Model.unpack, UnpackedFloat.unpack, ofBitVec_unpackSign, ← BitVec.toNat_inj,
    exponent, mantissa, bias, ones, zeros, normal]
  split
  · rfl
  · split
    · next subnormal =>
      split
      · next zero => rw [dif_neg (by omega)]
      · next nonzero =>
        rw [dif_pos (by omega)]
        congr 1
        omega
    · rfl

theorem isNaN_iff : isNaN x = true ↔ 2047 * twoTo 52 < fields x := by
  have bound : fields x < twoTo 63 := Nat.mod_lt _ (twoTo_pos 63)
  simp only [isNaN, isSpecial, Bool.and_eq_true, beq_iff_eq, bne_iff_ne, exponentField_eq,
    fractionField_eq]
  simp only [twoTo, Nat.pow_eq, Nat.reducePow] at *
  omega

/-- What a number is unpacked to: an infinity, a zero, or a number with a significand. -/
inductive Unpacked (x : Float) : UnpackedFloat → Prop
  | infinite (top : fields x = 2047 * twoTo 52) : Unpacked x (.infinity (sign x))
  | zero (none : fields x = 0) : Unpacked x (.zero (sign x))
  | finite (below : fields x < 2047 * twoTo 52) (above : 0 < fields x)
      (positive : 0 < significand x) :
      Unpacked x (.finite (sign x) (significand x) (shift x - 1074) positive)

theorem unpacked (number : isNaN x = false) : Unpacked x x.toModel.unpack := by
  have le : fields x ≤ 2047 * twoTo 52 := by rw [← not_lt, ← isNaN_iff, number]; decide
  have exponent := exponentField_eq x
  have fraction := fractionField_eq x
  have both := fields_eq x
  rw [unpack_eq]
  split
  · have top : fields x = 2047 * twoTo 52 := by
      simp only [twoTo, Nat.pow_eq, Nat.reducePow] at *
      omega
    rw [if_pos (by rw [fraction, top]; rfl)]
    exact .infinite top
  · have below : fields x < 2047 * twoTo 52 := by
      simp only [twoTo, Nat.pow_eq, Nat.reducePow] at *
      omega
    split
    · next subnormal =>
      have same : significand x = fractionField x := if_pos subnormal
      have least : shift x = 0 := by rw [shift, subnormal]
      split
      · next positive =>
        have finite := Unpacked.finite below (by omega) (same ▸ positive)
        simp only [same, least] at finite
        exact finite
      · exact .zero (by rw [both, least]; omega)
    · next normal =>
      have same : significand x = twoTo 52 + fractionField x := if_neg normal
      have up : (shift x : Int) - 1074 = exponentField x - 1075 := by
        rw [shift]
        omega
      have positive : 0 < significand x := same ▸ Nat.add_pos_left (twoTo_pos 52) _
      have finite := Unpacked.finite below (by omega) positive
      simpa only [same, up] using finite

/-- The fields with the sign before them. -/
def signedFields (x : Float) : Int := signed (isNegative x) (fields x : Int)

theorem scaled_lt_iff : scaled x < scaled y ↔ signedFields x < signedFields y := by
  have le := magnitude_lt_iff (x := x) (y := y)
  have ge := magnitude_lt_iff (x := y) (y := x)
  have zero := magnitude_eq_zero_iff (x := x)
  have zero' := magnitude_eq_zero_iff (x := y)
  simp only [scaled, signedFields, signed]
  generalize isNegative x = negative, isNegative y = negative'
  cases negative <;> cases negative' <;>
    simp only [if_true, if_false, Bool.false_eq_true] <;> omega

theorem compare_congr {α β : Type} [LinearOrder α] [LinearOrder β] {a b : α} {c d : β}
    (lt : a < b ↔ c < d) (gt : b < a ↔ d < c) : compare a b = compare c d := by
  rcases lt_trichotomy a b with less | rfl | greater
  · rw [compare_lt_iff_lt.mpr less, compare_lt_iff_lt.mpr (lt.mp less)]
  · rw [compare_eq_iff_eq.mpr rfl, compare_eq_iff_eq.mpr]
    have := lt_irrefl a
    exact le_antisymm (not_lt.mp (gt.not.mp this)) (not_lt.mp (lt.not.mp this))
  · rw [compare_gt_iff_gt.mpr greater, compare_gt_iff_gt.mpr (gt.mp greater)]

theorem compare_fields (x y : Float) :
    (compare ((shift x : Int) - 1074) (shift y - 1074)).then
      (compare (significand x) (significand y)) = compare (fields x : Int) (fields y) := by
  have lt := fields_lt_iff (x := x) (y := y)
  have gt := fields_lt_iff (x := y) (y := x)
  rcases lt_trichotomy (shift x) (shift y) with less | same | greater
  · have first : compare ((shift x : Int) - 1074) (shift y - 1074) = .lt :=
      compare_lt_iff_lt.mpr (by omega)
    have both : compare (fields x : Int) (fields y) = .lt := compare_lt_iff_lt.mpr (by omega)
    rw [first, both]
    rfl
  · have first : compare ((shift x : Int) - 1074) (shift y - 1074) = .eq :=
      compare_eq_iff_eq.mpr (by omega)
    rw [first]
    exact compare_congr (by omega) (by omega)
  · have first : compare ((shift x : Int) - 1074) (shift y - 1074) = .gt :=
      compare_gt_iff_gt.mpr (by omega)
    have both : compare (fields x : Int) (fields y) = .gt := compare_gt_iff_gt.mpr (by omega)
    rw [first, both]
    rfl

theorem compare_unpack (number : isNaN x = false) (number' : isNaN y = false) :
    x.toModel.unpack.compare y.toModel.unpack =
      some (compare (signedFields x) (signedFields y)) := by
  have h := unpacked number
  have h' := unpacked number'
  have top : 0 < 2047 * twoTo 52 := by decide
  -- Only the signs and how the fields lie to one another decide.
  have both := compare_fields x y
  simp only [signedFields, signed]
  generalize x.toModel.unpack = u, y.toModel.unpack = u' at h h' ⊢
  cases h <;> cases h'
  case finite.finite =>
    simp only [sign]
    generalize isNegative x = negative, isNegative y = negative'
    cases negative <;> cases negative' <;>
      simp only [if_true, if_false, Bool.false_eq_true, UnpackedFloat.compare, compare_fields]
    · rw [compare_gt_iff_gt.mpr (by omega)]
    · rw [compare_lt_iff_lt.mpr (by omega)]
    · rw [← Std.OrientedOrd.eq_swap]
      exact congrArg some (compare_congr (by omega) (by omega))
  all_goals
    simp only [sign]
    generalize isNegative x = negative, isNegative y = negative'
    cases negative <;> cases negative' <;>
      simp only [if_true, if_false, Bool.false_eq_true, UnpackedFloat.compare, Option.some_inj]
    all_goals
      first
      | exact (compare_lt_iff_lt.mpr (by omega)).symm
      | exact (compare_eq_iff_eq.mpr (by omega)).symm
      | exact (compare_gt_iff_gt.mpr (by omega)).symm

theorem isNaN_eq (x : Float) : x.isNaN = isNaN x := by
  change x.toModel.unpack.isNaN = _
  rw [unpack_eq, isNaN, isSpecial]
  split
  · next special =>
    rw [special]
    split <;> simp_all [UnpackedFloat.isNaN]
  · next ordinary =>
    rw [beq_eq_false_iff_ne.mpr ordinary]
    split
    · split <;> rfl
    · rfl

/-- Numbers are less by their values. -/
theorem lt_iff (number : isNaN x = false) (number' : isNaN y = false) :
    x < y ↔ scaled x < scaled y := by
  have less : x < y ↔ x.toModel.unpack.compare y.toModel.unpack = some .lt := by
    change decide (x.toModel < y.toModel) = true ↔ _
    rw [decide_eq_true_iff]
    exact beq_iff_eq
  rw [less, compare_unpack number number', Option.some_inj, compare_lt_iff_lt, scaled_lt_iff]

theorem le_iff (number : isNaN x = false) (number' : isNaN y = false) :
    x ≤ y ↔ scaled x ≤ scaled y := by
  have le : x ≤ y ↔ (x.toModel.unpack.compare y.toModel.unpack).any (·.isLE) = true := by
    change decide (x.toModel ≤ y.toModel) = true ↔ _
    rw [decide_eq_true_iff]
    exact Iff.rfl
  rw [le, compare_unpack number number', Option.any_some, Int.isLE_compare, ← not_lt,
    ← not_lt, scaled_lt_iff]

end Unpacking

end SceneArchive.Binary64
