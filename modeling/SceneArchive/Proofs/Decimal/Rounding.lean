import Mathlib
import SceneArchive.Proofs.Decimal.Nearest

/-!
# Rounding to the nearest double

A finite double has the exact value `value x`. The rounding of IEEE 754 takes a number to the
double with the nearest value, and of two equally near ones to the one with an even significand
(`IsRounding`). It is the rounding of quotients and of decimals in this library, as far as the
result is finite, and the result is finite below `2 ^ 63` at least.

* `standsFor_ofRatio`, `standsFor_ofDecimal`: what a quotient and a decimal are rounded to.
* `StandsFor.isRounding`, `StandsFor.value_eq`: it is the rounding, and there is no other.
* `abs_lt_of_isRounding`: no number outside the integers of sixty-four bits is rounded into them.
* `integer?_eq_some_iff`, `exists_value_eq_intCast`: the integer that a double is, and the
  integers that are doubles.
-/

namespace SceneArchive.Binary64

/-! ## Bits

A double is made of its sign and one number: the exponent field and behind it the fraction field.
A significand that is rounded up to the next power of two is carried into the exponent field. -/

section Bits

open Float.Model.UnpackedFloat

/-- Only bits that are not a number are replaced. -/
theorem bits_ofBits {n : Nat} (h : n < twoTo 64) (number : n % twoTo 63 ≤ 2047 * twoTo 52) :
    bits (Float.ofBits (UInt64.ofNat n)) = n := by
  simp only [twoTo, Nat.pow_eq, Nat.reducePow, Nat.reduceMul] at h number
  have toNat : (UInt64.ofNat n).toBitVec.toNat = n := by simpa using Nat.mod_eq_of_lt h
  have notNaN : ¬ @isNaNBits .binary64 (UInt64.ofNat n).toBitVec := by
    simp only [isNaNBits, unpackExponent_def, unpackMantissa_def, decide_eq_true_eq, not_and,
      not_not]
    intro exponent
    have ones := congrArg BitVec.toNat exponent
    apply BitVec.eq_of_toNat_eq
    simp only [BitVec.extractLsb'_toNat, toNat, Nat.shiftRight_eq_div_pow] at ones ⊢
    simp at ones ⊢
    omega
  have same := @pack_unpack .binary64 (UInt64.ofNat n).toBitVec (by decide)
  rw [if_neg notNaN] at same
  calc bits (Float.ofBits (UInt64.ofNat n))
      = ((unpack .binary64 (UInt64.ofNat n).toBitVec).pack .binary64).toNat := rfl
    _ = n := by rw [same, toNat]

end Bits

/-- The double of a sign and the number that is made of the two fields. -/
def ofFields (negative : Bool) (fields : Nat) : Float :=
  Float.ofBits (UInt64.ofNat (fields + if negative then twoTo 63 else 0))

section Fields

variable {negative : Bool} {fields : Nat} (h : fields ≤ 2047 * twoTo 52)
include h

theorem bits_ofFields :
    bits (ofFields negative fields) = fields + if negative then twoTo 63 else 0 := by
  apply bits_ofBits
  all_goals
    simp only [twoTo, Nat.pow_eq, Nat.reducePow, Nat.reduceMul] at h ⊢
    split <;> omega

theorem isNegative_ofFields : isNegative (ofFields negative fields) = negative := by
  rw [isNegative, bits_ofFields h]
  simp only [twoTo, Nat.pow_eq, Nat.reducePow, Nat.reduceMul] at h ⊢
  cases negative
  · simpa using by omega
  · simp

theorem exponentField_ofFields : exponentField (ofFields negative fields) = fields / twoTo 52 := by
  rw [exponentField, bits_ofFields h]
  simp only [twoTo, Nat.pow_eq, Nat.reducePow, Nat.reduceMul] at h ⊢
  split <;> omega

theorem fractionField_ofFields : fractionField (ofFields negative fields) = fields % twoTo 52 := by
  rw [fractionField, bits_ofFields h]
  simp only [twoTo, Nat.pow_eq, Nat.reducePow, Nat.reduceMul] at h ⊢
  split <;> omega

theorem isFinite_ofFields_iff :
    isFinite (ofFields negative fields) = true ↔ fields < 2047 * twoTo 52 := by
  rw [isFinite, isSpecial, exponentField_ofFields h]
  simp only [twoTo, Nat.pow_eq, Nat.reducePow, Nat.reduceMul, Bool.not_eq_true',
    beq_eq_false_iff_ne] at h ⊢
  omega

end Fields

section Significand

variable (negative : Bool) {p r : Nat} (normal : p = 0 ∨ twoTo 52 ≤ r) (bound : r ≤ twoTo 53)
  (h : p * twoTo 52 + r ≤ 2047 * twoTo 52)
include normal bound h

/-- The multiple of `2 ^ p` by `r` has this significand at this place, unless it is the next power
of two. -/
theorem significand_shift_ofFields :
    significand (ofFields negative (p * twoTo 52 + r)) = r ∧
        shift (ofFields negative (p * twoTo 52 + r)) = p ∨
      r = twoTo 53 ∧ significand (ofFields negative (p * twoTo 52 + r)) = twoTo 52 ∧
        shift (ofFields negative (p * twoTo 52 + r)) = p + 1 := by
  rw [significand, shift, exponentField_ofFields h, fractionField_ofFields h]
  by_cases subnormal : (p * twoTo 52 + r) / twoTo 52 = 0
  · rw [if_pos subnormal]
    simp only [twoTo, Nat.pow_eq, Nat.reducePow, Nat.reduceMul] at *
    omega
  · rw [if_neg subnormal]
    simp only [twoTo, Nat.pow_eq, Nat.reducePow, Nat.reduceMul] at *
    omega

theorem magnitude_ofFields : magnitude (ofFields negative (p * twoTo 52 + r)) = r * twoTo p := by
  rw [magnitude]
  rcases significand_shift_ofFields negative normal bound h with ⟨hr, hp⟩ | ⟨rfl, hr, hp⟩
  · rw [hr, hp]
  · rw [hr, hp, ← twoTo_add, ← twoTo_add]
    congr 1
    omega

theorem significand_ofFields_mod_two :
    significand (ofFields negative (p * twoTo 52 + r)) % 2 = r % 2 := by
  rcases significand_shift_ofFields negative normal bound h with ⟨hr, -⟩ | ⟨rfl, hr, -⟩
  · rw [hr]
  · rw [hr]
    decide

theorem scaled_ofFields : scaled (ofFields negative (p * twoTo 52 + r)) =
    signed negative ((r * twoTo p : Nat) : Int) := by
  rw [scaled, isNegative_ofFields h, magnitude_ofFields negative normal bound h, signed]

end Significand

theorem significand_lt (x : Float) : significand x < twoTo 53 := by
  have fraction : fractionField x < twoTo 52 := Nat.mod_lt _ (twoTo_pos 52)
  rw [significand]
  simp only [twoTo, Nat.pow_eq, Nat.reducePow] at fraction ⊢
  split <;> omega

theorem natAbs_signed_scaled (negative : Bool) (x : Float) :
    (signed negative (scaled x)).natAbs = significand x * 2 ^ shift x := by
  have unsigned : scaled x = signed (isNegative x) (magnitude x : Int) := rfl
  rw [natAbs_signed, unsigned, natAbs_signed, Int.natAbs_natCast, magnitude, twoTo, Nat.pow_eq]

/-! ## Values -/

/-- The exact value of a finite double. -/
def value (x : Float) : ℚ := scaled x / unitsPerOne

/-- The double that a number is rounded to: a nearest finite one, with an even significand if
another one is equally near. -/
structure IsRounding (v : ℚ) (x : Float) : Prop where
  finite : isFinite x = true
  nearest : ∀ y, isFinite y = true → |v - value x| ≤ |v - value y|
  even : ∀ y, isFinite y = true → value y ≠ value x → |v - value y| = |v - value x| →
    significand x % 2 = 0

theorem unitsPerOne_cast_pos : (0 : ℚ) < unitsPerOne := by exact_mod_cast unitsPerOne_pos

theorem value_inj {x y : Float} : value x = value y ↔ scaled x = scaled y := by
  rw [value, value, div_left_inj' unitsPerOne_cast_pos.ne', Int.cast_inj]

theorem value_eq_intCast_iff {x : Float} {n : Int} :
    value x = n ↔ scaled x = n * unitsPerOne := by
  rw [value, div_eq_iff unitsPerOne_cast_pos.ne']
  exact_mod_cast Iff.rfl

theorem integer?_eq_some_iff {x : Float} {n : Int} :
    integer? x = some n ↔ isFinite x = true ∧ value x = n := by
  have positive := unitsPerOne_pos
  have signOutside : scaled x = signed (isNegative x) (magnitude x : Int) := rfl
  have signOutside' : integer? x =
      if isFinite x && magnitude x % unitsPerOne == 0 then
        some (signed (isNegative x) ((magnitude x / unitsPerOne : Nat) : Int))
      else none := rfl
  rw [value_eq_intCast_iff, signOutside, signOutside', signed_eq_iff, signed_mul]
  generalize magnitude x = m
  generalize unitsPerOne = unit at positive
  simp only [Option.ite_none_right_eq_some, Bool.and_eq_true, beq_iff_eq, and_assoc,
    Option.some.injEq, signed_eq_iff]
  refine and_congr_right fun _ => ⟨?_, fun product => ?_⟩
  · rintro ⟨divides, same⟩
    rw [← same]
    exact_mod_cast (Nat.div_mul_cancel (Nat.dvd_of_mod_eq_zero divides)).symm
  · have divides : (m : Int) % unit = 0 := by rw [product, Int.mul_emod_left]
    refine ⟨by exact_mod_cast divides, ?_⟩
    rw [Int.natCast_ediv, product, Int.mul_ediv_cancel]
    exact_mod_cast positive.ne'

theorem abs_sub_value (negative : Bool) (v : ℚ) (x : Float) :
    |signed negative v - value x| =
      |v * unitsPerOne - (signed negative (scaled x) : Int)| / unitsPerOne := by
  have units := unitsPerOne_cast_pos
  rw [value]
  generalize (unitsPerOne : ℚ) = unit at units ⊢
  have quotient (a : ℚ) : |a| / unit = |a / unit| := by rw [abs_div, abs_of_pos units]
  rw [quotient, sub_div, mul_div_cancel_right₀ _ units.ne']
  cases negative
  · rfl
  · simp only [signed, if_true, Int.cast_neg]
    rw [← abs_neg]
    congr 1
    ring

/-! ## The rounding -/

/-- A double that is, its sign set apart, the nearest step to a number. -/
def StandsFor (negative : Bool) (v : ℚ) (x : Float) : Prop :=
  ∃ p r, IsNearestStep (v * unitsPerOne) p r ∧ signed negative (scaled x) = r * 2 ^ p ∧
    significand x % 2 = r % 2

section StandsFor

variable {negative : Bool} {v : ℚ} {x : Float}

theorem abs_sub_value_of_step {p r : Nat} (step : signed negative (scaled x) = r * 2 ^ p) :
    |signed negative v - value x| = |v * unitsPerOne - r * 2 ^ p| / unitsPerOne := by
  rw [abs_sub_value, step]
  push_cast
  rfl

theorem value_eq_of_step {p r : Nat} {y : Float} (step : signed negative (scaled x) = r * 2 ^ p)
    (same : signed negative (scaled y) = r * 2 ^ p) : value y = value x := by
  rw [value_inj, ← signed_signed negative (scaled y), same, ← step, signed_signed]

variable (h : StandsFor negative v x) (finite : isFinite x = true)
include h finite

theorem StandsFor.isRounding : IsRounding (signed negative v) x := by
  obtain ⟨p, r, nearest, step, parity⟩ := h
  refine ⟨finite, fun y _ => ?_, fun y _ other tie => ?_⟩
  · rw [abs_sub_value_of_step step, abs_sub_value]
    exact div_le_div_of_nonneg_right
      (nearest.nearest (natAbs_signed_scaled negative y) (significand_lt y))
      unitsPerOne_cast_pos.le
  · rw [abs_sub_value_of_step step, abs_sub_value, div_left_inj' unitsPerOne_cast_pos.ne'] at tie
    rw [parity]
    exact nearest.even_of_tie (natAbs_signed_scaled negative y) (significand_lt y)
      (fun same => other (value_eq_of_step step same)) tie

/-- Numbers are rounded to one value only. -/
theorem StandsFor.value_eq {y : Float} (rounding : IsRounding (signed negative v) y) :
    value y = value x := by
  obtain ⟨p, r, nearest, step, -⟩ := h
  have digits := natAbs_signed_scaled negative y
  have near := rounding.nearest x finite
  rw [abs_sub_value_of_step step, abs_sub_value,
    div_le_div_iff_of_pos_right unitsPerOne_cast_pos] at near
  have tie := le_antisymm near (nearest.nearest digits (significand_lt y))
  refine value_eq_of_step step (nearest.eq_of_nearest digits (significand_lt y) near fun other => ?_)
  refine rounding.even x finite (fun same => other ?_) ?_
  · rw [← step, value_inj.mp same]
  · rw [abs_sub_value_of_step step, abs_sub_value, tie]

end StandsFor

/-! ## Quotients -/

section Ratio

variable {negative : Bool} {num den : Nat}

theorem ofRatio_eq (negative : Bool) (num den : Nat) :
    ofRatio negative num den =
      ofFields negative (min (places (num * unitsPerOne) den * twoTo 52 +
        steps (num * unitsPerOne) den) (2047 * twoTo 52)) := rfl

theorem isFinite_ofRatio_iff : isFinite (ofRatio negative num den) = true ↔
    places (num * unitsPerOne) den * twoTo 52 + steps (num * unitsPerOne) den <
      2047 * twoTo 52 := by
  rw [ofRatio_eq, isFinite_ofFields_iff (Nat.min_le_right _ _)]
  omega

theorem places_units_le {m e : Nat} (small : num < den * twoTo m) (h : m + 1074 = e + 53) :
    places (num * unitsPerOne) den ≤ e := by
  apply places_le
  rw [← h, twoTo_add, ← Nat.mul_assoc]
  exact Nat.mul_lt_mul_of_pos_right small unitsPerOne_pos

theorem isFinite_ofRatio (small : num < den * twoTo 1023) :
    isFinite (ofRatio negative num den) = true := by
  have few : places (num * unitsPerOne) den ≤ 2044 := places_units_le small rfl
  have bound := steps_le (num * unitsPerOne) den
  rw [isFinite_ofRatio_iff]
  simp only [twoTo, Nat.pow_eq, Nat.reducePow] at bound ⊢
  omega

theorem scaled_ofRatio (finite : isFinite (ofRatio negative num den) = true) :
    signed negative (scaled (ofRatio negative num den)) =
      steps (num * unitsPerOne) den * 2 ^ places (num * unitsPerOne) den := by
  have bound := (isFinite_ofRatio_iff.mp finite).le
  rw [ofRatio_eq, Nat.min_eq_left bound,
    scaled_ofFields negative (places_or_steps _ _) (steps_le _ _) bound, signed_signed]
  push_cast [twoTo, Nat.pow_eq]
  rfl

theorem significand_ofRatio_mod_two (finite : isFinite (ofRatio negative num den) = true) :
    significand (ofRatio negative num den) % 2 = steps (num * unitsPerOne) den % 2 := by
  have bound := (isFinite_ofRatio_iff.mp finite).le
  rw [ofRatio_eq, Nat.min_eq_left bound]
  exact significand_ofFields_mod_two negative (places_or_steps _ _) (steps_le _ _) bound

theorem standsFor_ofRatio (positive : 0 < den)
    (finite : isFinite (ofRatio negative num den) = true) :
    StandsFor negative (num / den) (ofRatio negative num den) := by
  have units : (num / den : ℚ) * unitsPerOne = (num * unitsPerOne : Nat) / den := by
    rw [Nat.cast_mul, div_mul_eq_mul_div]
  refine ⟨_, _, ?_, scaled_ofRatio finite, significand_ofRatio_mod_two finite⟩
  rw [units]
  exact isNearestStep_steps _ positive

theorem isFinite_ofRatio_twoTo (negative : Bool) :
    isFinite (ofRatio negative (twoTo 1024) 1) = false := by
  cases negative <;> decide +kernel

end Ratio

/-! ## Decimals

Decimals with very small and very large exponents are decided by the number of their digits. -/

theorem two_pow_lt_ten_pow {m e : Nat} (few : m < 3 * e) : (2 : ℚ) ^ m < 10 ^ e := by
  calc (2 : ℚ) ^ m < 2 ^ (3 * e) := pow_lt_pow_right₀ (by norm_num) few
    _ = 8 ^ e := by
      rw [pow_mul]
      norm_num
    _ ≤ 10 ^ e := by
      gcongr
      norm_num

theorem twoTo_le_zpow {m e : Nat} (few : m < 3 * e) : (twoTo m : ℚ) ≤ 10 ^ (e : Int) := by
  rw [twoTo, Nat.pow_eq, zpow_natCast]
  push_cast
  exact (two_pow_lt_ten_pow few).le

theorem mul_twoTo_lt_half {v : ℚ} {m e : Nat} (few : m + 1 < 3 * e)
    (tiny : v ≤ 10 ^ (-(e : Int))) : v * twoTo m < 1 / 2 := by
  have positive : (0 : ℚ) < 10 ^ e := by positivity
  have power := two_pow_lt_ten_pow few
  rw [pow_succ] at power
  rw [zpow_neg, zpow_natCast] at tiny
  calc v * twoTo m ≤ (10 ^ e)⁻¹ * 2 ^ m := by
        rw [twoTo, Nat.pow_eq]
        push_cast
        gcongr
    _ < 1 / 2 := by
        rw [inv_mul_lt_iff₀ positive]
        linarith

theorem lt_ten_pow_length (n : Nat) : n < 10 ^ (Nat.toDigits 10 n).length :=
  (Nat.length_toDigits_le_iff (by decide) Nat.length_toDigits_pos).mp le_rfl

theorem ten_pow_length_le {n : Nat} (nonzero : n ≠ 0) :
    10 ^ ((Nat.toDigits 10 n).length - 1) ≤ n := by
  by_cases one : (Nat.toDigits 10 n).length - 1 = 0
  · rw [one]
    omega
  · rw [← Nat.not_lt, ← Nat.length_toDigits_le_iff (by decide) (by omega)]
    omega

section Decimal

variable {negative : Bool} {coefficient : Nat} {exponent : Int}

/-- A decimal is too small for a double other than zero, too large for an integer of sixty-four
bits, or rounded as a quotient. -/
theorem ofDecimal_cases (negative : Bool) (coefficient : Nat) (exponent : Int) :
    (ofDecimal negative coefficient exponent = ofRatio negative 0 1 ∧
        coefficient * (10 : ℚ) ^ exponent * unitsPerOne < 1 / 2) ∨
      (ofDecimal negative coefficient exponent = ofRatio negative (twoTo 1024) 1 ∧
        (twoTo 63 : ℚ) ≤ coefficient * (10 : ℚ) ^ exponent) ∨
      ∃ num den : Nat, 0 < den ∧
        ofDecimal negative coefficient exponent = ofRatio negative num den ∧
        (num / den : ℚ) = coefficient * (10 : ℚ) ^ exponent := by
  have ten : (0 : ℚ) < 10 := by norm_num
  have upper : (coefficient : ℚ) < 10 ^ (Nat.toDigits 10 coefficient).length := by
    exact_mod_cast lt_ten_pow_length coefficient
  have lower (nonzero : coefficient ≠ 0) :
      (10 : ℚ) ^ ((Nat.toDigits 10 coefficient).length - 1) ≤ coefficient := by
    exact_mod_cast ten_pow_length_le nonzero
  have some : 0 < (Nat.toDigits 10 coefficient).length := Nat.length_toDigits_pos
  -- Only the two bounds on the number of digits matter for what lies outside the exponents tried.
  simp only [ofDecimal]
  generalize (Nat.toDigits 10 coefficient).length = length at upper lower some
  split_ifs with small large whole
  · refine .inl ⟨rfl, ?_⟩
    rcases small with rfl | small
    · rw [Nat.cast_zero, zero_mul, zero_mul]
      norm_num
    · apply mul_twoTo_lt_half (e := 401) (by decide)
      calc coefficient * (10 : ℚ) ^ exponent ≤ 10 ^ (length : Int) * 10 ^ exponent := by
            gcongr
            exact_mod_cast upper.le
        _ = 10 ^ (length + exponent) := (zpow_add₀ ten.ne' _ _).symm
        _ ≤ 10 ^ (-(401 : Nat) : Int) := zpow_le_zpow_right₀ (by norm_num) (by omega)
  · refine .inr (.inl ⟨rfl, ?_⟩)
    have first : (10 : ℚ) ^ ((length - 1 : Nat) : Int) ≤ coefficient := by
      exact_mod_cast lower fun zero => small (.inl zero)
    calc (twoTo 63 : ℚ) ≤ 10 ^ ((400 : Nat) : Int) := twoTo_le_zpow (by decide)
      _ ≤ 10 ^ (((length - 1 : Nat) : Int) + exponent) :=
          zpow_le_zpow_right₀ (by norm_num) (by omega)
      _ = 10 ^ ((length - 1 : Nat) : Int) * 10 ^ exponent := zpow_add₀ ten.ne' _ _
      _ ≤ coefficient * 10 ^ exponent := by gcongr
  · refine .inr (.inr ⟨_, 1, Nat.one_pos, rfl, ?_⟩)
    obtain ⟨e, rfl⟩ := Int.eq_ofNat_of_zero_le whole
    push_cast [tenTo, Nat.pow_eq, Int.toNat_natCast]
    rw [zpow_natCast, div_one]
  · refine .inr (.inr ⟨_, _, Nat.pow_pos (by decide), rfl, ?_⟩)
    obtain ⟨e, same⟩ := Int.eq_ofNat_of_zero_le (a := -exponent) (by omega)
    obtain rfl : exponent = -(e : Int) := by omega
    push_cast [tenTo, Nat.pow_eq, Int.toNat_natCast, neg_neg]
    rw [zpow_neg, zpow_natCast, div_eq_mul_inv]

theorem standsFor_ofDecimal (finite : isFinite (ofDecimal negative coefficient exponent) = true) :
    StandsFor negative (coefficient * (10 : ℚ) ^ exponent)
      (ofDecimal negative coefficient exponent) := by
  have nonneg : 0 ≤ coefficient * (10 : ℚ) ^ exponent := by positivity
  rcases ofDecimal_cases negative coefficient exponent with
    ⟨same, small⟩ | ⟨same, -⟩ | ⟨num, den, positive, same, ratio⟩
  · rw [same] at finite ⊢
    have noSteps : steps (0 * unitsPerOne) 1 = 0 := by rw [Nat.zero_mul, steps, divRound_zero]
    refine ⟨0, 0, isNearestStep_zero (mul_nonneg nonneg unitsPerOne_cast_pos.le) small, ?_, ?_⟩
    · rw [scaled_ofRatio finite, noSteps]
      simp only [Nat.cast_zero, zero_mul]
    · rw [significand_ofRatio_mod_two finite, noSteps]
  · rw [same, isFinite_ofRatio_twoTo] at finite
    cases finite
  · rw [same] at finite ⊢
    rw [← ratio]
    exact standsFor_ofRatio positive finite

theorem isFinite_ofDecimal (small : coefficient * (10 : ℚ) ^ exponent < twoTo 63) :
    isFinite (ofDecimal negative coefficient exponent) = true := by
  rcases ofDecimal_cases negative coefficient exponent with
    ⟨same, -⟩ | ⟨-, large⟩ | ⟨num, den, positive, same, ratio⟩
  · rw [same]
    exact isFinite_ofRatio (by decide +kernel)
  · exact absurd large small.not_ge
  · rw [same]
    rw [← ratio, div_lt_iff₀ (by exact_mod_cast positive)] at small
    have less : num < den * twoTo 63 := by
      rw [Nat.mul_comm]
      exact_mod_cast small
    exact isFinite_ofRatio (less.trans_le (Nat.mul_le_mul_left den (by decide +kernel)))

end Decimal

/-! ## Integers -/

theorem isRounding_value {x : Float} (finite : isFinite x = true) : IsRounding (value x) x := by
  refine ⟨finite, fun y _ => ?_, fun y _ other tie => ?_⟩
  · rw [sub_self, abs_zero]
    exact abs_nonneg _
  · rw [sub_self, abs_zero, abs_eq_zero, sub_eq_zero] at tie
    exact absurd tie.symm other

/-- The integers of fifty-three binary digits are doubles. -/
theorem exists_value_eq_intCast {n : Int} (small : n.natAbs < twoTo 53) :
    ∃ x, isFinite x = true ∧ value x = n := by
  have finite : isFinite (ofRatio (n < 0) n.natAbs 1) = true :=
    isFinite_ofRatio (small.trans_le (by decide +kernel))
  -- The grid of so small a number is no coarser than the integers, which are multiples of its step.
  have few : places (n.natAbs * unitsPerOne) 1 ≤ 1074 :=
    places_units_le (m := 53) (by rwa [Nat.one_mul]) rfl
  have nearest := isNearestStep_steps (n.natAbs * unitsPerOne) Nat.one_pos
  have multiple := scaled_ofRatio finite
  generalize places (n.natAbs * unitsPerOne) 1 = p at few nearest multiple
  obtain ⟨d, split⟩ := Nat.exists_eq_add_of_le few
  have units : unitsPerOne = twoTo p * twoTo d := by
    rw [← twoTo_add, ← split]
    rfl
  have exactly : steps (n.natAbs * unitsPerOne) 1 = n.natAbs * twoTo d := by
    apply nearest.eq_of_multiple
    rw [units]
    push_cast [twoTo, Nat.pow_eq]
    ring
  refine ⟨_, finite, ?_⟩
  rw [value_eq_intCast_iff, ← signed_signed (n < 0) (scaled _), multiple, exactly]
  conv_rhs => rw [← signed_natAbs n, ← signed_mul, units]
  push_cast [twoTo, Nat.pow_eq]
  ring_nf

/-- The two ends of the range of sixty-four bits are doubles. -/
theorem exists_value_eq_end (negative : Bool) :
    ∃ x, isFinite x = true ∧ value x = (signed negative (twoTo 63 : Int) : Int) := by
  -- `2 ^ 63` is `2 ^ 52 * 2 ^ 1085` units of `2 ^ (-1074)`.
  have bound : 1085 * twoTo 52 + twoTo 52 < 2047 * twoTo 52 := by
    simp only [twoTo, Nat.pow_eq, Nat.reducePow]
    omega
  refine ⟨ofFields negative (1085 * twoTo 52 + twoTo 52),
    (isFinite_ofFields_iff bound.le).mpr bound, ?_⟩
  rw [value_eq_intCast_iff, scaled_ofFields negative (.inr le_rfl) (by decide) bound.le,
    ← signed_mul, ← twoTo_add, unitsPerOne, ← Nat.cast_mul, ← twoTo_add]

/-- No number is rounded across the ends of the range, since they are doubles themselves. -/
theorem abs_lt_of_isRounding {v : ℚ} {x : Float} (rounding : IsRounding v x)
    (small : |value x| < twoTo 63) : |v| < twoTo 63 := by
  obtain ⟨above, finite, atEnd⟩ := exists_value_eq_end false
  obtain ⟨below, finite', atEnd'⟩ := exists_value_eq_end true
  have near := rounding.nearest above finite
  have near' := rounding.nearest below finite'
  simp only [atEnd, atEnd', signed, if_true, Bool.false_eq_true, if_false] at near near'
  push_cast at near near'
  generalize ((twoTo 63 : Nat) : ℚ) = bound at *
  rw [abs_lt] at small ⊢
  obtain ⟨low, high⟩ := small
  constructor
  · by_contra outside
    rw [abs_of_nonpos (by linarith), abs_of_nonpos (by linarith)] at near'
    linarith
  · by_contra outside
    rw [abs_of_nonneg (by linarith), abs_of_nonneg (by linarith)] at near
    linarith

end SceneArchive.Binary64
