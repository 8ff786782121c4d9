import SceneArchive.Proofs.Decimal.TotalOrder
import SceneArchive.Proofs.Decimal.Value

/-!
# Integers as doubles

The double that an integer is rounded to. It is always a number, and it is zero for zero alone, so
of two such doubles the exact values are the same only if the doubles are. Integers of fifty-three
binary digits are doubles themselves.

* `scaled_ofInt_eq_iff`: doubles of integers are told apart by their values.
* `isRounding_ofInt`: the double of an integer of sixty-four bits is a nearest one.
* `value_ofInt`: integers of fifty-three binary digits keep their value.
-/

namespace SceneArchive.Binary64

variable {m n : Int}

theorem fields_ofFields {negative : Bool} {number : Nat} (h : number ≤ 2047 * twoTo 52) :
    fields (ofFields negative number) = number := by
  rw [fields, bits_ofFields h]
  simp only [twoTo, Nat.pow_eq, Nat.reducePow, Nat.reduceMul] at h ⊢
  split <;> omega

theorem isNaN_ofInt (n : Int) : isNaN (ofInt n) = false := by
  rw [← Bool.not_eq_true, isNaN_iff, ofInt, ofRatio_eq, fields_ofFields (Nat.min_le_right _ _),
    not_lt]
  exact Nat.min_le_right _ _

/-- Only zero is rounded to zero. -/
theorem eq_zero_of_magnitude_ofInt (h : magnitude (ofInt n) = 0) : n = 0 := by
  rw [magnitude_eq_zero_iff, ofInt, ofRatio_eq, fields_ofFields (Nat.min_le_right _ _)] at h
  have top : 0 < 2047 * twoTo 52 := by decide
  have least : places (n.natAbs * unitsPerOne) 1 = 0 := by
    by_contra above
    have := Nat.mul_pos (Nat.pos_of_ne_zero above) (twoTo_pos 52)
    omega
  -- On the finest grid the number is a whole multiple of the step.
  have noSteps : steps (n.natAbs * unitsPerOne) 1 = 0 := by omega
  have cases := (divRound_cases (n.natAbs * unitsPerOne) 1).1
  rw [steps, least] at noSteps
  change divRound (n.natAbs * unitsPerOne) 1 = 0 at noSteps
  have units : n.natAbs * unitsPerOne = 0 := by omega
  exact Int.natAbs_eq_zero.mp ((Nat.mul_eq_zero.mp units).resolve_right unitsPerOne_pos.ne')

/-- Integers with the same exact value are the same double. -/
theorem scaled_ofInt_eq_iff : scaled (ofInt m) = scaled (ofInt n) ↔ ofInt m = ofInt n := by
  rw [scaled_eq_iff]
  refine ⟨fun same => same.elim id ?_, .inl⟩
  rintro ⟨zero, zero'⟩
  rw [eq_zero_of_magnitude_ofInt zero, eq_zero_of_magnitude_ofInt zero']

/-- Integers of sixty-four bits are rounded to a nearest double. -/
theorem isRounding_ofInt (small : n.natAbs ≤ twoTo 63) : IsRounding n (ofInt n) := by
  have finite : isFinite (ofInt n) = true := isFinite_ofRatio (small.trans_lt (by decide +kernel))
  have rounding := (standsFor_ofRatio Nat.one_pos finite).isRounding finite
  have same : signed (n < 0) ((n.natAbs : ℚ) / (1 : Nat)) = n := by
    conv_rhs => rw [← signed_natAbs n]
    rw [Nat.cast_one, div_one, Decimal.cast_signed, Int.cast_natCast]
  rw [same] at rounding
  exact rounding

/-- Integers of fifty-three binary digits are not rounded. -/
theorem value_ofInt (small : n.natAbs < twoTo 53) : value (ofInt n) = n := by
  obtain ⟨x, isNumber, exactly⟩ := exists_value_eq_intCast small
  have near := (isRounding_ofInt (small.le.trans (by decide +kernel))).nearest x isNumber
  rw [exactly, sub_self, abs_zero, abs_nonpos_iff, sub_eq_zero] at near
  exact near.symm

end SceneArchive.Binary64
