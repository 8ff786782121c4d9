import SceneArchive.Proofs.Decimal.Integers

/-!
# Quotients of doubles

A finite double divided by one that is at least two is finite. The quotient that is rounded is below
`2 ^ 1023` then, and rounding its significand up raises the exponent by one at most. So is every
quotient by a positive power of ten, as far as that is a double.

* `isFinite_of_fits`: what is unpacked to a small exponent is a finite double.
* `isFinite_neg`, `isFinite_div`: signs and quotients of finite doubles.
* `isFinite_tenTo`, `le_shift_tenTo`: the powers of ten are finite and at least two.
-/

namespace SceneArchive.Binary64

open Float.Model Float.Model.UnpackedFloat

/-- Whether an unpacked number is packed as a finite double. -/
def Fits : UnpackedFloat → Prop
  | .zero _ => True
  | .finite _ _ exponent _ => exponent ≤ 971
  | .infinity _ | .notANumber => False

variable {x y : Float} {u : UnpackedFloat}

theorem isFinite_of_fits (fits : Fits u) : isFinite ⟨Float.Model.pack u⟩ = true := by
  have field : exponentField ⟨Float.Model.pack u⟩ =
      (@unpackExponent .binary64 (UnpackedFloat.pack .binary64 u)).toNat :=
    (toNat_unpackExponent _).symm
  have below : (@unpackExponent .binary64 (UnpackedFloat.pack .binary64 u)).toNat ≠ 2047 := by
    cases u with
    | infinity | notANumber => cases fits
    | zero s =>
      rw [UnpackedFloat.pack, packedZero, unpackExponent_packComponents]
      decide
    | finite s m e positive =>
      have bound : e ≤ 971 := fits
      have small : (e + 1023 + 52).toNat < 2047 := by omega
      have inside : ¬ 2 ^ 11 ≤ (e + 1023 + 52).toNat + 1 := by omega
      rw [UnpackedFloat.pack]
      change (unpackExponent (if 2 ^ 11 ≤ (e + 1023 + 52).toNat + 1 then _ else _)).toNat ≠ 2047
      rw [if_neg inside]
      split
      · rw [unpackExponent_packComponents, BitVec.toNat_ofNat]
        exact ((Nat.mod_le _ _).trans_lt small).ne
      · rw [unpackExponent_packComponents]
        decide
  rw [isFinite, isSpecial, field]
  simpa using below

theorem fits_unpack (finite : isFinite x = true) : Fits x.toModel.unpack := by
  have field : exponentField x < 2048 := Nat.mod_lt _ (twoTo_pos 11)
  rw [unpack_eq]
  split
  · next special =>
    rw [isFinite, isSpecial, special] at finite
    cases finite
  · split
    · split
      · exact (by decide : (-1074 : Int) ≤ 971)
      · trivial
    · next ordinary _ =>
      change (exponentField x : Int) - 1075 ≤ 971
      omega

theorem isFinite_neg (finite : isFinite x = true) : isFinite (-x) = true := by
  have fits : Fits x.toModel.unpack.neg := by
    have := fits_unpack finite
    generalize x.toModel.unpack = u at this ⊢
    cases u <;> exact this
  exact isFinite_of_fits fits

/-! ## Rounding -/

theorem log2_le_of_lt {n k : Nat} (h : n < 2 ^ (k + 1)) : n.log2 ≤ k := by
  by_cases zero : n = 0
  · rw [zero]
    exact Nat.zero_le k
  · exact Nat.le_of_lt_succ ((Nat.log2_lt zero).mpr h)

theorem le_log2_of_twoTo_le {k n : Nat} (h : twoTo k ≤ n) : k ≤ n.log2 :=
  (Nat.le_log2 ((twoTo_pos k).trans_le h).ne').mpr h

theorem mantissa_shiftRight (em : ExtendedMantissa) (n : Nat) :
    (em >>> n).mantissa = em.mantissa / 2 ^ n := by
  change (n.repeat ExtendedMantissa.shiftRightOne em).mantissa = _
  induction n with
  | zero => rw [pow_zero, Nat.div_one]; rfl
  | succ n ih =>
    change (n.repeat ExtendedMantissa.shiftRightOne em).mantissa / 2 = _
    rw [ih, Nat.div_div_eq_div_mul, pow_succ]

theorem mantissa_ofMantissaAndAccuracy (m : Nat) (accuracy : Accuracy) :
    (ExtendedMantissa.ofMantissaAndAccuracy m accuracy).mantissa = m := by
  cases accuracy with
  | exact => rfl
  | inexact order => cases order <;> rfl

theorem roundedMantissa_le (em : ExtendedMantissa) : em.roundedMantissa ≤ em.mantissa + 1 := by
  rw [ExtendedMantissa.roundedMantissa]
  cases em.accuracy with
  | exact => exact Nat.le_succ _
  | inexact order =>
    cases order with
    | lt => exact Nat.le_succ _
    | eq => exact Nat.add_le_add_left (Nat.le_of_lt_succ (Nat.mod_lt _ Nat.two_pos)) _
    | gt => exact le_rfl

/-- A significand that is shifted to its place has fifty-three bits at most. -/
theorem mantissa_lt_of_shift {m : Nat} {e e' : Int} {accuracy : Accuracy} {em : ExtendedMantissa}
    (h : shiftToTargetExponent .binary64 m e accuracy = (em, e')) :
    em.mantissa < 2 ^ 53 ∧ e' = max e (max (totalExponent m e - 53) (-1074)) := by
  have target : Format.binary64.targetExponent (totalExponent m e) =
      max (totalExponent m e - 53) (-1074) := rfl
  obtain ⟨rfl, rfl⟩ := Prod.mk.inj h
  rw [target, mantissa_shiftRight, mantissa_ofMantissaAndAccuracy]
  have digits : totalExponent m e = m.log2 + 1 + e := rfl
  constructor
  · apply Nat.div_lt_of_lt_mul
    rw [← pow_add]
    refine Nat.lt_log2_self.trans_le (Nat.pow_le_pow_right Nat.two_pos ?_)
    omega
  · omega

/-- What is below `2 ^ 1023` is rounded to a finite double. -/
theorem fits_roundWithAccuracy {s : Sign} {m : Nat} {e : Int} {accuracy : Accuracy}
    (low : e ≤ 970) (below : totalExponent m e ≤ 1023) :
    Fits (roundWithAccuracy .binary64 s m e accuracy) := by
  rcases first : shiftToTargetExponent .binary64 m e accuracy with ⟨em, e₁⟩
  rcases second : shiftToTargetExponent .binary64 em.roundedMantissa e₁ .exact with ⟨em', e₂⟩
  obtain ⟨bits, rfl⟩ := mantissa_lt_of_shift first
  obtain ⟨-, rfl⟩ := mantissa_lt_of_shift second
  have rounded : em.roundedMantissa.log2 ≤ 53 := by
    have bound := roundedMantissa_le em
    exact log2_le_of_lt (by omega)
  simp only [roundWithAccuracy, first, second]
  split
  · trivial
  · simp only [Fits, totalExponent] at below ⊢
    omega

/-! ## Division -/

/-- The divisor is at least two, which is where the exponent `1` begins. -/
theorem fits_div {s s' : Sign} {m m' : Nat} {e e' : Int} {positive : 0 < m} {positive' : 0 < m'}
    (bits : m < 2 ^ 53) (high : e ≤ 971) (normal : 2 ^ 52 ≤ m') (two : -51 ≤ e') :
    Fits (UnpackedFloat.div .binary64 (.finite s m e positive) (.finite s' m' e' positive')) := by
  have target : Format.binary64.targetExponent (totalExponent m e - totalExponent m' e') =
      max (totalExponent m e - totalExponent m' e' - 53) (-1074) := rfl
  have digits : m.log2 ≤ 52 := log2_le_of_lt bits
  have digits' : 52 ≤ m'.log2 := le_log2_of_twoTo_le normal
  simp only [UnpackedFloat.div, divCore, target]
  set t := min (e - e') (max (totalExponent m e - totalExponent m' e' - 53) (-1074)) with least
  have few : ((m <<< (e - e' - t).toNat) / m').log2 ≤ (e - e' - t).toNat := by
    apply log2_le_of_lt
    apply Nat.div_lt_of_lt_mul
    calc m <<< (e - e' - t).toNat
        = m * 2 ^ (e - e' - t).toNat := Nat.shiftLeft_eq _ _
      _ < 2 ^ 53 * 2 ^ (e - e' - t).toNat := Nat.mul_lt_mul_of_pos_right bits (Nat.two_pow_pos _)
      _ = 2 ^ 52 * 2 ^ ((e - e' - t).toNat + 1) := by ring
      _ ≤ m' * 2 ^ ((e - e' - t).toNat + 1) := Nat.mul_le_mul_right _ normal
  simp only [totalExponent] at least
  apply fits_roundWithAccuracy
  · omega
  · rw [totalExponent]
    omega

theorem isFinite_iff : isFinite x = true ↔ fields x < 2047 * twoTo 52 := by
  have bound : fields x < twoTo 63 := Nat.mod_lt _ (twoTo_pos 63)
  rw [isFinite, isSpecial, exponentField_eq]
  simp only [twoTo, Nat.pow_eq, Nat.reducePow, Nat.reduceMul, Bool.not_eq_true',
    beq_eq_false_iff_ne] at bound ⊢
  omega

theorem isNaN_of_isFinite (finite : isFinite x = true) : isNaN x = false := by
  rw [isFinite, Bool.not_eq_true'] at finite
  rw [isNaN, finite, Bool.false_and]

/-- A quotient by a number that is at least two is finite; the exponent of two is stored as
`1023`. -/
theorem isFinite_div (finite : isFinite x = true) (finite' : isFinite y = true)
    (two : 1023 ≤ shift y) : isFinite (x / y) = true := by
  apply isFinite_of_fits
  have h := unpacked (isNaN_of_isFinite finite)
  have h' := unpacked (isNaN_of_isFinite finite')
  have normal : twoTo 52 ≤ significand y := le_significand (by omega)
  have field := fields_eq y
  rw [isFinite_iff] at finite finite'
  generalize x.toModel.unpack = u, y.toModel.unpack = u' at h h' ⊢
  cases h' with
  | infinite top => omega
  | zero none =>
    simp only [twoTo, Nat.pow_eq, Nat.reducePow] at field normal
    omega
  | finite =>
    cases h with
    | infinite top => omega
    | zero => trivial
    | finite =>
      have high : shift x ≤ 2045 := by
        rw [shift, exponentField_eq]
        simp only [twoTo, Nat.pow_eq, Nat.reducePow] at finite ⊢
        omega
      exact fits_div (significand_lt x) (by omega) normal (by omega)

/-! ## Powers of ten -/

theorem tenTo_le {m n : Nat} (h : m ≤ n) : tenTo m ≤ tenTo n :=
  Nat.pow_le_pow_right (by decide) h

theorem isFinite_tenTo {n : Nat} (few : n ≤ 308) : isFinite (ofRatio false (tenTo n) 1) = true := by
  rcases Nat.lt_or_eq_of_le few with less | rfl
  · apply isFinite_ofRatio
    calc tenTo n ≤ tenTo 307 := tenTo_le (Nat.le_of_lt_succ less)
      _ < 1 * twoTo 1023 := by decide +kernel
  · exact isFinite_ofRatio_iff.mpr (by decide +kernel)

theorem le_shift_tenTo {n : Nat} (few : n ≤ 308) (some : 0 < n) :
    1023 ≤ shift (ofRatio false (tenTo n) 1) := by
  have finite := isFinite_tenTo few
  have bound := isFinite_ofRatio_iff.mp finite
  have field : fields (ofRatio false (tenTo n) 1) =
      places (tenTo n * unitsPerOne) 1 * twoTo 52 + steps (tenTo n * unitsPerOne) 1 := by
    rw [ofRatio_eq, Nat.min_eq_left bound.le, fields_ofFields bound.le]
  have two : twoTo 1 ≤ tenTo n := by
    calc twoTo 1 ≤ tenTo 1 := by decide
      _ ≤ tenTo n := tenTo_le some
  have large : twoTo 1075 ≤ tenTo n * unitsPerOne := by
    calc twoTo 1075 = twoTo 1 * unitsPerOne := by rw [unitsPerOne, ← twoTo_add]
      _ ≤ tenTo n * unitsPerOne := Nat.mul_le_mul_right _ two
  have many : 1023 ≤ places (tenTo n * unitsPerOne) 1 := by
    have digits : 1075 ≤ Nat.log2 (tenTo n * unitsPerOne) := le_log2_of_twoTo_le large
    rw [places, Nat.div_one]
    omega
  have normal := le_steps (show 0 < places (tenTo n * unitsPerOne) 1 by omega)
  have digits := significand_lt (ofRatio false (tenTo n) 1)
  rw [fields_eq] at field
  simp only [twoTo, Nat.pow_eq, Nat.reducePow] at field normal digits
  omega

end SceneArchive.Binary64
