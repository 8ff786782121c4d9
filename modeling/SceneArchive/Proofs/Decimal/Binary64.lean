import Mathlib.Algebra.Group.Int.Defs
import SceneArchive.Decimal.Binary64

/-!
# Signs and zeros

A number that is stored loses the sign of a zero. It stays the same number, and its exact value
stays the same.

* `signed`: a number with the sign that is read or stored beside it.
* `sameNumber_withoutNegativeZero`, `scaled_withoutNegativeZero`.
-/

namespace SceneArchive

theorem twoTo_pos (n : Nat) : 0 < twoTo n := Nat.two_pow_pos n

theorem twoTo_add (m n : Nat) : twoTo (m + n) = twoTo m * twoTo n := Nat.pow_add 2 m n

/-- A number with the sign that is kept beside it. -/
def signed {α : Type} [Neg α] (negative : Bool) (a : α) : α := if negative then -a else a

section Signed

variable {α : Type} [InvolutiveNeg α] {negative : Bool} {a b : α}

theorem signed_signed (negative : Bool) (a : α) : signed negative (signed negative a) = a := by
  cases negative
  · rfl
  · exact neg_neg a

theorem signed_eq_iff : signed negative a = b ↔ a = signed negative b := by
  constructor
  · rintro rfl
    rw [signed_signed]
  · rintro rfl
    rw [signed_signed]

end Signed

theorem signed_mul (negative : Bool) (a b : Int) :
    signed negative (a * b) = signed negative a * b := by
  cases negative
  · rfl
  · exact (Int.neg_mul a b).symm

theorem natAbs_signed (negative : Bool) (z : Int) : (signed negative z).natAbs = z.natAbs := by
  cases negative
  · rfl
  · exact Int.natAbs_neg z

theorem signed_natAbs (n : Int) : signed (n < 0) (n.natAbs : Int) = n := by
  simp only [signed, decide_eq_true_eq]
  split <;> omega

namespace Binary64

/-- Two doubles are one number: they are the same double, or both are zeros. -/
def SameNumber (x y : Float) : Prop := x = y ∨ (magnitude x = 0 ∧ magnitude y = 0)

theorem divRound_zero (den : Nat) : divRound 0 den = 0 := by
  unfold divRound
  simp only [Nat.zero_div, Nat.zero_mod, Nat.mul_zero]
  split
  · rfl
  · split
    · omega
    · rfl

theorem ofRatio_false_zero : ofRatio false 0 1 = Float.ofBits 0 := by
  simp [ofRatio, divRound_zero]

theorem magnitude_ofRatio_false_zero : magnitude (ofRatio false 0 1) = 0 := by
  rw [ofRatio_false_zero]
  decide

theorem sameNumber_withoutNegativeZero (x : Float) : SameNumber (withoutNegativeZero x) x := by
  unfold withoutNegativeZero
  split
  · next zero => exact .inr ⟨magnitude_ofRatio_false_zero, zero⟩
  · exact .inl rfl

theorem scaled_eq_of_sameNumber {x y : Float} (h : SameNumber x y) : scaled x = scaled y := by
  rcases h with rfl | ⟨hx, hy⟩
  · rfl
  · simp [scaled, hx, hy]

theorem scaled_withoutNegativeZero (x : Float) : scaled (withoutNegativeZero x) = scaled x :=
  scaled_eq_of_sameNumber (sameNumber_withoutNegativeZero x)

theorem unitsPerOne_pos : 0 < unitsPerOne := twoTo_pos 1074

end Binary64

end SceneArchive
