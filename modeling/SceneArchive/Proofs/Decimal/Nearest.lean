import Mathlib.Algebra.Order.Ring.Abs
import Mathlib.Data.Nat.Cast.Order.Field
import Mathlib.Data.Rat.Cast.Order
import Mathlib.Tactic.FieldSimp
import Mathlib.Tactic.Linarith
import Mathlib.Tactic.NormNum
import Mathlib.Tactic.Positivity
import Mathlib.Tactic.Ring
import SceneArchive.Proofs.Decimal.Binary64

/-!
# The nearest step

A quotient is rounded on a grid: to a multiple of the power of two that leaves fifty-three binary
digits of it. A number with a significand of fifty-three digits is either on this grid, or so
small that the quotient is far from it. So the nearest multiple is nearest among all numbers with
such a significand, whatever their exponents.

* `abs_sub_divRound`: the rounding of a quotient to a natural number.
* `isNearestStep_steps`: the multiple that a quotient is rounded to.
* `IsNearestStep.nearest`, `IsNearestStep.even_of_tie`, `IsNearestStep.eq_of_nearest`: no number
  with fifty-three digits is nearer, one equally near makes the multiple even, and one that is
  equally near and even itself is the multiple.
-/

namespace SceneArchive.Binary64

/-! ## Quotients -/

theorem divRound_cases (num den : Nat) :
    (divRound num den = num / den ∧ 2 * (num % den) ≤ den ∨
      divRound num den = num / den + 1 ∧ den ≤ 2 * (num % den)) ∧
    (2 * (num % den) = den → divRound num den % 2 = 0) := by
  simp only [divRound]
  split_ifs <;> omega

theorem abs_sub_divRound (num : Nat) {den : Nat} (positive : 0 < den) :
    |(num / den : ℚ) - divRound num den| ≤ 1 / 2 ∧
      (|(num / den : ℚ) - divRound num den| = 1 / 2 → divRound num den % 2 = 0) := by
  have hd : (0 : ℚ) < den := by exact_mod_cast positive
  have split : (num / den : ℚ) = (num / den : Nat) + (num % den : Nat) / (den : ℚ) := by
    rw [div_eq_iff hd.ne', add_mul, div_mul_cancel₀ _ hd.ne']
    exact_mod_cast (Nat.div_add_mod' num den).symm
  have below : ((num % den : Nat) : ℚ) / den < 1 := by
    rw [div_lt_one hd]
    exact_mod_cast Nat.mod_lt num positive
  have rest : (0 : ℚ) ≤ (num % den : Nat) / (den : ℚ) := by positivity
  have atMostHalf : 2 * (num % den) ≤ den ↔ ((num % den : Nat) : ℚ) / den ≤ 1 / 2 := by
    rw [div_le_iff₀ hd, ← Nat.cast_le (α := ℚ)]
    push_cast
    constructor <;> intro h <;> linarith
  have atLeastHalf : den ≤ 2 * (num % den) ↔ 1 / 2 ≤ ((num % den : Nat) : ℚ) / den := by
    rw [le_div_iff₀ hd, ← Nat.cast_le (α := ℚ)]
    push_cast
    constructor <;> intro h <;> linarith
  have even (half : ((num % den : Nat) : ℚ) / den = 1 / 2) : divRound num den % 2 = 0 :=
    (divRound_cases num den).2 (Nat.le_antisymm (atMostHalf.mpr half.le) (atLeastHalf.mpr half.ge))
  rcases (divRound_cases num den).1 with ⟨down, le⟩ | ⟨up, le⟩
  · have distance : (num / den : ℚ) - divRound num den = (num % den : Nat) / (den : ℚ) := by
      rw [split, down, add_sub_cancel_left]
    rw [distance, abs_of_nonneg rest]
    exact ⟨atMostHalf.mp le, even⟩
  · have distance : (num / den : ℚ) - divRound num den = -(1 - (num % den : Nat) / (den : ℚ)) := by
      rw [split, up]
      push_cast
      ring
    rw [distance, abs_neg, abs_of_pos (sub_pos.mpr below)]
    have := atLeastHalf.mp le
    exact ⟨by linarith, fun half => even (by linarith)⟩

/-! ## The grid of a number -/

/-- The multiple of `2 ^ p` by `r` is nearest to `v` among the multiples of `2 ^ p`, and of two
equally near ones it is the even multiple. Unless the grid is that of the whole numbers, `v` has
fifty-three binary digits before it. -/
structure IsNearestStep (v : ℚ) (p r : Nat) : Prop where
  half : |v - r * 2 ^ p| ≤ 2 ^ p / 2
  even : |v - r * 2 ^ p| = 2 ^ p / 2 → r % 2 = 0
  normal : p = 0 ∨ (2 : ℚ) ^ (p + 52) ≤ v

/-- A number of fifty-three binary digits is on a grid, or it has fewer digits before it than the
numbers have that are rounded on the grid. -/
theorem multiple_or_small {z : Int} {k q : Nat} (digits : z.natAbs = k * 2 ^ q) (bound : k < 2 ^ 53)
    (p : Nat) : (∃ j : Int, z = j * 2 ^ p ∧ (k % 2 = 0 → j % 2 = 0)) ∨
      0 < p ∧ z.natAbs < 2 ^ (p + 52) := by
  rcases Nat.lt_or_ge q p with less | le
  · refine .inr ⟨by omega, ?_⟩
    calc z.natAbs = k * 2 ^ q := digits
      _ < 2 ^ 53 * 2 ^ q := Nat.mul_lt_mul_of_pos_right bound (Nat.two_pow_pos q)
      _ = 2 ^ (53 + q) := (Nat.pow_add ..).symm
      _ ≤ 2 ^ (p + 52) := Nat.pow_le_pow_right (by decide) (by omega)
  · obtain ⟨d, rfl⟩ := Nat.exists_eq_add_of_le le
    left
    have even (h : k % 2 = 0) : ((k * 2 ^ d : Nat) : Int) % 2 = 0 := by
      exact_mod_cast Nat.mod_eq_zero_of_dvd ((Nat.dvd_of_mod_eq_zero h).mul_right _)
    have product : ((k * 2 ^ (p + d) : Nat) : Int) = (k * 2 ^ d : Nat) * 2 ^ p := by
      push_cast
      ring
    rw [← digits] at product
    rcases Int.natAbs_eq z with positive | negative
    · exact ⟨(k * 2 ^ d : Nat), positive.trans product, even⟩
    · refine ⟨-(k * 2 ^ d : Nat), ?_, fun h => by have := even h; omega⟩
      rw [negative, product, Int.neg_mul]

namespace IsNearestStep

variable {v : ℚ} {p r : Nat}

theorem le_distance (h : IsNearestStep v p r) (j : Int) :
    (|(r : ℚ) - j| - 1 / 2) * 2 ^ p ≤ |v - j * 2 ^ p| := by
  have step : (0 : ℚ) < 2 ^ p := by positivity
  have triangle := abs_sub_abs_le_abs_sub ((r - j : ℚ) * 2 ^ p) (r * 2 ^ p - v)
  rw [abs_mul, abs_of_pos step, abs_sub_comm _ v] at triangle
  have same : (r - j : ℚ) * 2 ^ p - (r * 2 ^ p - v) = v - j * 2 ^ p := by ring
  rw [same] at triangle
  linarith [h.half]

theorem le_of_ne (h : IsNearestStep v p r) {j : Int} (other : j ≠ r) :
    2 ^ p / 2 ≤ |v - j * 2 ^ p| := by
  have apart : (1 : ℚ) ≤ |(r : ℚ) - (j : ℚ)| := by
    exact_mod_cast Int.one_le_abs (sub_ne_zero.mpr other.symm)
  calc (2 : ℚ) ^ p / 2 = (1 - 1 / 2) * 2 ^ p := by ring
    _ ≤ (|(r : ℚ) - j| - 1 / 2) * 2 ^ p := by gcongr
    _ ≤ |v - j * 2 ^ p| := h.le_distance j

/-- A multiple of the step is rounded to itself. -/
theorem eq_of_multiple (h : IsNearestStep v p r) {j : Nat} (multiple : v = j * 2 ^ p) :
    r = j := by
  by_contra other
  have step : (0 : ℚ) < 2 ^ p := by positivity
  have far := h.le_of_ne (j := j) (fun same => other (by exact_mod_cast same.symm))
  rw [multiple, Int.cast_natCast, sub_self, abs_zero] at far
  linarith

/-- The least number of fifty-three digits before the grid lies between `v` and all smaller
ones. -/
theorem lt_of_small (h : IsNearestStep v p r) {z : Int} (positive : 0 < p)
    (small : z.natAbs < 2 ^ (p + 52)) : |v - r * 2 ^ p| < |v - z| := by
  have normal : (2 : ℚ) ^ (p + 52) ≤ v := h.normal.resolve_left positive.ne'
  have least : (((2 ^ 52 : Nat) : Int) : ℚ) * 2 ^ p = 2 ^ (p + 52) := by
    rw [pow_add, mul_comm]
    norm_num
  have close : |v - r * 2 ^ p| ≤ |v - 2 ^ (p + 52)| := by
    by_cases same : ((2 ^ 52 : Nat) : Int) = r
    · rw [← least, same, Int.cast_natCast]
    · rw [← least]
      exact h.half.trans (h.le_of_ne same)
  have below : (|z| : ℚ) < 2 ^ (p + 52) := by
    rw [← Int.cast_abs, Int.abs_eq_natAbs]
    exact_mod_cast small
  calc |v - r * 2 ^ p| ≤ |v - 2 ^ (p + 52)| := close
    _ = v - 2 ^ (p + 52) := abs_of_nonneg (sub_nonneg.mpr normal)
    _ < v - z := by linarith [le_abs_self (z : ℚ)]
    _ ≤ |v - z| := le_abs_self _

section Digits

variable {z : Int} {k q : Nat} (digits : z.natAbs = k * 2 ^ q) (bound : k < 2 ^ 53)
include digits bound

theorem nearest (h : IsNearestStep v p r) : |v - r * 2 ^ p| ≤ |v - z| := by
  rcases multiple_or_small digits bound p with ⟨j, rfl, -⟩ | ⟨positive, small⟩
  · push_cast
    by_cases same : j = r
    · rw [same, Int.cast_natCast]
    · exact h.half.trans (h.le_of_ne same)
  · exact (h.lt_of_small positive small).le

theorem even_of_tie (h : IsNearestStep v p r) (other : z ≠ r * 2 ^ p)
    (tie : |v - z| = |v - r * 2 ^ p|) : r % 2 = 0 := by
  rcases multiple_or_small digits bound p with ⟨j, rfl, -⟩ | ⟨positive, small⟩
  · have far := h.le_of_ne (fun same : j = r => other (by rw [same]))
    push_cast at tie
    rw [tie] at far
    exact h.even (le_antisymm h.half far)
  · exact absurd tie.symm (h.lt_of_small positive small).ne

/-- Two even multiples of the step are too far apart to be equally near. -/
theorem eq_of_nearest (h : IsNearestStep v p r) (near : |v - z| ≤ |v - r * 2 ^ p|)
    (even : z ≠ r * 2 ^ p → k % 2 = 0) : z = r * 2 ^ p := by
  by_contra other
  have rEven := h.even_of_tie digits bound other (le_antisymm near (h.nearest digits bound))
  rcases multiple_or_small digits bound p with ⟨j, rfl, parity⟩ | ⟨positive, small⟩
  · have jEven := parity (even other)
    have ne : j ≠ r := fun same => other (by rw [same])
    have apart : (2 : ℚ) ≤ |(r : ℚ) - (j : ℚ)| := by
      have : 2 ≤ |(r : Int) - j| := by
        rw [le_abs]
        omega
      exact_mod_cast this
    have step : (0 : ℚ) < 2 ^ p := by positivity
    have far : (3 / 2 : ℚ) * 2 ^ p ≤ |v - j * 2 ^ p| :=
      le_trans (by gcongr; linarith) (h.le_distance j)
    push_cast at near
    linarith [h.half]
  · exact absurd near (h.lt_of_small positive small).not_ge

end Digits

end IsNearestStep

/-- What is less than half a step from zero is rounded to zero. -/
theorem isNearestStep_zero {v : ℚ} (nonneg : 0 ≤ v) (small : v < 1 / 2) : IsNearestStep v 0 0 := by
  refine ⟨?_, fun _ => rfl, .inl rfl⟩
  rw [Nat.cast_zero, zero_mul, sub_zero, pow_zero, abs_of_nonneg nonneg]
  exact small.le

/-! ## The multiple of a quotient -/

/-- How many binary places the grid of a quotient stands above the whole numbers. -/
def places (units den : Nat) : Nat := Nat.log2 (units / den) - 52

/-- The multiple of the grid's step that a quotient is rounded to. -/
def steps (units den : Nat) : Nat := divRound units (den * twoTo (places units den))

section Quotient

variable {units den : Nat}

theorem le_of_places_pos (h : 0 < places units den) :
    2 ^ (places units den + 52) ≤ units / den := by
  have large : Nat.log2 (units / den) = places units den + 52 := by
    simp only [places] at h ⊢
    omega
  rw [← large]
  apply Nat.log2_self_le
  intro zero
  rw [zero] at large
  simp at large

theorem lt_places (units den : Nat) : units / den < 2 ^ (places units den + 53) := by
  calc units / den < 2 ^ (Nat.log2 (units / den) + 1) := Nat.lt_log2_self
    _ ≤ 2 ^ (places units den + 53) := Nat.pow_le_pow_right (by decide) (by
      simp only [places]
      omega)

theorem places_le {e : Nat} (h : units < den * twoTo (e + 53)) : places units den ≤ e := by
  by_contra more
  have many : 0 < places units den := by omega
  have large := le_of_places_pos many
  have small : units / den < twoTo (e + 53) := Nat.div_lt_of_lt_mul h
  have le : twoTo (e + 53) ≤ 2 ^ (places units den + 52) :=
    Nat.pow_le_pow_right (by decide) (by omega)
  omega

theorem steps_le (units den : Nat) : steps units den ≤ twoTo 53 := by
  have quotient : units / (den * twoTo (places units den)) < twoTo 53 := by
    rw [← Nat.div_div_eq_div_mul]
    apply Nat.div_lt_of_lt_mul
    rw [← twoTo_add]
    exact lt_places units den
  rcases (divRound_cases units (den * twoTo (places units den))).1 with ⟨same, -⟩ | ⟨same, -⟩
  all_goals
    rw [steps, same]
    omega

theorem le_steps (h : 0 < places units den) : twoTo 52 ≤ steps units den := by
  have quotient : twoTo 52 ≤ units / (den * twoTo (places units den)) := by
    rw [← Nat.div_div_eq_div_mul, Nat.le_div_iff_mul_le (twoTo_pos _), ← twoTo_add, Nat.add_comm]
    exact le_of_places_pos h
  rcases (divRound_cases units (den * twoTo (places units den))).1 with ⟨same, -⟩ | ⟨same, -⟩
  all_goals
    rw [steps, same]
    omega

theorem places_or_steps (units den : Nat) : places units den = 0 ∨ twoTo 52 ≤ steps units den :=
  (Nat.eq_zero_or_pos _).imp_right le_steps

theorem isNearestStep_steps (units : Nat) (positive : 0 < den) :
    IsNearestStep (units / den) (places units den) (steps units den) := by
  have step : (0 : ℚ) < 2 ^ places units den := by positivity
  have rounded := abs_sub_divRound units (Nat.mul_pos positive (twoTo_pos (places units den)))
  have distance : |(units / den : ℚ) - steps units den * 2 ^ places units den| =
      |(units / (den * twoTo (places units den) : Nat) : ℚ) - steps units den| *
        2 ^ places units den := by
    rw [← abs_of_pos step, ← abs_mul, abs_of_pos step, sub_mul]
    congr 2
    push_cast [twoTo, Nat.pow_eq]
    field_simp
  refine ⟨?_, fun half => ?_, ?_⟩
  · calc _ = _ := distance
      _ ≤ 1 / 2 * 2 ^ places units den := mul_le_mul_of_nonneg_right rounded.1 step.le
      _ = 2 ^ places units den / 2 := by ring
  · apply rounded.2
    have product : _ * (2 : ℚ) ^ places units den = 1 / 2 * 2 ^ places units den :=
      (distance.symm.trans half).trans (by ring)
    exact mul_right_cancel₀ step.ne' product
  · refine (Nat.eq_zero_or_pos (places units den)).imp_right fun many => ?_
    calc (2 : ℚ) ^ (places units den + 52) ≤ (units / den : Nat) := by
          exact_mod_cast le_of_places_pos many
      _ ≤ units / den := Nat.cast_div_le

end Quotient

end SceneArchive.Binary64
