import SceneArchive.Proofs.Decimal.Numeral
import SceneArchive.Proofs.Decimal.Rounding

/-!
# The value of numerals

A numeral writes a number, and the double that is read from it is the number's rounding. The words
for infinity and not-a-number are read too, but they give no finite doubles.

* `Numeral.isRounding_toFloat`, `Numeral.value_eq_of_isRounding`: the double of a numeral.
* `readFloat?_eq_some_iff`: a finite double is read from a numeral only.
-/

namespace SceneArchive.Decimal

variable {s : List Char}

namespace Numeral

/-- The number that a numeral writes. -/
def value (m : Numeral) : ℚ := signed m.negative (m.coefficient * 10 ^ m.scale)

variable {m : Numeral}

theorem isRounding_toFloat (finite : Binary64.isFinite m.toFloat = true) :
    Binary64.IsRounding m.value m.toFloat :=
  (Binary64.standsFor_ofDecimal finite).isRounding finite

theorem value_eq_of_isRounding (finite : Binary64.isFinite m.toFloat = true) {x : Float}
    (rounding : Binary64.IsRounding m.value x) : Binary64.value x = Binary64.value m.toFloat :=
  (Binary64.standsFor_ofDecimal finite).value_eq finite rounding

theorem isFinite_toFloat (small : |m.value| < twoTo 63) : Binary64.isFinite m.toFloat = true := by
  apply Binary64.isFinite_ofDecimal
  have unsigned : |m.value| = |m.coefficient * (10 : ℚ) ^ m.scale| := by
    rw [value, signed]
    split
    · exact abs_neg _
    · rfl
  rw [unsigned] at small
  exact (le_abs_self _).trans_lt small

end Numeral

theorem cast_signed (negative : Bool) (z : Int) :
    ((signed negative z : Int) : ℚ) = signed negative (z : ℚ) := by
  cases negative
  · rfl
  · exact Int.cast_neg z

/-- The text of an integer is a numeral, and the same number. -/
theorem IntegerText.exists_numeralText {n : Int} (h : IntegerText n s) :
    ∃ m, NumeralText m s ∧ m.value = n := by
  cases h with
  | @mk negative sign digits signText nonempty all =>
    refine ⟨⟨negative, digits, [], 0⟩, ?_, ?_⟩
    · simpa using NumeralText.mk signText all .none .none (.inl nonempty)
    · rw [cast_signed]
      simp [Numeral.value, Numeral.coefficient, Numeral.scale]

theorem isFinite_of_readSpecial? {x : Float} (h : readSpecial? s = some x) :
    Binary64.isFinite x = false := by
  simp only [readSpecial?] at h
  split at h
  · rw [← Option.some.inj h]
    exact Binary64.isFinite_ofRatio_twoTo _
  · split at h
    · rw [← Option.some.inj h]
      decide
    · cases h

theorem readFloat?_eq_some_iff {x : Float} (finite : Binary64.isFinite x = true) :
    readFloat? s = some x ↔ ∃ m, NumeralText m s ∧ m.toFloat = x := by
  simp only [← Numeral.read?_eq_some_iff, ← Option.map_eq_some_iff]
  have notSpecial : readSpecial? s ≠ some x := by
    intro special
    rw [isFinite_of_readSpecial? special] at finite
    cases finite
  rw [readFloat?]
  cases Numeral.read? s with
  | none => simpa using notSpecial
  | some m => rfl

end SceneArchive.Decimal
