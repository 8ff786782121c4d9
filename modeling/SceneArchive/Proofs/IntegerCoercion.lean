import SceneArchive.Proofs.Coercion
import SceneArchive.Proofs.Decimal.Value

/-!
# Integers from text

An integer of sixty-four bits that is written in digits is read as it stands. Every other text is
read as a double first, so that the number is rounded before it is known to be an integer. The
integer that is read is the number of the text, or what this number is rounded to; the range is
respected before and after the rounding.

* `readInteger?_eq_some_iff`: the texts that are read as a given integer.
* `readsExactly_iff`: the texts that are read exactly are those whose number is not rounded to an
  integer.
* `readInteger?_of_denotes`: an integer that doubles hold is read exactly, however it is written.
-/

namespace SceneArchive.Coercion

open Binary64 (IsRounding value isFinite)
open Decimal (IntegerText NumeralText Numeral)

variable {s : List Char} {n : Int} {v w : ℚ}

/-! ## What a text denotes -/

/-- The number of a text without the blanks around it, a decimal comma counting as a point. -/
def Denotes (s : List Char) (v : ℚ) : Prop :=
  ∃ m, NumeralText m (normalizeDecimal s) ∧ m.value = v

/-- An integer of sixty-four bits that is written in digits. -/
def IsPlainInteger (s : List Char) (n : Int) : Prop :=
  IntegerText n (Text.trim s) ∧ fitsInt64 n = true

/-- The double that a number is rounded to is an integer. -/
def RoundsTo (v : ℚ) (n : Int) : Prop := ∃ x, IsRounding v x ∧ value x = n

/-- A text is read as no other integer than the one it denotes, and only within sixty-four bits. -/
def ReadsExactly (s : List Char) : Prop :=
  ∀ n, readInteger? s = some n → Denotes s n ∧ fitsInt64 n = true

/-- A text denotes a number that becomes an integer by rounding only. -/
def IsRoundedToInteger (s : List Char) : Prop :=
  (¬ ∃ n, IsPlainInteger s n) ∧
    ∃ v n, Denotes s v ∧ RoundsTo v n ∧ n.natAbs < twoTo 63 ∧ v ≠ n

theorem denotes_unique (h : Denotes s v) (h' : Denotes s w) : v = w := by
  obtain ⟨m, text, rfl⟩ := h
  obtain ⟨m', text', rfl⟩ := h'
  rw [← Numeral.read?_eq_some_iff] at text text'
  rw [Option.some.inj (text.symm.trans text')]

theorem normalizeDecimal_trim (s : List Char) :
    normalizeDecimal (Text.trim s) = normalizeDecimal s := by
  rw [normalizeDecimal, Text.trim_trim, normalizeDecimal]

theorem normalizeDecimal_of_no_comma (noComma : ',' ∉ Text.trim s) :
    normalizeDecimal s = Text.trim s := by
  rw [normalizeDecimal, Text.span_absent noComma]

theorem normalizeDecimal_of_integerText (h : IntegerText n (Text.trim s)) :
    normalizeDecimal s = Text.trim s := by
  refine normalizeDecimal_of_no_comma ?_
  generalize Text.trim s = t at h
  cases h with
  | mk signText nonempty all =>
    intro comma
    rcases List.mem_append.mp comma with inSign | inDigits
    · cases signText <;> simp at inSign
    · exact absurd (all _ inDigits) (by decide)

theorem denotes_of_isPlainInteger (h : IsPlainInteger s n) : Denotes s n := by
  rw [Denotes, normalizeDecimal_of_integerText h.1]
  exact h.1.exists_numeralText

/-! ## What is read -/

theorem readInt?_filter_eq_some_iff :
    (Decimal.readInt? (Text.trim s)).filter fitsInt64 = some n ↔ IsPlainInteger s n := by
  rw [Option.filter_eq_some_iff, Decimal.readInt?_eq_some_iff, IsPlainInteger]

theorem isPlainInteger_unique {k : Int} (h : IsPlainInteger s n) (h' : IsPlainInteger s k) :
    n = k := by
  rw [← readInt?_filter_eq_some_iff] at h h'
  exact Option.some.inj (h.symm.trans h')

theorem fitsInt64_of_natAbs_lt (small : n.natAbs < twoTo 63) : fitsInt64 n = true := by
  simp only [fitsInt64, Bool.and_eq_true, decide_eq_true_eq]
  omega

theorem readFloat?_eq_some_iff {x : Float} :
    readFloat? (Text.trim s) = some x ↔
      isFinite x = true ∧ ∃ m, NumeralText m (normalizeDecimal s) ∧ m.toFloat = x := by
  rw [readFloat?, Option.filter_eq_some_iff, normalizeDecimal_trim, and_comm]
  exact and_congr_right fun finite => Decimal.readFloat?_eq_some_iff finite

theorem integral?_eq_some_iff {x : Float} :
    integral? x = some n ↔ isFinite x = true ∧ value x = n ∧ n.natAbs < twoTo 63 := by
  rw [integral?, Option.filter_eq_some_iff, Binary64.integer?_eq_some_iff, decide_eq_true_eq,
    and_assoc]

theorem abs_lt_of_roundsTo (small : n.natAbs < twoTo 63) (rounds : RoundsTo v n) :
    |v| < twoTo 63 := by
  obtain ⟨x, rounding, integer⟩ := rounds
  apply Binary64.abs_lt_of_isRounding rounding
  rw [integer, ← Int.cast_abs, Int.abs_eq_natAbs]
  exact_mod_cast small

/-- The rounding of a small number is the double of its numeral. -/
theorem roundsTo_iff {m : Numeral} (small : n.natAbs < twoTo 63) :
    RoundsTo m.value n ↔ isFinite m.toFloat = true ∧ value m.toFloat = n := by
  constructor
  · intro rounds
    have finite := Numeral.isFinite_toFloat (abs_lt_of_roundsTo small rounds)
    obtain ⟨x, rounding, integer⟩ := rounds
    exact ⟨finite, (Numeral.value_eq_of_isRounding finite rounding).symm.trans integer⟩
  · rintro ⟨finite, integer⟩
    exact ⟨_, Numeral.isRounding_toFloat finite, integer⟩

/-- A text is read as an integer if it writes this integer in digits, or else if the number that it
denotes is rounded to it. -/
theorem readInteger?_eq_some_iff :
    readInteger? s = some n ↔
      IsPlainInteger s n ∨ (¬ ∃ k, IsPlainInteger s k) ∧ n.natAbs < twoTo 63 ∧
        ∃ v, Denotes s v ∧ RoundsTo v n := by
  simp only [readInteger?]
  cases plain : (Decimal.readInt? (Text.trim s)).filter fitsInt64 with
  | some k =>
    rw [readInt?_filter_eq_some_iff] at plain
    constructor
    · rintro same
      cases same
      exact .inl plain
    · rintro (h | ⟨none, -⟩)
      · rw [isPlainInteger_unique plain h]
      · exact absurd ⟨k, plain⟩ none
  | none =>
    have none : ¬ ∃ k, IsPlainInteger s k := by
      rintro ⟨k, h⟩
      rw [readInt?_filter_eq_some_iff.mpr h] at plain
      cases plain
    constructor
    · intro h
      obtain ⟨x, read, integral⟩ := Option.bind_eq_some_iff.mp h
      obtain ⟨finite, m, text, rfl⟩ := readFloat?_eq_some_iff.mp read
      obtain ⟨-, integer, small⟩ := integral?_eq_some_iff.mp integral
      exact .inr ⟨none, small, m.value, ⟨m, text, rfl⟩, (roundsTo_iff small).mpr ⟨finite, integer⟩⟩
    · rintro (h | ⟨-, small, _, ⟨m, text, rfl⟩, rounds⟩)
      · exact absurd ⟨n, h⟩ none
      · obtain ⟨finite, integer⟩ := (roundsTo_iff small).mp rounds
        exact Option.bind_eq_some_iff.mpr ⟨m.toFloat,
          readFloat?_eq_some_iff.mpr ⟨finite, m, text, rfl⟩,
          integral?_eq_some_iff.mpr ⟨finite, integer, small⟩⟩

/-! ## Exactness -/

/-- A text is read exactly unless its number is rounded to an integer. In every case the result and
the number of the text are within sixty-four bits, and the result is the number or its rounding. -/
theorem readsExactly_iff (s : List Char) :
    (ReadsExactly s ↔ ¬ IsRoundedToInteger s) ∧
      ∀ n, readInteger? s = some n → fitsInt64 n = true ∧
        ∃ v, Denotes s v ∧ -(twoTo 63 : ℚ) ≤ v ∧ v < twoTo 63 ∧ (v = n ∨ RoundsTo v n) := by
  refine ⟨⟨?_, ?_⟩, ?_⟩
  · rintro exact ⟨none, v, n, denotes, rounds, small, other⟩
    have read := readInteger?_eq_some_iff.mpr (.inr ⟨none, small, v, denotes, rounds⟩)
    exact other (denotes_unique denotes (exact n read).1)
  · intro notRounded n read
    rcases readInteger?_eq_some_iff.mp read with plain | ⟨none, small, v, denotes, rounds⟩
    · exact ⟨denotes_of_isPlainInteger plain, plain.2⟩
    · by_cases same : v = n
      · exact ⟨same ▸ denotes, fitsInt64_of_natAbs_lt small⟩
      · exact absurd ⟨none, v, n, denotes, rounds, small, same⟩ notRounded
  · intro n read
    rcases readInteger?_eq_some_iff.mp read with plain | ⟨none, small, v, denotes, rounds⟩
    · have fits := plain.2
      simp only [fitsInt64, Bool.and_eq_true, decide_eq_true_eq] at fits
      exact ⟨plain.2, n, denotes_of_isPlainInteger plain, by exact_mod_cast fits.1,
        by exact_mod_cast fits.2, .inl rfl⟩
    · have inRange := abs_lt.mp (abs_lt_of_roundsTo small rounds)
      exact ⟨fitsInt64_of_natAbs_lt small, v, denotes, inRange.1.le, inRange.2, .inr rounds⟩

theorem readsExactly_iff_wholeDecimal :
    readInteger? "12.0".toList = some 12 ∧ fitsInt64 12 = true ∧
      ∃ v, Denotes "12.0".toList v ∧ -(twoTo 63 : ℚ) ≤ v ∧ v < twoTo 63 ∧
        (v = (12 : Int) ∨ RoundsTo v 12) := by
  have read : readInteger? "12.0".toList = some 12 := by decide +kernel
  exact ⟨read, (readsExactly_iff _).2 12 read⟩

theorem not_readsExactly_of_ne {m : Numeral} {c : Nat} {e : Int}
    (numeral : Numeral.read? (normalizeDecimal s) = some m) (positive : m.negative = false)
    (coefficient : m.coefficient = c) (scale : m.scale = e) (read : readInteger? s = some n)
    (other : (c * 10 ^ e : ℚ) ≠ n) : ¬ ReadsExactly s := by
  have denotes : Denotes s (c * 10 ^ e) := by
    refine ⟨m, Numeral.read?_eq_some_iff.mp numeral, ?_⟩
    rw [Numeral.value, positive, coefficient, scale]
    rfl
  exact fun exact => other (denotes_unique denotes (exact n read).1)

/-- A fraction next to one is read as one, and an integer of more than fifty-three binary digits
as its neighbour. -/
theorem not_readsExactly_roundedDecimals :
    ¬ ReadsExactly "0.99999999999999999999".toList ∧
      ¬ ReadsExactly "9007199254740993.0".toList := by
  constructor
  · apply not_readsExactly_of_ne (m := ⟨false, ['0'], List.replicate 20 '9', 0⟩)
      (c := 99999999999999999999) (e := -20) (n := 1)
      (by decide +kernel) rfl (by decide +kernel) (by decide +kernel) (by decide +kernel)
    norm_num
  · apply not_readsExactly_of_ne (m := ⟨false, "9007199254740993".toList, ['0'], 0⟩)
      (c := 90071992547409930) (e := -1) (n := 9007199254740992)
      (by decide +kernel) rfl (by decide +kernel) (by decide +kernel) (by decide +kernel)
    norm_num

/-! ## Completeness -/

/-- An integer that doubles hold is read, however it is written. -/
theorem readInteger?_of_denotes (h : Denotes s n) (small : n.natAbs < twoTo 53) :
    readInteger? s = some n := by
  rw [readInteger?_eq_some_iff]
  by_cases plain : ∃ k, IsPlainInteger s k
  · obtain ⟨k, plain⟩ := plain
    have same : (n : ℚ) = k := denotes_unique h (denotes_of_isPlainInteger plain)
    rw [Int.cast_inj] at same
    exact .inl (same ▸ plain)
  · obtain ⟨x, finite, exactly⟩ := Binary64.exists_value_eq_intCast small
    refine .inr ⟨plain, small.trans (by decide), n, h, x, ?_, exactly⟩
    rw [← exactly]
    exact Binary64.isRounding_value finite

end SceneArchive.Coercion
