import SceneArchive.Decimal.Numeral
import SceneArchive.Proofs.Decimal.Binary64
import SceneArchive.Proofs.Text

/-!
# The grammar of numerals

The texts of integers and of decimal numerals, with what they are made of. The readers of this
library accept just these texts.

* `readInt?_eq_some_iff`: integers in digits.
* `Numeral.read?_eq_some_iff`: numerals with a fraction and an exponent, both of which may be left
  out.
-/

namespace SceneArchive.Decimal

/-! ## Grammar -/

def IsDigits (s : List Char) : Prop := ∀ c ∈ s, c.isDigit = true

/-- A sign, and whether it is a minus. A plus may be left out. -/
inductive SignText : Bool → List Char → Prop
  | minus : SignText true ['-']
  | plus : SignText false ['+']
  | none : SignText false []

/-- An integer in digits. -/
inductive IntegerText : Int → List Char → Prop
  | mk {negative : Bool} {sign digits : List Char} (signText : SignText negative sign)
      (nonempty : digits ≠ []) (all : IsDigits digits) :
      IntegerText (signed negative (valueOfDigits digits)) (sign ++ digits)

/-- The digits behind a point. Without digits the point may be left out. -/
inductive FractionText : List Char → List Char → Prop
  | none : FractionText [] []
  | point {digits : List Char} (all : IsDigits digits) : FractionText digits ('.' :: digits)

/-- A power of ten, which may be left out if it is one. -/
inductive ExponentText : Int → List Char → Prop
  | none : ExponentText 0 []
  | letter {c : Char} {n : Int} {s : List Char} (letter : c = 'e' ∨ c = 'E')
      (integer : IntegerText n s) : ExponentText n (c :: s)

/-- A numeral has digits on one side of the point at least. -/
inductive NumeralText : Numeral → List Char → Prop
  | mk {negative : Bool} {n : Int} {sign whole digits fraction exponent : List Char}
      (signText : SignText negative sign) (all : IsDigits whole)
      (fractionText : FractionText digits fraction) (exponentText : ExponentText n exponent)
      (some : whole ≠ [] ∨ digits ≠ []) :
      NumeralText ⟨negative, whole, digits, n⟩ (sign ++ (whole ++ (fraction ++ exponent)))

variable {s rest : List Char} {negative : Bool}

/-! ## Signs and integers -/

theorem exists_signText (h : readSign s = (negative, rest)) :
    ∃ sign, SignText negative sign ∧ s = sign ++ rest := by
  unfold readSign at h
  split at h
  · cases h
    exact ⟨_, .minus, rfl⟩
  · cases h
    exact ⟨_, .plus, rfl⟩
  · cases h
    exact ⟨_, .none, rfl⟩

theorem readSign_append {sign : List Char} (h : SignText negative sign)
    (unsigned : ∀ c ∈ rest.head?, c ≠ '-' ∧ c ≠ '+') :
    readSign (sign ++ rest) = (negative, rest) := by
  cases h with
  | minus => rfl
  | plus => rfl
  | none =>
    rw [List.nil_append]
    unfold readSign
    split
    · exact absurd rfl (unsigned '-' rfl).1
    · exact absurd rfl (unsigned '+' rfl).2
    · rfl

theorem ne_sign_of_isDigit {c : Char} (digit : c.isDigit = true) : c ≠ '-' ∧ c ≠ '+' := by
  constructor
  all_goals
    rintro rfl
    exact absurd digit (by decide)

theorem readDigits?_eq_some_iff {n : Nat} :
    readDigits? s = some n ↔ s ≠ [] ∧ IsDigits s ∧ valueOfDigits s = n := by
  unfold readDigits?
  simp only [Option.ite_none_right_eq_some, Bool.and_eq_true, Bool.not_eq_true',
    List.isEmpty_eq_false_iff, List.all_eq_true, Option.some.injEq, and_assoc, IsDigits]

theorem readInt?_eq_some_iff {n : Int} : readInt? s = some n ↔ IntegerText n s := by
  unfold readInt?
  constructor
  · intro h
    rcases sign : readSign s with ⟨negative, digits⟩
    rw [sign] at h
    obtain ⟨m, asInt, rfl⟩ := Option.map_eq_some_iff.mp h
    obtain ⟨k, read, same⟩ := Option.bind_eq_some_iff.mp asInt
    cases same
    obtain ⟨nonempty, all, rfl⟩ := readDigits?_eq_some_iff.mp read
    obtain ⟨text, signText, rfl⟩ := exists_signText sign
    exact .mk signText nonempty all
  · rintro ⟨signText, nonempty, all⟩
    rw [readSign_append signText fun c hc =>
      ne_sign_of_isDigit (all c (List.mem_of_mem_head? hc))]
    have read := readDigits?_eq_some_iff.mpr ⟨nonempty, all, rfl⟩
    exact Option.map_eq_some_iff.mpr ⟨_, Option.bind_eq_some_iff.mpr ⟨_, read, rfl⟩, rfl⟩

namespace Numeral

/-! ## Decimals

Every part of a numeral ends where the next one begins: the digits at the point, the letter or the
end, and the sign at none of the characters that a numeral has behind its sign. -/

theorem readExponent?_eq_some_iff {n : Int} : readExponent? s = some n ↔ ExponentText n s := by
  constructor
  · intro h
    unfold readExponent? at h
    split at h
    · cases h
      exact .none
    · simp only [Option.ite_none_right_eq_some, Bool.or_eq_true, beq_iff_eq] at h
      exact .letter h.1 (readInt?_eq_some_iff.mp h.2)
  · intro h
    cases h with
    | none => rfl
    | letter letter integer =>
      simp only [readExponent?, Option.ite_none_right_eq_some, Bool.or_eq_true, beq_iff_eq]
      exact ⟨letter, readInt?_eq_some_iff.mpr integer⟩

theorem exists_fractionText {digits : List Char} (h : readFraction s = (digits, rest)) :
    ∃ fraction, FractionText digits fraction ∧ s = fraction ++ rest := by
  unfold readFraction at h
  split at h
  · obtain ⟨rfl, all, -⟩ := Text.span_eq_iff.mp h
    exact ⟨_, .point all, rfl⟩
  · cases h
    exact ⟨_, .none, rfl⟩

section Parts

variable {whole digits fraction exponent : List Char} {n : Int}
  (fractionText : FractionText digits fraction) (exponentText : ExponentText n exponent)

include exponentText

theorem head_of_exponentText :
    ∀ c ∈ exponent.head?, c.isDigit = false ∧ c ≠ '.' ∧ c ≠ '-' ∧ c ≠ '+' := by
  cases exponentText with
  | none => simp
  | letter letter _ => rcases letter with rfl | rfl <;> simp

include fractionText

theorem readFraction_append : readFraction (fraction ++ exponent) = (digits, exponent) := by
  have behind := head_of_exponentText exponentText
  cases fractionText with
  | none =>
    rw [List.nil_append]
    unfold readFraction
    split
    · exact absurd rfl (behind '.' rfl).2.1
    · rfl
  | point all => exact Text.span_append all fun c hc => (behind c hc).1

theorem head_of_fractionText :
    ∀ c ∈ (fraction ++ exponent).head?, c.isDigit = false ∧ c ≠ '-' ∧ c ≠ '+' := by
  cases fractionText with
  | none =>
    intro c hc
    obtain ⟨noDigit, -, noSign⟩ := head_of_exponentText exponentText c hc
    exact ⟨noDigit, noSign⟩
  | point _ =>
    intro c hc
    cases hc
    decide

theorem head_of_unsigned (all : IsDigits whole) :
    ∀ c ∈ (whole ++ (fraction ++ exponent)).head?, c ≠ '-' ∧ c ≠ '+' := by
  cases whole with
  | nil => exact fun c hc => (head_of_fractionText fractionText exponentText c hc).2
  | cons d whole =>
    intro c hc
    cases hc
    exact ne_sign_of_isDigit (all d List.mem_cons_self)

end Parts

theorem read?_eq_some_iff {m : Numeral} : read? s = some m ↔ NumeralText m s := by
  unfold read?
  constructor
  · intro h
    rcases sign : readSign s with ⟨negative, unsigned⟩
    rcases run : unsigned.span Char.isDigit with ⟨whole, afterWhole⟩
    rcases point : readFraction afterWhole with ⟨digits, exponent⟩
    simp only [sign, run, point, Option.ite_none_left_eq_some] at h
    obtain ⟨some, h⟩ := h
    obtain ⟨n, read, same⟩ := Option.bind_eq_some_iff.mp h
    cases same
    obtain ⟨_, signText, rfl⟩ := exists_signText sign
    obtain ⟨rfl, all, -⟩ := Text.span_eq_iff.mp run
    obtain ⟨_, fractionText, rfl⟩ := exists_fractionText point
    refine .mk signText all fractionText (readExponent?_eq_some_iff.mp read) ?_
    simpa [Classical.or_iff_not_imp_left] using some
  · rintro ⟨signText, all, fractionText, exponentText, some⟩
    have sign := readSign_append signText (head_of_unsigned fractionText exponentText all)
    have run := Text.span_append all fun c hc =>
      (head_of_fractionText fractionText exponentText c hc).1
    simp only [sign, run, readFraction_append fractionText exponentText,
      readExponent?_eq_some_iff.mpr exponentText, Option.ite_none_left_eq_some]
    refine ⟨?_, rfl⟩
    simpa [Classical.or_iff_not_imp_left] using some

end Numeral

end SceneArchive.Decimal
