import SceneArchive.Coercion
import SceneArchive.Proofs.Decimal.Numeral
import SceneArchive.Proofs.Results
import SceneArchive.Proofs.Text

/-!
# The text of typed values

What a text is made of that can be read as a number or a date: signs, digits, points, commas,
hyphens, letters and blanks, and at most one pair of quotes around them. So there is nothing in it
that means something to a query.

* `isPlain_of_ofText`: a text that is a number or a date has neither quotes nor ampersands within.
* `ofText_trim`: blanks around a text make no difference to its value.
* `ofJson_string`: a string of a record is coerced as its text is.
-/

namespace SceneArchive

/-- Whether a text has neither quotes nor ampersands, so that the scan of a query passes over it. -/
def IsPlain (s : List Char) : Prop := ∀ c ∈ s, c ≠ '&' ∧ Text.isQuote c = false

@[simp]
theorem isPlain_nil : IsPlain [] := fun _ hc => by cases hc

@[simp]
theorem isPlain_cons {c : Char} {s : List Char} :
    IsPlain (c :: s) ↔ (c ≠ '&' ∧ Text.isQuote c = false) ∧ IsPlain s :=
  List.forall_mem_cons

@[simp]
theorem isPlain_append {s t : List Char} : IsPlain (s ++ t) ↔ IsPlain s ∧ IsPlain t :=
  List.forall_mem_append

/-- A class of characters that has none of the three signs makes plain texts. -/
theorem isPlain_of_class {p : Char → Bool} {s : List Char} (h : ∀ c ∈ s, p c = true)
    (ampersand : p '&' = false) (single : p '\'' = false) (double : p '"' = false) :
    IsPlain s := by
  intro c hc
  have inClass := h c hc
  refine ⟨?_, ?_⟩
  · rintro rfl
    exact Bool.false_ne_true (ampersand.symm.trans inClass)
  · by_contra isQuote
    rcases Text.isQuote_iff.mp (by simpa using isQuote) with rfl | rfl
    · exact Bool.false_ne_true (single.symm.trans inClass)
    · exact Bool.false_ne_true (double.symm.trans inClass)

theorem isPlain_of_isBlank {s : List Char} (blank : ∀ c ∈ s, Text.isBlank c = true) :
    IsPlain s :=
  isPlain_of_class blank (by decide) (by decide) (by decide)

theorem isPlain_of_isDigit {s : List Char} (digits : ∀ c ∈ s, c.isDigit = true) : IsPlain s :=
  isPlain_of_class digits (by decide) (by decide) (by decide)

theorem isPlain_of_trim {s : List Char} (h : IsPlain (Text.trim s)) : IsPlain s := by
  obtain ⟨before, after, whole, blankBefore, blankAfter⟩ := Text.exists_blanks_trim s
  rw [whole]
  simp [h, isPlain_of_isBlank blankBefore, isPlain_of_isBlank blankAfter]

/-! ## Numerals and dates -/

namespace Decimal

variable {s rest : List Char}

theorem SignText.isPlain {negative : Bool} (h : SignText negative s) : IsPlain s := by
  cases h <;> simp [Text.isQuote]

theorem IntegerText.isPlain {n : Int} (h : IntegerText n s) : IsPlain s := by
  cases h with
  | mk signText _ all => exact isPlain_append.mpr ⟨signText.isPlain, isPlain_of_isDigit all⟩

theorem FractionText.isPlain {digits : List Char} (h : FractionText digits s) : IsPlain s := by
  cases h with
  | none => exact isPlain_nil
  | point all => simp [Text.isQuote, isPlain_of_isDigit all]

theorem ExponentText.isPlain {n : Int} (h : ExponentText n s) : IsPlain s := by
  cases h with
  | none => exact isPlain_nil
  | letter letter integer => rcases letter with rfl | rfl <;> simp [Text.isQuote, integer.isPlain]

theorem NumeralText.isPlain {m : Numeral} (h : NumeralText m s) : IsPlain s := by
  cases h with
  | mk signText all fractionText exponentText _ =>
    simp only [isPlain_append]
    exact ⟨signText.isPlain, isPlain_of_isDigit all, fractionText.isPlain, exponentText.isPlain⟩

theorem isPlain_of_readSign {negative : Bool} (h : readSign s = (negative, rest))
    (plain : IsPlain rest) : IsPlain s := by
  obtain ⟨sign, signText, rfl⟩ := exists_signText h
  exact isPlain_append.mpr ⟨signText.isPlain, plain⟩

theorem isPlain_of_readDigits? {n : Nat} (h : readDigits? s = some n) : IsPlain s :=
  isPlain_of_isDigit (readDigits?_eq_some_iff.mp h).2.1

theorem isPlain_of_toLower (h : IsPlain (s.map Char.toLower)) : IsPlain s := by
  let p (c : Char) : Bool := c.toLower != '&' && !Text.isQuote c.toLower
  refine isPlain_of_class (p := p) (fun c hc => ?_) (by decide) (by decide) (by decide)
  obtain ⟨noAmpersand, noQuote⟩ := h _ (List.mem_map_of_mem hc)
  simp [p, noAmpersand, noQuote]

theorem isPlain_of_readSpecial? {x : Float} (h : readSpecial? s = some x) : IsPlain s := by
  unfold readSpecial? at h
  rcases sign : readSign s with ⟨negative, word⟩
  simp only [sign, Bool.or_eq_true, beq_iff_eq] at h
  have ofWord {t : String} (same : String.ofList (word.map Char.toLower) = t)
      (plain : IsPlain t.toList) : IsPlain s := by
    rw [← same, String.toList_ofList] at plain
    exact isPlain_of_readSign sign (isPlain_of_toLower plain)
  split at h
  · next infinite =>
    rcases infinite with same | same
    · exact ofWord same (by simp [Text.isQuote])
    · exact ofWord same (by simp [Text.isQuote])
  · split at h
    · next same => exact ofWord same (by simp [Text.isQuote])
    · cases h

theorem isPlain_of_readFloat? {x : Float} (h : readFloat? s = some x) : IsPlain s := by
  unfold readFloat? at h
  cases read : Numeral.read? s with
  | some n => exact (Numeral.read?_eq_some_iff.mp read).isPlain
  | none =>
    rw [read] at h
    exact isPlain_of_readSpecial? h

end Decimal

namespace Date

theorem isPlain_of_readMonthDay? {year : Int} {s : List Char} {d : Date}
    (h : readMonthDay? year s = some d) : IsPlain s := by
  unfold readMonthDay? at h
  split at h
  · obtain ⟨month, hMonth, h⟩ := Option.bind_eq_some_iff.mp h
    obtain ⟨day, hDay, -⟩ := Option.bind_eq_some_iff.mp h
    have plain := Decimal.isPlain_of_readDigits? hMonth
    have plain' := Decimal.isPlain_of_readDigits? hDay
    simp_all [Text.isQuote]
  · obtain ⟨month, hMonth, h⟩ := Option.bind_eq_some_iff.mp h
    obtain ⟨day, hDay, -⟩ := Option.bind_eq_some_iff.mp h
    exact isPlain_append.mpr
      ⟨Decimal.isPlain_of_readDigits? hMonth, Decimal.isPlain_of_readDigits? hDay⟩
  · cases h

theorem isPlain_of_readChars? {s : List Char} {d : Date} (h : readChars? s = some d) :
    IsPlain s := by
  unfold readChars? at h
  rcases sign : Decimal.readSign s with ⟨negative, unsigned⟩
  simp only [sign] at h
  split at h
  · obtain ⟨year, hYear, h⟩ := Option.bind_eq_some_iff.mp h
    exact Decimal.isPlain_of_readSign sign (isPlain_append.mpr
      ⟨Decimal.isPlain_of_readDigits? hYear, isPlain_of_readMonthDay? h⟩)
  · cases h

end Date

/-! ## Coercion -/

namespace Coercion

variable {s : List Char} {field raw : String} {type : ValueType} {v : Value}

theorem orRefuse_eq_ok_iff {α : Type} {fault : String → ValueFault} {read : Option α} {a : α} :
    orRefuse field fault raw read = .ok a ↔ read = some a := by
  cases read <;> simp [orRefuse]

theorem isPlain_of_normalizeDecimal (h : IsPlain (normalizeDecimal s)) : IsPlain s := by
  refine isPlain_of_trim ?_
  unfold normalizeDecimal at h
  rcases run : (Text.trim s).span (· != ',') with ⟨before, rest⟩
  obtain ⟨whole, -, stop⟩ := Text.span_eq_iff.mp run
  rw [run] at h
  rw [whole]
  cases rest with
  | nil => simpa using h
  | cons c after =>
    obtain rfl : c = ',' := by simpa using stop c rfl
    simpa [Text.isQuote] using h

theorem isPlain_of_readFloat? {x : Float} (h : readFloat? s = some x) : IsPlain s := by
  unfold readFloat? at h
  exact isPlain_of_normalizeDecimal
    (Decimal.isPlain_of_readFloat? (Option.filter_eq_some_iff.mp h).1)

theorem isPlain_of_readInteger? {n : Int} (h : readInteger? s = some n) : IsPlain s := by
  refine isPlain_of_trim ?_
  simp only [readInteger?] at h
  split at h
  · next read =>
    exact (Decimal.readInt?_eq_some_iff.mp (Option.filter_eq_some_iff.mp read).1).isPlain
  · obtain ⟨x, read, -⟩ := Option.bind_eq_some_iff.mp h
    exact isPlain_of_readFloat? read

/-- What the text of a number or a date is made of. -/
theorem isPlain_of_ofText (typed : type ≠ .text) (h : ofText field type raw = .ok v) :
    IsPlain (bareText raw) := by
  cases type with
  | text => exact absurd rfl typed
  | integer =>
    rw [ofText, Results.map_eq_ok_iff] at h
    obtain ⟨n, read, -⟩ := h
    exact isPlain_of_readInteger? (orRefuse_eq_ok_iff.mp read)
  | float =>
    rw [ofText, Results.map_eq_ok_iff] at h
    obtain ⟨x, read, -⟩ := h
    exact isPlain_of_readFloat? (orRefuse_eq_ok_iff.mp read)
  | date =>
    rw [ofText, Results.map_eq_ok_iff] at h
    obtain ⟨d, read, -⟩ := h
    exact isPlain_of_trim (Date.isPlain_of_readChars? (orRefuse_eq_ok_iff.mp read))

theorem trim_ne_nil_of_ofText (typed : type ≠ .text) (h : ofText field type raw = .ok v) :
    Text.trim raw.toList ≠ [] := by
  intro blank
  have nothing : bareText raw = [] := by
    rw [bareText, blank]
    rfl
  cases type with
  | text => exact absurd rfl typed
  | integer =>
    rw [ofText, integerOfText, nothing] at h
    cases h
  | float =>
    rw [ofText, floatOfText, nothing] at h
    cases h
  | date =>
    rw [ofText, dateOfText, nothing] at h
    cases h

/-- Blanks around a text make no difference to what it is as a value. -/
theorem ofText_trim : ofText field type (String.ofList (Text.trim raw.toList)) = .ok v ↔
    ofText field type raw = .ok v := by
  have same : bareText (String.ofList (Text.trim raw.toList)) = bareText raw := by
    rw [bareText, String.toList_ofList, Text.trim_trim, bareText]
  cases type <;>
    simp only [ofText, integerOfText, floatOfText, dateOfText, same, Results.map_eq_ok_iff,
      orRefuse_eq_ok_iff]

/-- A string of a record is read as its text. -/
theorem ofJson_string (typed : type ≠ .text) :
    ofJson field type (some (.string raw)) false = ofText field type raw := by
  have read : ofJson field type (some (.string raw)) false = ofScalar type field (.string raw) := by
    simp only [ofJson, Bool.false_and, Bool.false_eq_true, if_false, required]
  rw [read]
  cases type with
  | text => exact absurd rfl typed
  | integer => simp only [ofScalar, integerOfScalar, ofText]
  | float => simp only [ofScalar, floatOfScalar, ofText]
  | date => simp only [ofScalar, dateOfScalar, ofText]

end Coercion

end SceneArchive
