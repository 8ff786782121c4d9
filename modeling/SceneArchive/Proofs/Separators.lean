import SceneArchive.Proofs.IntegerCoercion

/-!
# Decimal separators

A number has one separator at most, and a comma is as good as a point. Reading turns the first
comma of a text into a point and leaves all else, so the number of separators stays as it is; a
numeral has one point at most and no comma. That is why no separator can be taken for one of
thousands: a second one of either sort is refused.

* `readFloat?_of_separators`: two separators are too many.
* `normalizeDecimal_commasForPoints`: one comma is read as the point in its place.
* `reads_withCommas`: what the two facts say about every reader of numbers.
-/

namespace SceneArchive

/-- The number of points and commas of a text. -/
def separators (s : List Char) : Nat := s.count '.' + s.count ','

def commaForPoint (c : Char) : Char := if c = '.' then ',' else c

/-- A text with its points turned into commas. -/
def commasForPoints (s : List Char) : List Char := s.map commaForPoint

variable {s : List Char}

@[simp]
theorem separators_append (s t : List Char) :
    separators (s ++ t) = separators s + separators t := by
  simp only [separators, List.count_append]
  omega

/-- A class of characters without the two separators. -/
theorem separators_of_class {p : Char → Bool} (h : ∀ c ∈ s, p c = true) (point : p '.' = false)
    (comma : p ',' = false) : separators s = 0 := by
  have absent {c : Char} (other : p c = false) : s.count c = 0 := by
    refine List.count_eq_zero.mpr fun mem => ?_
    rw [h c mem] at other
    cases other
  rw [separators, absent point, absent comma]

theorem separators_of_isBlank (blank : ∀ c ∈ s, Text.isBlank c = true) : separators s = 0 :=
  separators_of_class blank (by decide) (by decide)

theorem separators_of_isDigit (digits : Decimal.IsDigits s) : separators s = 0 :=
  separators_of_class digits (by decide) (by decide)

theorem separators_trim (s : List Char) : separators (Text.trim s) = separators s := by
  obtain ⟨before, after, whole, blankBefore, blankAfter⟩ := Text.exists_blanks_trim s
  conv_rhs => rw [whole]
  simp [separators_of_isBlank blankBefore, separators_of_isBlank blankAfter]

/-! ## Numerals -/

namespace Decimal

variable {n : Int}

theorem SignText.separators {negative : Bool} (h : SignText negative s) : separators s = 0 := by
  cases h <;> rfl

theorem IntegerText.separators (h : IntegerText n s) : separators s = 0 := by
  cases h with
  | mk signText _ all =>
    rw [separators_append, signText.separators, separators_of_isDigit all]

theorem ExponentText.separators (h : ExponentText n s) : separators s = 0 := by
  cases h with
  | none => rfl
  | @letter c n s letter integer =>
    have sign : SceneArchive.separators [c] = 0 := by rcases letter with rfl | rfl <;> rfl
    rw [← List.singleton_append, separators_append, sign, integer.separators]

theorem FractionText.separators_le {digits : List Char} (h : FractionText digits s) :
    separators s ≤ 1 := by
  cases h with
  | none => exact Nat.zero_le 1
  | point all =>
    rw [← List.singleton_append, separators_append, separators_of_isDigit all]
    exact Nat.le_refl 1

theorem NumeralText.separators_le {m : Numeral} (h : NumeralText m s) : separators s ≤ 1 := by
  cases h with
  | mk signText all fractionText exponentText _ =>
    simp only [separators_append, signText.separators, separators_of_isDigit all,
      exponentText.separators, Nat.zero_add, Nat.add_zero]
    exact fractionText.separators_le

end Decimal

namespace Coercion

/-! ## Two separators -/

theorem separators_normalizeDecimal (s : List Char) :
    separators (normalizeDecimal s) = separators s := by
  rw [← separators_trim s]
  unfold normalizeDecimal
  rcases run : (Text.trim s).span (· != ',') with ⟨before, rest⟩
  obtain ⟨whole, -, stop⟩ := Text.span_eq_iff.mp run
  rw [whole]
  -- The one character that is changed is a separator before and after.
  cases rest with
  | nil => rw [List.append_nil]
  | cons c after =>
    obtain rfl : c = ',' := by simpa using stop c rfl
    simp [separators]
    omega

theorem readFloat?_trim (s : List Char) : readFloat? (Text.trim s) = readFloat? s := by
  rw [readFloat?, normalizeDecimal_trim, readFloat?]

theorem readFloat?_of_separators (two : 2 ≤ separators s) : readFloat? s = none := by
  rw [← readFloat?_trim, Option.eq_none_iff_forall_ne_some]
  intro x read
  obtain ⟨-, m, text, -⟩ := readFloat?_eq_some_iff.mp read
  have one := text.separators_le
  rw [separators_normalizeDecimal] at one
  omega

/-- With a separator an integer is read as a decimal only. -/
theorem readInteger?_of_separators (some : 0 < separators s) :
    readInteger? s = (readFloat? s).bind integral? := by
  have notPlain : (Decimal.readInt? (Text.trim s)).filter fitsInt64 = none := by
    rw [Option.eq_none_iff_forall_ne_some]
    intro n plain
    have none := (readInt?_filter_eq_some_iff.mp plain).1.separators
    rw [separators_trim] at none
    omega
  simp only [readInteger?, notPlain, readFloat?_trim]

/-! ## Commas in place of points -/

theorem commasForPoints_of_no_point (none : '.' ∉ s) : commasForPoints s = s := by
  have fixed : ∀ c ∈ s, commaForPoint c = id c := by
    intro c mem
    refine if_neg ?_
    rintro rfl
    exact none mem
  rw [commasForPoints, List.map_congr_left fixed, List.map_id]

theorem isBlank_commaForPoint (c : Char) : Text.isBlank (commaForPoint c) = Text.isBlank c := by
  by_cases point : c = '.'
  · subst point
    decide
  · rw [commaForPoint, if_neg point]

theorem commaForPoint_eq_quote_iff (c q : Char) (quote : Text.isQuote q = true) :
    commaForPoint c = q ↔ c = q := by
  by_cases point : c = '.'
  · subst point
    rcases Text.isQuote_iff.mp quote with rfl | rfl <;> decide
  · rw [commaForPoint, if_neg point]

theorem trim_commasForPoints (s : List Char) :
    Text.trim (commasForPoints s) = commasForPoints (Text.trim s) :=
  Text.trim_map isBlank_commaForPoint s

/-- The one comma that stands for a point is turned back into it. -/
theorem normalizeDecimal_commasForPoints (noComma : ',' ∉ s) (one : separators s ≤ 1) :
    normalizeDecimal (commasForPoints s) = normalizeDecimal s := by
  have noCommaTrim : ',' ∉ Text.trim s := fun mem => noComma (Text.mem_of_mem_trim mem)
  rw [normalizeDecimal_of_no_comma noCommaTrim]
  by_cases point : '.' ∈ Text.trim s
  · obtain ⟨before, after, whole, noPointBefore⟩ := List.eq_append_cons_of_mem point
    have noPointAfter : '.' ∉ after := by
      intro mem
      have := List.count_pos_iff.mpr mem
      rw [← separators_trim, whole] at one
      simp only [separators, List.count_append, List.count_cons_self] at one
      omega
    have noCommaBefore : ',' ∉ before := fun mem =>
      noCommaTrim (whole ▸ List.mem_append_left _ mem)
    have turned : Text.trim (commasForPoints s) = before ++ ',' :: after := by
      rw [trim_commasForPoints, whole, commasForPoints, List.map_append, List.map_cons,
        ← commasForPoints, ← commasForPoints, commasForPoints_of_no_point noPointBefore,
        commasForPoints_of_no_point noPointAfter]
      rfl
    rw [normalizeDecimal, turned, Text.span_until noCommaBefore, whole]
    rfl
  · have same : Text.trim (commasForPoints s) = Text.trim s := by
      rw [trim_commasForPoints, commasForPoints_of_no_point point]
    rw [← normalizeDecimal_trim, same, normalizeDecimal_trim,
      normalizeDecimal_of_no_comma noCommaTrim]

theorem separators_commasForPoints (s : List Char) :
    separators (commasForPoints s) = separators s := by
  induction s with
  | nil => rfl
  | cons c s ih =>
    have same : separators [commaForPoint c] = separators [c] := by
      by_cases point : c = '.'
      · subst point
        rfl
      · rw [commaForPoint, if_neg point]
    rw [commasForPoints, List.map_cons, ← commasForPoints, ← List.singleton_append,
      separators_append, ih, same, ← separators_append, List.singleton_append]

theorem readFloat?_commasForPoints (noComma : ',' ∉ s) :
    readFloat? (commasForPoints s) = readFloat? s := by
  -- Where only the first comma would be turned back, both texts are refused.
  by_cases one : separators s ≤ 1
  · rw [readFloat?, normalizeDecimal_commasForPoints noComma one, readFloat?]
  · have two : 2 ≤ separators s := by omega
    rw [readFloat?_of_separators two,
      readFloat?_of_separators ((separators_commasForPoints s).symm ▸ two)]

theorem readInteger?_commasForPoints (noComma : ',' ∉ s) :
    readInteger? (commasForPoints s) = readInteger? s := by
  by_cases point : '.' ∈ s
  · have some : 0 < separators s :=
      Nat.lt_of_lt_of_le (List.count_pos_iff.mpr point) (Nat.le_add_right _ _)
    rw [readInteger?_of_separators some, readInteger?_of_separators
      ((separators_commasForPoints s).symm ▸ some), readFloat?_commasForPoints noComma]
  · rw [commasForPoints_of_no_point point]

/-! ## Readers of typed values -/

/-- A string with its points turned into commas. -/
def withCommas (raw : String) : String := String.ofList (commasForPoints raw.toList)

/-- Two texts have the same value, or each is refused in the same words, which quote it. -/
def ReadAlike (field : String) (fault : String → ValueFault)
    (read : String → Except IndexError Value) (raw other : String) : Prop :=
  ∃ value, read raw = orRefuse field fault raw value ∧ read other = orRefuse field fault other value

/-- The types of numbers, and what a text is refused for that writes none. -/
inductive RefusesAs : ValueType → (String → ValueFault) → Prop
  | integer : RefusesAs .integer .notInteger
  | float : RefusesAs .float .notNumber

variable {field raw : String} {type : ValueType} {fault : String → ValueFault}

theorem bareText_withCommas (raw : String) :
    bareText (withCommas raw) = commasForPoints (bareText raw) := by
  rw [bareText, withCommas, String.toList_ofList, trim_commasForPoints, bareText]
  exact Text.unquote_map commaForPoint_eq_quote_iff _

theorem not_mem_bareText (noComma : ',' ∉ raw.toList) : ',' ∉ bareText raw := fun mem =>
  noComma (Text.mem_of_mem_trim (Text.mem_of_mem_unquote mem))

theorem map_orRefuse {α β : Type} (f : α → β) (read : Option α) :
    (orRefuse field fault raw read).map f = orRefuse field fault raw (read.map f) := by
  cases read <;> rfl

theorem readAlike_ofText (noComma : ',' ∉ raw.toList) (refuses : RefusesAs type fault) :
    ReadAlike field fault (ofText field type) raw (withCommas raw) := by
  have inside := not_mem_bareText noComma
  cases refuses with
  | integer =>
    have read (r : String) : ofText field .integer r =
        orRefuse field .notInteger r ((readInteger? (bareText r)).map .integer) := by
      rw [ofText, integerOfText, map_orRefuse]
    refine ⟨_, read raw, ?_⟩
    rw [read, bareText_withCommas, readInteger?_commasForPoints inside]
  | float =>
    have read (r : String) : ofText field .float r =
        orRefuse field .notNumber r ((readFloat? (bareText r)).map .float) := by
      rw [ofText, floatOfText, map_orRefuse]
    refine ⟨_, read raw, ?_⟩
    rw [read, bareText_withCommas, readFloat?_commasForPoints inside]

/-- A string that should be a number is read as its text, also where the number may be missing. -/
theorem ofJson_string_of_refusesAs (refuses : RefusesAs type fault) (nullable : Bool) :
    ofJson field type (some (.string raw)) nullable = ofText field type raw := by
  have present : ofJson field type (some (.string raw)) nullable =
      ofJson field type (some (.string raw)) false := by
    cases refuses <;> simp [ofJson, isMissing]
  rw [present]
  exact ofJson_string (by cases refuses <;> decide)

/-- Points may be turned into commas without a difference to any reader of numbers, and a text with
two separators is no number. -/
theorem reads_withCommas (raw : String) :
    (',' ∉ raw.toList →
      readFloat? (withCommas raw).toList = readFloat? raw.toList ∧
      readInteger? (withCommas raw).toList = readInteger? raw.toList ∧
      ∀ type fault field nullable, RefusesAs type fault →
        ReadAlike field fault (ofText field type) raw (withCommas raw) ∧
        ReadAlike field fault (fun text => ofJson field type (some (.string text)) nullable)
          raw (withCommas raw)) ∧
    (2 ≤ separators raw.toList →
      readFloat? raw.toList = none ∧ readInteger? raw.toList = none) := by
  refine ⟨fun noComma => ?_, fun two => ?_⟩
  · rw [withCommas, String.toList_ofList]
    refine ⟨readFloat?_commasForPoints noComma, readInteger?_commasForPoints noComma, ?_⟩
    intro type fault field nullable refuses
    refine ⟨readAlike_ofText noComma refuses, ?_⟩
    simp only [ofJson_string_of_refusesAs refuses]
    exact readAlike_ofText noComma refuses
  · have none := readFloat?_of_separators two
    refine ⟨none, ?_⟩
    rw [readInteger?_of_separators (by omega), none, Option.bind_none]

theorem reads_withCommas_onePoint :
    (withCommas " '12.0' " = " '12,0' " ∧
      ReadAlike "orbitid" .notInteger (ofText "orbitid" .integer) " '12.0' " " '12,0' ") ∧
    2 ≤ separators "1.234,5".toList ∧ readFloat? "1.234,5".toList = none := by
  have noComma : ',' ∉ " '12.0' ".toList := by decide +kernel
  have turned : withCommas " '12.0' " = " '12,0' " := by decide +kernel
  have alike := ((reads_withCommas " '12.0' ").1 noComma).2.2 .integer .notInteger "orbitid" true
    .integer
  rw [turned] at alike
  have two : 2 ≤ separators "1.234,5".toList := by decide +kernel
  have refused := (reads_withCommas "1.234,5").2 two
  exact ⟨⟨turned, alike.1⟩, two, refused.1⟩

end Coercion

end SceneArchive
