import Mathlib.Algebra.Order.Group.Nat
import Mathlib.Data.String.Basic
import Mathlib.Tactic.Ring
import SceneArchive.Proofs.Calendar

/-!
# Dates in the order of their texts

Dates are stored and compared as text. The texts of two dates are in the order of the calendar as
long as one of the years at least has no minus sign. Behind two minus signs the greater number
stands for the earlier year but is the later text.

* `append_lt_append_iff`: among digits of one width the order of texts is that of the numbers.
* `chars_lt_iff_of_nonneg`, `chars_lt_iff_of_neg`, `chars_lt_iff_of_three_of_four`: how the texts of
  two dates are ordered, by the signs and the digits of their years.
* `text_faithful`: which dates are read back, and which pairs of dates are in order.
-/

namespace SceneArchive

/-! ## Digits -/

namespace Decimal

theorem valueOfDigits_cons (c : Char) (s : List Char) :
    valueOfDigits (c :: s) = 10 ^ s.length * (c.toNat - '0'.toNat) + valueOfDigits s := by
  rw [valueOfDigits_eq, valueOfDigits_eq, Nat.ofDigitChars_cons, Nat.mul_zero, Nat.zero_add,
    Nat.ofDigitChars_eq_ofDigitChars_zero]

theorem valueOfDigits_lt {s : List Char} (digits : ∀ c ∈ s, c.isDigit) :
    valueOfDigits s < 10 ^ s.length := by
  induction s with
  | nil => decide
  | cons c s ih =>
    have hc := Char.isDigit_iff_toNat.mp (digits c List.mem_cons_self)
    have hs := ih fun d hd => digits d (List.mem_cons_of_mem c hd)
    have small : c.toNat - '0'.toNat ≤ 9 := by
      have : '0'.toNat = 48 := rfl
      have : '9'.toNat = 57 := rfl
      omega
    have := Nat.mul_le_mul_left (10 ^ s.length) small
    rw [valueOfDigits_cons, List.length_cons, Nat.pow_succ]
    omega

theorem digit_lt_digit_iff {c d : Char} (hc : c.isDigit) (hd : d.isDigit) :
    c < d ↔ c.toNat - '0'.toNat < d.toNat - '0'.toNat := by
  have := (Char.isDigit_iff_toNat.mp hc).1
  have := (Char.isDigit_iff_toNat.mp hd).1
  rw [Char.lt_def, UInt32.lt_iff_toNat_lt, Char.toNat_val, Char.toNat_val]
  omega

/-- Texts that begin with digits, as many in one as in the other, are in the order of the numbers,
and behind equal numbers in the order of the rest. -/
theorem append_lt_append_iff {s t : List Char} (length : s.length = t.length)
    (hs : ∀ c ∈ s, c.isDigit) (ht : ∀ c ∈ t, c.isDigit) (u v : List Char) :
    s ++ u < t ++ v ↔
      valueOfDigits s < valueOfDigits t ∨ valueOfDigits s = valueOfDigits t ∧ u < v := by
  induction s generalizing t with
  | nil =>
    obtain rfl := List.length_eq_zero_iff.mp length.symm
    simp
  | cons c s ih =>
    obtain ⟨d, t, rfl⟩ := List.exists_cons_of_length_eq_add_one length.symm
    have sameLength : s.length = t.length := by simpa using length
    have restS : ∀ e ∈ s, e.isDigit := fun e he => hs e (List.mem_cons_of_mem c he)
    have restT : ∀ e ∈ t, e.isDigit := fun e he => ht e (List.mem_cons_of_mem d he)
    have hc := hs c List.mem_cons_self
    have hd := ht d List.mem_cons_self
    have boundS := valueOfDigits_lt restS
    have boundT := valueOfDigits_lt restT
    rw [List.cons_append, List.cons_append, List.cons_lt_cons_iff,
      ih sameLength restS restT, valueOfDigits_cons, valueOfDigits_cons, sameLength]
    rw [sameLength] at boundS
    rcases lt_trichotomy c d with less | rfl | greater
    · have := (digit_lt_digit_iff hc hd).mp less
      have := Nat.mul_le_mul_left (10 ^ t.length) (Nat.succ_le_of_lt this)
      rw [Nat.mul_succ] at this
      constructor
      · intro _
        exact .inl (by omega)
      · intro _
        exact .inl less
    · simp
    · have := (digit_lt_digit_iff hd hc).mp greater
      have := Nat.mul_le_mul_left (10 ^ t.length) (Nat.succ_le_of_lt this)
      rw [Nat.mul_succ] at this
      constructor
      · rintro (less | ⟨rfl, -⟩)
        · exact absurd less greater.asymm
        · exact absurd greater (lt_irrefl _)
      · rintro (less | ⟨same, -⟩) <;> omega

end Decimal

namespace Date

/-! ## Parts of a date -/

theorem padded_append_lt_iff (width : Nat) {m n : Nat} (positive : 0 < width) (hm : m < tenTo width)
    (hn : n < tenTo width) (u v : List Char) :
    padded width m ++ u < padded width n ++ v ↔ m < n ∨ m = n ∧ u < v := by
  have length : (padded width m).length = (padded width n).length := by
    rw [length_padded positive hm, length_padded positive hn]
  rw [Decimal.append_lt_append_iff length (fun _ => isDigit_of_mem_padded)
    (fun _ => isDigit_of_mem_padded), valueOfDigits_padded, valueOfDigits_padded]

/-- The text of a date behind its year. -/
def restChars (d : Date) : List Char := '-' :: padded 2 d.month ++ '-' :: padded 2 d.day

theorem chars_eq (d : Date) : d.chars = yearText d.year ++ d.restChars := by
  simp [chars, restChars]

theorem restChars_lt_iff (a b : Date) :
    a.restChars < b.restChars ↔ a.month < b.month ∨ a.month = b.month ∧ a.day < b.day := by
  have days : padded 2 a.day < padded 2 b.day ↔ a.day < b.day := by
    simpa using padded_append_lt_iff 2 (by decide) a.day_lt b.day_lt [] []
  simp only [restChars, List.cons_append, List.cons_lt_cons_iff, lt_irrefl, false_or, true_and]
  rw [padded_append_lt_iff 2 (by decide) a.month_lt b.month_lt]
  simp only [List.cons_lt_cons_iff, lt_irrefl, false_or, true_and, days]

/-! ## Years -/

theorem natAbs_year_lt (d : Date) : d.year.natAbs < 10000 := by
  have := d.isDay.1
  have := d.isDay.2.1
  omega

theorem hyphen_lt_digit {c : Char} (h : c.isDigit) : '-' < c := by
  have := (Char.isDigit_iff_toNat.mp h).1
  rw [Char.lt_def, UInt32.lt_iff_toNat_lt, Char.toNat_val, Char.toNat_val]
  exact Nat.lt_of_lt_of_le (by decide) this

theorem chars_of_neg {d : Date} (h : d.year < 0) :
    d.chars = '-' :: (padded 3 d.year.natAbs ++ d.restChars) := by
  rw [chars_eq, yearText, if_pos h, List.cons_append]

theorem chars_of_nonneg {d : Date} (h : 0 ≤ d.year) :
    d.chars = padded 4 d.year.natAbs ++ d.restChars := by
  rw [chars_eq, yearText, if_neg (by omega)]

variable {a b : Date}

theorem chars_lt_iff_of_nonneg (ha : 0 ≤ a.year) (hb : 0 ≤ b.year) :
    a.chars < b.chars ↔ a.Earlier b := by
  rw [chars_of_nonneg ha, chars_of_nonneg hb,
    padded_append_lt_iff 4 (by decide) a.natAbs_year_lt b.natAbs_year_lt, restChars_lt_iff, Earlier]
  omega

theorem chars_lt_of_neg_of_nonneg (ha : a.year < 0) (hb : 0 ≤ b.year) : a.chars < b.chars := by
  obtain ⟨c, digits, written⟩ := List.exists_cons_of_ne_nil (padded_ne_nil 4 b.year.natAbs)
  have digit : c.isDigit := isDigit_of_mem_padded (written ▸ List.mem_cons_self)
  rw [chars_of_neg ha, chars_of_nonneg hb, written]
  exact List.Lex.rel (hyphen_lt_digit digit)

/-- Behind two minus signs, and with as many digits in one year as in the other, the greater
number is the later text. -/
theorem chars_lt_iff_of_neg (width : Nat) (positive : 0 < width) (ha : a.year < 0)
    (hb : b.year < 0) (wa : a.year.natAbs < tenTo width) (wb : b.year.natAbs < tenTo width)
    (pa : padded 3 a.year.natAbs = padded width a.year.natAbs)
    (pb : padded 3 b.year.natAbs = padded width b.year.natAbs) :
    a.chars < b.chars ↔
      b.year < a.year ∨ a.year = b.year ∧
        (a.month < b.month ∨ a.month = b.month ∧ a.day < b.day) := by
  rw [chars_of_neg ha, chars_of_neg hb, pa, pb, List.cons_lt_cons_iff,
    padded_append_lt_iff width positive wa wb, restChars_lt_iff]
  simp only [lt_irrefl, false_or, true_and]
  omega

/-- Four digits are three digits, those of a tenth of the number, and one more. -/
theorem exists_padded_four {n : Nat} (h : n < 10000) :
    ∃ tens last, padded 4 n = tens ++ [last] ∧ tens.length = 3 ∧ (∀ c ∈ tens, c.isDigit) ∧
      last.isDigit ∧ Decimal.valueOfDigits tens = n / 10 := by
  have four : (padded 4 n).length = 4 := length_padded (by decide) h
  obtain empty | ⟨tens, last, split⟩ := List.eq_nil_or_concat' (padded 4 n)
  · exact absurd empty (padded_ne_nil 4 n)
  have digits : ∀ c ∈ tens ++ [last], c.isDigit := by
    rw [← split]
    exact fun _ => isDigit_of_mem_padded
  have digit : last.isDigit := digits last (by simp)
  have value : Decimal.valueOfDigits (tens ++ [last]) = n := by
    rw [← split, valueOfDigits_padded]
  have small := Decimal.valueOfDigits_lt (s := [last]) (by simpa using digit)
  rw [split, List.length_append] at four
  refine ⟨tens, last, split, by simpa using four, ?_, digit, ?_⟩
  · exact fun c hc => digits c (List.mem_append_left _ hc)
  · simp only [Decimal.valueOfDigits, List.foldl_append, List.foldl_cons, List.foldl_nil] at value
    simp only [Decimal.valueOfDigits, List.foldl_cons, List.foldl_nil] at small ⊢
    simp at small
    omega

/-- A year of three digits beside one of four: where the first three digits are the same, the
hyphen behind the third one comes before the fourth digit. -/
theorem chars_lt_iff_of_three_of_four (ha : a.year < 0) (hb : b.year < 0)
    (three : a.year.natAbs < 1000) (four : 1000 ≤ b.year.natAbs) :
    (a.chars < b.chars ↔ a.year.natAbs ≤ b.year.natAbs / 10) ∧
      (b.chars < a.chars ↔ b.year.natAbs / 10 < a.year.natAbs) := by
  obtain ⟨tens, last, split, length, digits, digit, value⟩ := exists_padded_four b.natAbs_year_lt
  have same : (padded 3 a.year.natAbs).length = tens.length := by
    rw [length_padded (by decide) three, length]
  have below : '-' < last := hyphen_lt_digit digit
  rw [chars_of_neg ha, chars_of_neg hb, padded_three_eq_four four, split, List.append_assoc,
    List.cons_lt_cons_iff, List.cons_lt_cons_iff,
    Decimal.append_lt_append_iff same (fun _ => isDigit_of_mem_padded) digits,
    Decimal.append_lt_append_iff same.symm digits (fun _ => isDigit_of_mem_padded),
    valueOfDigits_padded, value]
  simp only [restChars, List.cons_append, List.nil_append, List.cons_lt_cons_iff, lt_irrefl, below,
    below.not_gt, below.ne', true_or, and_true, false_and, or_false, true_and, false_or,
    and_false]
  omega

/-! ## All dates -/

/-- What the texts of two dates have to satisfy to be in the order of the calendar: not both years
have a minus sign, or the years are the same, or one of them has three digits and the other four,
of which the first three are a smaller number. -/
def OrderedAsTexts (a b : Date) : Prop :=
  0 ≤ a.year ∨ 0 ≤ b.year ∨ a.year = b.year ∨
    (a.year.natAbs < 1000 ∧ 1000 ≤ b.year.natAbs ∧ b.year.natAbs / 10 < a.year.natAbs) ∨
    (b.year.natAbs < 1000 ∧ 1000 ≤ a.year.natAbs ∧ a.year.natAbs / 10 < b.year.natAbs)

theorem orderedAsTexts_iff (a b : Date) :
    a.OrderedAsTexts b ↔ (a.chars < b.chars ↔ a.Earlier b) := by
  by_cases ha : 0 ≤ a.year
  · by_cases hb : 0 ≤ b.year
    · simp only [OrderedAsTexts, ha, true_or, chars_lt_iff_of_nonneg ha hb]
    · have notText : ¬ a.chars < b.chars := (chars_lt_of_neg_of_nonneg (by omega) ha).not_gt
      have notEarlier : ¬ a.Earlier b := by
        unfold Earlier
        omega
      simp only [OrderedAsTexts, ha, true_or, notText, notEarlier]
  by_cases hb : 0 ≤ b.year
  · have text : a.chars < b.chars := chars_lt_of_neg_of_nonneg (by omega) hb
    have earlier : a.Earlier b := .inl (by omega)
    simp only [OrderedAsTexts, hb, true_or, or_true, text, earlier]
  have negA : a.year < 0 := by omega
  have negB : b.year < 0 := by omega
  by_cases three : a.year.natAbs < 1000
  · by_cases three' : b.year.natAbs < 1000
    · rw [chars_lt_iff_of_neg 3 (by decide) negA negB three three' rfl rfl]
      unfold OrderedAsTexts Earlier
      omega
    · rw [(chars_lt_iff_of_three_of_four negA negB three (by omega)).1]
      unfold OrderedAsTexts Earlier
      omega
  · have four := padded_three_eq_four (n := a.year.natAbs) (by omega)
    by_cases three' : b.year.natAbs < 1000
    · rw [(chars_lt_iff_of_three_of_four negB negA three' (by omega)).2]
      unfold OrderedAsTexts Earlier
      omega
    · have four' := padded_three_eq_four (n := b.year.natAbs) (by omega)
      rw [chars_lt_iff_of_neg 4 (by decide) negA negB a.natAbs_year_lt b.natAbs_year_lt
        four four']
      unfold OrderedAsTexts Earlier
      omega

/-! ## Reading -/

theorem isBlank_of_isDigit {c : Char} (h : c.isDigit) : Text.isBlank c = false := by
  have low : 48 ≤ c.toNat := (Char.isDigit_iff_toNat.mp h).1
  have high : c.toNat ≤ 57 := (Char.isDigit_iff_toNat.mp h).2
  simp only [Text.isBlank, Bool.or_eq_false_iff, Bool.and_eq_false_iff, beq_eq_false_iff_ne,
    decide_eq_false_iff_not]
  omega

/-- Digits and hyphens are left alone by trimming. -/
theorem read?_ofList {s : List Char} (h : ∀ c ∈ s, c = '-' ∨ c.isDigit) :
    read? (String.ofList s) = readChars? s := by
  have visible : ∀ c ∈ s, Text.isBlank c = false := by
    intro c hc
    rcases h c hc with rfl | digit
    · decide
    · exact isBlank_of_isDigit digit
  rw [read?, String.toList_ofList, Text.trim_of_isBlank_eq_false
    (fun c hc => visible c (List.mem_of_mem_head? hc))
    (fun c hc => visible c (List.mem_of_mem_getLast? hc))]

theorem hyphen_or_isDigit_of_mem_restChars {d : Date} {c : Char} (h : c ∈ d.restChars) :
    c = '-' ∨ c.isDigit := by
  simp only [restChars, List.cons_append, List.mem_cons, List.mem_append] at h
  rcases h with rfl | month | rfl | day
  · exact .inl rfl
  · exact .inr (isDigit_of_mem_padded month)
  · exact .inl rfl
  · exact .inr (isDigit_of_mem_padded day)

theorem read?_text (d : Date) : read? d.text = readChars? d.chars := by
  apply read?_ofList
  intro c hc
  rw [chars_eq, yearText, List.mem_append] at hc
  rcases hc with year | rest
  · split at year
    · rcases List.mem_cons.mp year with rfl | digit
      · exact .inl rfl
      · exact .inr (isDigit_of_mem_padded digit)
    · exact .inr (isDigit_of_mem_padded year)
  · exact hyphen_or_isDigit_of_mem_restChars rest

/-- Every date can be read: a text with four digits of the year behind its sign gives it. -/
theorem exists_read? (d : Date) : ∃ s, read? s = some d := by
  have reads {s : List Char} (negative : Bool)
      (signed : Decimal.readSign s = (negative, padded 4 d.year.natAbs ++ d.restChars))
      (year : (if negative then -(d.year.natAbs : Int) else d.year.natAbs) = d.year) :
      readChars? s = some d := by
    rw [readChars?_of_readSign d.natAbs_year_lt signed, year, restChars,
      readMonthDay?_padded _ d.month_lt d.day_lt, ofParts?_self]
  have plain : ∀ c ∈ padded 4 d.year.natAbs ++ d.restChars, c = '-' ∨ c.isDigit := by
    intro c hc
    rcases List.mem_append.mp hc with year | rest
    · exact .inr (isDigit_of_mem_padded year)
    · exact hyphen_or_isDigit_of_mem_restChars rest
  by_cases negative : d.year < 0
  · refine ⟨String.ofList ('-' :: (padded 4 d.year.natAbs ++ d.restChars)), ?_⟩
    rw [read?_ofList (List.forall_mem_cons.mpr ⟨.inl rfl, plain⟩)]
    have year : (if true then -(d.year.natAbs : Int) else d.year.natAbs) = d.year := by
      rw [if_pos rfl]
      omega
    exact reads true rfl year
  · refine ⟨String.ofList (padded 4 d.year.natAbs ++ d.restChars), ?_⟩
    rw [read?_ofList plain]
    have year : (if false then -(d.year.natAbs : Int) else d.year.natAbs) = d.year := by
      rw [if_neg (by decide)]
      omega
    exact reads false (readSign_padded 4 d.year.natAbs d.restChars) year

/-- A date is read back from its text unless its year is from -999 to -1, and two dates are in the
order of their texts exactly if they are `OrderedAsTexts`. -/
theorem text_faithful (d a b : Date) :
    (∃ s, read? s = some d) ∧
      (read? d.text = some d ↔ ¬ (-999 ≤ d.year ∧ d.year ≤ -1)) ∧
      ((a.text < b.text ↔ a.Earlier b) ↔ a.OrderedAsTexts b) := by
  refine ⟨exists_read? d, ?_, ?_⟩
  · rw [read?_text]
    by_cases unread : -999 ≤ d.year ∧ d.year ≤ -1
    · simp [readChars?_chars_eq_none d unread, unread]
    · simp [readChars?_chars d (by omega), unread]
  · rw [orderedAsTexts_iff, String.lt_iff_toList_lt, text, text, String.toList_ofList,
      String.toList_ofList]

/-- The year -2000 is earlier than the year -1000 but its text is later; the year -1 is not read
back. -/
theorem not_text_faithful_signedYears :
    ∃ a b c : Date, read? "-2000-01-01" = some a ∧ read? "-1000-01-01" = some b ∧
      a.Earlier b ∧ ¬ a.text < b.text ∧
      read? "-0001-01-01" = some c ∧ read? c.text = none := by
  refine ⟨⟨-2000, 1, 1, by decide⟩, ⟨-1000, 1, 1, by decide⟩, ⟨-1, 1, 1, by decide⟩, ?_⟩
  refine ⟨by decide +kernel, by decide +kernel, .inl (by decide), by decide +kernel, ?_⟩
  exact ⟨by decide +kernel, by decide +kernel⟩

end Date

end SceneArchive
