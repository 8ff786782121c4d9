import Mathlib.Data.List.Basic
import SceneArchive.Calendar
import SceneArchive.Proofs.Decimal.Numeral

/-!
# Reading written dates

Which dates can be read from the text that they are written as. The year is padded to four places
of which a minus sign takes one, so a year from -999 to -1 is written with three digits, and three
digits are no year.

* `readDigits?_padded`: a padded number is read back.
* `readChars?_chars`: a date is read back unless its year is from -999 to -1.
* `readChars?_chars_eq_none`: the text of a date of these years is refused.
-/

namespace SceneArchive

/-! ## Digits -/

namespace Decimal

theorem valueOfDigits_eq (ds : List Char) : valueOfDigits ds = Nat.ofDigitChars 10 ds 0 := by
  rw [Nat.ofDigitChars_eq_foldl]
  rfl

theorem readDigits?_of_isDigit {s : List Char} (nonempty : s ≠ []) (digits : ∀ c ∈ s, c.isDigit) :
    readDigits? s = some (valueOfDigits s) :=
  readDigits?_eq_some_iff.mpr ⟨nonempty, digits, rfl⟩

theorem readDigits?_eq_none {s : List Char} {c : Char} (mem : c ∈ s) (other : c.isDigit = false) :
    readDigits? s = none := by
  have notAll : s.all Char.isDigit = false :=
    List.all_eq_false.mpr ⟨c, mem, by simp [other]⟩
  simp [readDigits?, notAll]

theorem readSign_of_isDigit {c : Char} (h : c.isDigit) (rest : List Char) :
    readSign (c :: rest) = (false, c :: rest) := by
  refine readSign_append .none fun d hd => ?_
  cases hd
  exact ne_sign_of_isDigit h

end Decimal

namespace Date

theorem isDigit_of_mem_padded {width n : Nat} {c : Char} (h : c ∈ padded width n) : c.isDigit := by
  rcases List.mem_append.mp h with h | h
  · rw [List.eq_of_mem_replicate h]
    decide
  · exact Nat.isDigit_of_mem_toDigits (by decide) (by decide) h

theorem padded_ne_nil (width n : Nat) : padded width n ≠ [] :=
  List.append_ne_nil_of_right_ne_nil _ Nat.toDigits_ne_nil

theorem length_padded {width n : Nat} (positive : 0 < width) (h : n < tenTo width) :
    (padded width n).length = width := by
  have := (Nat.length_toDigits_le_iff (by decide) positive).mpr h
  simp only [padded, List.length_append, List.length_replicate]
  omega

theorem valueOfDigits_padded (width n : Nat) : Decimal.valueOfDigits (padded width n) = n := by
  rw [Decimal.valueOfDigits_eq, padded, Nat.ofDigitChars_append, Nat.ofDigitChars_replicate_zero,
    Nat.mul_zero, Nat.ofDigitChars_ten_toDigits]

theorem readDigits?_padded (width n : Nat) : Decimal.readDigits? (padded width n) = some n := by
  rw [Decimal.readDigits?_of_isDigit (padded_ne_nil width n) fun _ => isDigit_of_mem_padded,
    valueOfDigits_padded]

/-- A number of four digits needs no zeros, be the width three or four. -/
theorem padded_three_eq_four {n : Nat} (h : 1000 ≤ n) : padded 3 n = padded 4 n := by
  have long : ¬ (Nat.toDigits 10 n).length ≤ 3 := by
    rw [Nat.length_toDigits_le_iff (by decide) (by decide)]
    omega
  have three : 3 - (Nat.toDigits 10 n).length = 0 := by omega
  have four : 4 - (Nat.toDigits 10 n).length = 0 := by omega
  simp only [padded, three, four]

/-! ## Months and days -/

theorem daysInMonth_le (year : Int) (month : Nat) : daysInMonth year month ≤ 31 := by
  unfold daysInMonth
  split <;> (try split) <;> omega

theorem month_lt (d : Date) : d.month < 100 := by
  have one := d.isDay.2.2.1
  have most := d.isDay.2.2.2
  unfold daysInMonth at most
  split at most <;> omega

theorem day_lt (d : Date) : d.day < 100 := by
  have most := d.isDay.2.2.2
  have := daysInMonth_le d.year d.month
  omega

theorem ofParts?_self (d : Date) : ofParts? d.year d.month d.day = some d := by
  unfold ofParts?
  rw [dif_pos d.isDay]

theorem readMonthDay?_padded (year : Int) {month day : Nat} (hMonth : month < 100)
    (hDay : day < 100) :
    readMonthDay? year ('-' :: padded 2 month ++ '-' :: padded 2 day) =
      ofParts? year month day := by
  have readMonth := readDigits?_padded 2 month
  have readDay := readDigits?_padded 2 day
  obtain ⟨m1, m2, hm⟩ := List.length_eq_two.mp (length_padded (by decide) hMonth)
  obtain ⟨d1, d2, hd⟩ := List.length_eq_two.mp (length_padded (by decide) hDay)
  rw [hm] at readMonth ⊢
  rw [hd] at readDay ⊢
  simp [readMonthDay?, readMonth, readDay]

/-! ## Years -/

/-- Four digits behind the sign are the year. -/
theorem readChars?_of_readSign {s rest : List Char} {negative : Bool} {n : Nat} (h : n < 10000)
    (signed : Decimal.readSign s = (negative, padded 4 n ++ rest)) :
    readChars? s = readMonthDay? (if negative then -(n : Int) else n) rest := by
  have readYear := readDigits?_padded 4 n
  have four : (padded 4 n).length = 4 := length_padded (by decide) h
  generalize padded 4 n = digits at *
  match digits, four with
  | [y1, y2, y3, y4], _ =>
    simp [readChars?, signed, readYear]

theorem readSign_padded (width n : Nat) (rest : List Char) :
    Decimal.readSign (padded width n ++ rest) = (false, padded width n ++ rest) := by
  cases h : padded width n with
  | nil => exact absurd h (padded_ne_nil width n)
  | cons c digits =>
    have mem : c ∈ padded width n := by simp [h]
    exact Decimal.readSign_of_isDigit (isDigit_of_mem_padded mem) _

theorem readChars?_chars (d : Date) (h : d.year ≤ -1000 ∨ 0 ≤ d.year) :
    readChars? d.chars = some d := by
  have low := d.isDay.1
  have high := d.isDay.2.1
  have signed : Decimal.readSign d.chars =
      (decide (d.year < 0), padded 4 d.year.natAbs ++
        ('-' :: padded 2 d.month ++ '-' :: padded 2 d.day)) := by
    simp only [chars, yearText, List.append_assoc]
    rcases h with h | h
    · rw [if_pos (by omega), padded_three_eq_four (by omega), decide_eq_true (by omega)]
      rfl
    · rw [if_neg (by omega), decide_eq_false (by omega)]
      exact readSign_padded _ _ _
  rw [readChars?_of_readSign (by omega) signed, readMonthDay?_padded _ d.month_lt d.day_lt]
  have year : (if decide (d.year < 0) = true then -(d.year.natAbs : Int) else d.year.natAbs) =
      d.year := by
    rcases h with h | h
    · rw [if_pos (by simp; omega)]
      omega
    · rw [if_neg (by simp; omega)]
      omega
  rw [year, ofParts?_self]

/-- Where a fourth digit of the year should stand there is the hyphen before the month. -/
theorem readChars?_chars_eq_none (d : Date) (h : -999 ≤ d.year ∧ d.year ≤ -1) :
    readChars? d.chars = none := by
  have small : d.year.natAbs < 1000 := by omega
  have three : (padded 3 d.year.natAbs).length = 3 := length_padded (by decide) small
  obtain ⟨y1, y2, y3, hy⟩ := List.length_eq_three.mp three
  have refused : Decimal.readDigits? [y1, y2, y3, '-'] = none :=
    Decimal.readDigits?_eq_none (c := '-') (by simp) (by decide)
  simp only [chars, yearText]
  rw [if_pos (by omega), hy]
  simp [readChars?, Decimal.readSign, refused]

end Date

end SceneArchive
