import SceneArchive.Text.Blank
import SceneArchive.Decimal.Numeral

/-!
# Calendar dates

Days of the Gregorian calendar, extended in both directions, with years of at most four digits.
A date is written `YYYY-MM-DD` and read in that form or as `YYYYMMDD`, each with an optional sign
before the year.

* `Date.text` pads a year to four places, its minus sign being one of them; so the years from
  -999 to -1 are written in a form that `Date.read?` refuses.
-/

namespace SceneArchive

/-- True for the years with a 29th of February. -/
def isLeapYear (year : Int) : Bool := year % 4 == 0 && (year % 100 != 0 || year % 400 == 0)

/-- The number of days of a month of a year; none for a number that is no month. -/
def daysInMonth (year : Int) (month : Nat) : Nat :=
  match month with
  | 2 => if isLeapYear year then 29 else 28
  | 4 | 6 | 9 | 11 => 30
  | 1 | 3 | 5 | 7 | 8 | 10 | 12 => 31
  | _ => 0

/-- What makes three numbers a day of the calendar. -/
def IsCalendarDay (year : Int) (month day : Nat) : Prop :=
  -9999 ≤ year ∧ year ≤ 9999 ∧ 1 ≤ day ∧ day ≤ daysInMonth year month

instance (year : Int) (month day : Nat) : Decidable (IsCalendarDay year month day) :=
  inferInstanceAs (Decidable (_ ∧ _))

/-- A day of the calendar. -/
structure Date where
  year : Int
  month : Nat
  day : Nat
  isDay : IsCalendarDay year month day
  deriving DecidableEq, Repr

namespace Date

/-- The day with the given numbers, if there is one. -/
def ofParts? (year : Int) (month day : Nat) : Option Date :=
  if h : IsCalendarDay year month day then some ⟨year, month, day, h⟩ else none

/-- Calendar order. -/
def Earlier (a b : Date) : Prop :=
  a.year < b.year ∨ a.year = b.year ∧ (a.month < b.month ∨ a.month = b.month ∧ a.day < b.day)

/-- The digits of a number behind as many zeros as bring it to a width. -/
def padded (width n : Nat) : List Char :=
  let digits := Nat.toDigits 10 n
  List.replicate (width - digits.length) '0' ++ digits

/-- A year in at least four places, of which a minus sign takes one. -/
def yearText (year : Int) : List Char :=
  if year < 0 then '-' :: padded 3 year.natAbs else padded 4 year.natAbs

/-- The written form. -/
def chars (d : Date) : List Char :=
  yearText d.year ++ '-' :: padded 2 d.month ++ '-' :: padded 2 d.day

/-- The written form as a string. -/
def text (d : Date) : String := String.ofList d.chars

/-- The month and day behind a year, with a hyphen before each or with none. -/
def readMonthDay? (year : Int) : List Char → Option Date
  | ['-', m1, m2, '-', d1, d2] | [m1, m2, d1, d2] => do
    ofParts? year (← Decimal.readDigits? [m1, m2]) (← Decimal.readDigits? [d1, d2])
  | _ => none

/-- A date: an optional sign, four digits of the year, and month and day. -/
def readChars? (s : List Char) : Option Date :=
  let (negative, unsigned) := Decimal.readSign s
  match unsigned with
  | y1 :: y2 :: y3 :: y4 :: rest => do
    let year ← Decimal.readDigits? [y1, y2, y3, y4]
    readMonthDay? (if negative then -(year : Int) else year) rest
  | _ => none

/-- The date that a text writes, blanks around it allowed. -/
def read? (s : String) : Option Date := readChars? (Text.trim s.toList)

end Date

end SceneArchive
