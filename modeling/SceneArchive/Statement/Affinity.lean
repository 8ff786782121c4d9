import SceneArchive.Decimal.Significant
import SceneArchive.Decimal.Extended
import SceneArchive.Statement.Cell

/-!
# Comparing with a column

A value that is compared with a column first takes the form of the column. Numbers become text
beside a column of text; a text beside a column of numbers becomes the number that it writes, if it
writes one, and stays a text otherwise.
-/

namespace SceneArchive.Statement

/-- The blanks that may stand around the text of a number. -/
def isNumberBlank (c : Char) : Bool := c == ' ' || (0x9 ≤ c.toNat && c.toNat ≤ 0xD)

/-- A text without the blanks that may stand around a number. -/
def trimNumber (s : List Char) : List Char :=
  ((s.dropWhile isNumberBlank).reverse.dropWhile isNumberBlank).reverse

/-- The number that a text writes: an integer where it has neither point nor exponent and fits
sixty-four bits, a double otherwise. -/
def numberOfText? (s : String) : Option Cell :=
  let s := trimNumber s.toList
  match (Decimal.readInt? s).filter fitsInt64 with
  | some n => some (.integer n)
  | none => (Decimal.Numeral.read? s).map fun n => .real n.toFloatByScaling

/-- The text of a double, by fifteen significant digits. -/
def realText (x : Float) : String :=
  if Binary64.isSpecial x then (if Binary64.isNegative x then "-Inf" else "Inf")
  else Decimal.significantText 15 x

/-- A cell as it is compared with a column of a type. -/
def Cell.beside (type : ValueType) (c : Cell) : Cell :=
  if type.isNumeric then
    match c with
    | text s => (numberOfText? s).getD c
    | c => c
  else
    match c with
    | integer n => text (toString n)
    | real x => text (realText x)
    | c => c

end SceneArchive.Statement
