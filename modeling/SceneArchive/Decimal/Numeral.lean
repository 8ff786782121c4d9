import SceneArchive.Decimal.Binary64

/-!
# Decimal numerals

A numeral is a sign, digits before and after a point, and an exponent. This module reads
integer and floating-point numerals, and gives the exact coefficient and exponent of what it
read.

* `Numeral.read?` accepts `[+-] digits [. digits] [e [+-] digits]` with at least one digit
  beside the point; in every part only the ten ASCII digits count.
-/

namespace SceneArchive.Decimal

/-- The number that a string of ASCII digits writes. -/
def valueOfDigits (ds : List Char) : Nat := ds.foldl (fun n c => 10 * n + (c.toNat - 48)) 0

/-- An optional sign: whether it is a minus, and the rest. -/
def readSign : List Char → Bool × List Char
  | '-' :: rest => (true, rest)
  | '+' :: rest => (false, rest)
  | s => (false, s)

/-- A nonempty text of ASCII digits and nothing else, as a number. -/
def readDigits? (s : List Char) : Option Nat :=
  if !s.isEmpty && s.all Char.isDigit then some (valueOfDigits s) else none

/-- An integer numeral: an optional sign and digits. -/
def readInt? (s : List Char) : Option Int :=
  let (negative, rest) := readSign s
  (readDigits? rest).map fun n => if negative then -(n : Int) else n

/-- The parts of a decimal numeral. -/
structure Numeral where
  negative : Bool
  whole : List Char
  fraction : List Char
  exponent : Int
  deriving DecidableEq, Repr

namespace Numeral

/-- What follows the digits: nothing, or `e` and an integer. -/
def readExponent? : List Char → Option Int
  | [] => some 0
  | c :: rest => if c == 'e' || c == 'E' then readInt? rest else none

/-- A fraction behind a point, if there is a point, and the rest. -/
def readFraction : List Char → List Char × List Char
  | '.' :: rest => rest.span Char.isDigit
  | s => ([], s)

/-- A decimal numeral. -/
def read? (s : List Char) : Option Numeral := do
  let (negative, unsigned) := readSign s
  let (whole, afterWhole) := unsigned.span Char.isDigit
  let (fraction, afterFraction) := readFraction afterWhole
  if whole.isEmpty && fraction.isEmpty then none
  else
    let exponent ← readExponent? afterFraction
    some { negative, whole, fraction, exponent }

/-- The digits of a numeral as one number. -/
def coefficient (n : Numeral) : Nat := valueOfDigits (n.whole ++ n.fraction)

/-- The power of ten that the coefficient is to be multiplied with. -/
def scale (n : Numeral) : Int := n.exponent - n.fraction.length

/-- The double nearest to a numeral. -/
def toFloat (n : Numeral) : Float := Binary64.ofDecimal n.negative n.coefficient n.scale

end Numeral

/-- The words for infinity and not-a-number, in any case, behind an optional sign. -/
def readSpecial? (s : List Char) : Option Float :=
  let (negative, word) := readSign s
  let word := String.ofList (word.map Char.toLower)
  if word == "inf" || word == "infinity" then
    some (Binary64.ofRatio negative (twoTo 1024) 1)
  else if word == "nan" then some (Float.ofBits 0x7ff8000000000000)
  else none

/-- The double that a text writes, special values among them. -/
def readFloat? (s : List Char) : Option Float :=
  (Numeral.read? s).map Numeral.toFloat <|> readSpecial? s

end SceneArchive.Decimal
