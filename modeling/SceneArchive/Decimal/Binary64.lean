import SceneArchive.Decimal.Power

/-!
# Binary floating-point numbers as exact integers

A finite double is a whole multiple of `2 ^ (-1074)`. This module takes doubles apart by their
bits and gives each one its exact value in that unit (`scaled`), so that comparisons with
integers and with other doubles are comparisons in `Int`. It also holds the one rounding this
library needs, that of a quotient of natural numbers to the nearest double (`ofRatio`).

* `order` is the total order of IEEE 754: negative numbers before positive ones, `-0.0` before
  `0.0`, and the not-a-number value beyond the infinity of its sign.
-/

namespace SceneArchive.Binary64

/-- The sixty-four bits of a double as a number. -/
def bits (x : Float) : Nat := x.toBits.toNat

/-- True if the sign bit is set. -/
def isNegative (x : Float) : Bool := twoTo 63 ≤ bits x

/-- The eleven bits of the exponent field. -/
def exponentField (x : Float) : Nat := bits x / twoTo 52 % twoTo 11

/-- The fifty-two bits of the fraction field. -/
def fractionField (x : Float) : Nat := bits x % twoTo 52

/-- True for the infinities and the not-a-number value. -/
def isSpecial (x : Float) : Bool := exponentField x == 2047

/-- True for every number that is neither infinite nor not a number. -/
def isFinite (x : Float) : Bool := !isSpecial x

/-- True for the value that is not a number. -/
def isNaN (x : Float) : Bool := isSpecial x && fractionField x != 0

/-- The significand, with the leading bit that normal numbers leave out. -/
def significand (x : Float) : Nat :=
  if exponentField x = 0 then fractionField x else twoTo 52 + fractionField x

/-- How many binary places the significand stands above the unit `2 ^ (-1074)`. -/
def shift (x : Float) : Nat := exponentField x - 1

/-- The absolute value in units of `2 ^ (-1074)`. An infinity counts as the number that the
next exponent would give, beyond every finite one. -/
def magnitude (x : Float) : Nat := significand x * twoTo (shift x)

/-- How many units of `scaled` make one. -/
def unitsPerOne : Nat := twoTo 1074

/-- The exact value in units of `2 ^ (-1074)`. -/
def scaled (x : Float) : Int := if isNegative x then -(magnitude x : Int) else magnitude x

/-- The integer that a finite double is, if it is one. -/
def integer? (x : Float) : Option Int :=
  if isFinite x && magnitude x % unitsPerOne == 0 then
    let n := magnitude x / unitsPerOne
    some (if isNegative x then -(n : Int) else n)
  else none

/-- The key of the total order. -/
def order (x : Float) : Int :=
  if isNegative x then (twoTo 63 : Int) - 1 - bits x else bits x

/-- The quotient rounded to the nearest natural number, a half to the even one. -/
def divRound (num den : Nat) : Nat :=
  let q := num / den
  let r := num % den
  if 2 * r < den then q else if den < 2 * r then q + 1 else if q % 2 = 0 then q else q + 1

/-- The double with the given sign whose absolute value is nearest to `num / den`, a tie going
to the even significand. The significand is added to the exponent field, so that rounding up to
the next power of two carries into it; what is too large becomes infinite. -/
def ofRatio (negative : Bool) (num den : Nat) : Float :=
  let units := num * unitsPerOne
  let places := Nat.log2 (units / den) - 52
  let field := places * twoTo 52 + divRound units (den * twoTo places)
  let magnitudeBits := min field (2047 * twoTo 52)
  Float.ofBits (UInt64.ofNat (magnitudeBits + if negative then twoTo 63 else 0))

/-- The double nearest to an integer. -/
def ofInt (n : Int) : Float := ofRatio (n < 0) n.natAbs 1

/-- The double nearest to `coefficient * 10 ^ exponent`. Exponents far outside the range of
doubles are decided by the number of digits alone. -/
def ofDecimal (negative : Bool) (coefficient : Nat) (exponent : Int) : Float :=
  let top := (Nat.toDigits 10 coefficient).length + exponent
  if coefficient = 0 ∨ top < -400 then ofRatio negative 0 1
  else if 400 < top then ofRatio negative (twoTo 1024) 1
  else if 0 ≤ exponent then ofRatio negative (coefficient * tenTo exponent.toNat) 1
  else ofRatio negative coefficient (tenTo (-exponent).toNat)

/-- The stored form of a number: the two zeros are one. -/
def withoutNegativeZero (x : Float) : Float := if magnitude x = 0 then ofRatio false 0 1 else x

end SceneArchive.Binary64
