import SceneArchive.Decimal.Layout

/-!
# Significant digits

Doubles by a fixed number of significant decimal digits, a half going up.
-/

namespace SceneArchive.Decimal

/-- The decimal of at most `count` digits that is nearest to the absolute value of a finite nonzero
double. -/
def significant (count : Nat) (x : Float) : Digits :=
  let value := Binary64.magnitude x
  let exponent := pointOf value Binary64.unitsPerOne - count
  let grid := Grid.ofExponent exponent
  let step := Binary64.unitsPerOne * grid.up
  Digits.ofNat ((2 * value * grid.down + step) / (2 * step)) exponent

/-- The text of an exponent: its sign and at least two digits. -/
def signedExponent (exponent : Int) : String :=
  let digits := toString exponent.natAbs
  (if exponent < 0 then "-" else "+") ++ (if digits.length < 2 then "0" else "") ++ digits

/-- The text of a finite double by `count` significant digits. There is at least one digit behind
the point; numbers below 0.0001 and those of more than `count` digits have an exponent. -/
def significantText (count : Nat) (x : Float) : String :=
  if Binary64.magnitude x = 0 then "0.0"
  else
    let d := significant count x
    let text :=
      if -4 < d.point ∧ d.point ≤ count then positional true d
      else
        positional true { d with point := 1 } ++ "e" ++ signedExponent (d.point - 1)
    if Binary64.isNegative x then "-" ++ text else text

end SceneArchive.Decimal
