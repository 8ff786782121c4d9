import SceneArchive.Decimal.Numeral

/-!
# Numbers of sixty-four binary digits

A number with more digits than a double has, in which a decimal is scaled step by step before it
is rounded to a double. Every step rounds to the nearest, a half to the even neighbour, so that
the double may differ in its last digit from the one nearest to the decimal.
-/

namespace SceneArchive.Decimal

/-- The number `significand * 2 ^ exponent`. -/
structure Extended where
  significand : Nat
  exponent : Int
  deriving DecidableEq, Repr

namespace Extended

/-- A number rounded to sixty-four digits. -/
def rounded (significand : Nat) (exponent : Int) : Extended :=
  let drop := Nat.log2 significand + 1 - 64
  ⟨Binary64.divRound significand (twoTo drop), exponent + drop⟩

/-- The quotient of two natural numbers, not zero, rounded to sixty-four digits. The dividend is
shifted up so far that the quotient has at least as many digits, and what is cut off behind them
is kept as one digit more. -/
def ofRatio (num den : Nat) : Extended :=
  let shift := 66 + Nat.log2 den - Nat.log2 num
  let scaled := num * twoTo shift
  let rest := if scaled % den = 0 then 0 else 1
  rounded (2 * (scaled / den) + rest) (-(shift : Int) - 1)

/-- A power of ten. -/
def tenTo (exponent : Int) : Extended :=
  if 0 ≤ exponent then ofRatio (SceneArchive.tenTo exponent.toNat) 1
  else ofRatio 1 (SceneArchive.tenTo (-exponent).toNat)

/-- A product. -/
def mul (a b : Extended) : Extended :=
  rounded (a.significand * b.significand) (a.exponent + b.exponent)

/-- A product with the same factor so many times. -/
def mulTimes (factor : Extended) (count : Nat) (x : Extended) : Extended :=
  (List.replicate count factor).foldl mul x

/-- A number scaled by a power of ten, by hundreds, tens and ones of its exponent. -/
def scale (x : Extended) (exponent : Int) : Extended :=
  let n := exponent.natAbs
  let step (places : Int) := tenTo (if exponent < 0 then -places else places)
  mulTimes (step 1) (n % 10) <| mulTimes (step 10) (n % 100 / 10) <| mulTimes (step 100) (n / 100) x

/-- Whether a number is greater than every finite double. -/
def isHuge (x : Extended) : Bool :=
  let greatest := (twoTo 53 - 1) * twoTo 971
  0 ≤ x.exponent && greatest < x.significand * twoTo x.exponent.toNat

/-- The double nearest to a number; what is beyond all finite doubles is infinite. -/
def toFloat (negative : Bool) (x : Extended) : Float :=
  if x.isHuge then Binary64.ofRatio negative (twoTo 1024) 1
  else if 0 ≤ x.exponent then
    Binary64.ofRatio negative (x.significand * twoTo x.exponent.toNat) 1
  else Binary64.ofRatio negative x.significand (twoTo (-x.exponent).toNat)

end Extended

/-- The leading digits of a number of whole digits as far as sixty-four bits hold them for certain,
and how many are left out. -/
def gatherWhole (n : Nat) : List Char → Nat × Nat
  | [] => (n, 0)
  | c :: rest =>
    if n < (twoTo 64 - 10) / 10 then gatherWhole (10 * n + (c.toNat - 48)) rest
    else (n, rest.length + 1)

/-- The digits of a fraction behind those gathered, and how many are taken up. -/
def gatherFraction (n taken : Nat) : List Char → Nat × Nat
  | [] => (n, taken)
  | c :: rest =>
    if n < (twoTo 64 - 10) / 10 then
      gatherFraction (10 * n + (c.toNat - 48)) (taken + 1) rest
    else gatherFraction n taken rest

/-- A coefficient and exponent of the same value with a smaller exponent, as far as sixty-four bits
hold the coefficient. -/
def spreadUp : Nat → Nat → Nat × Nat
  | n, 0 => (n, 0)
  | n, exponent + 1 =>
    if n < (twoTo 64 - 1) / 10 then spreadUp (10 * n) exponent else (n, exponent + 1)

/-- A coefficient and exponent of the same value without zeros at the end of the coefficient, where
the exponent is that of a fraction. -/
def spreadDown : Nat → Nat → Nat × Nat
  | n, 0 => (n, 0)
  | n, exponent + 1 => if n % 10 = 0 then spreadDown (n / 10) exponent else (n, exponent + 1)

/-- The double that a numeral gives when it is scaled in numbers of sixty-four digits. -/
def Numeral.toFloatByScaling (n : Numeral) : Float :=
  let (whole, dropped) := gatherWhole 0 n.whole
  let (coefficient, taken) := gatherFraction whole 0 n.fraction
  if coefficient = 0 then Binary64.ofRatio n.negative 0 1
  else
    let limited := max (-100000) (min 100000 n.exponent)
    let exponent : Int := limited + dropped - taken
    let (coefficient, places) :=
      if 0 ≤ exponent then spreadUp coefficient exponent.toNat
      else spreadDown coefficient exponent.natAbs
    if places = 0 then Binary64.ofRatio n.negative coefficient 1
    else
      let shift := if exponent < 0 then -(places : Int) else places
      ((Extended.rounded coefficient 0).scale shift).toFloat n.negative

end SceneArchive.Decimal
