import SceneArchive.Decimal.Binary64

/-!
# Shortest decimals

Among the decimals that read back as a given double, the ones with the fewest digits, and of
those the nearest. The interval of the reals that round to a double with significand `m` and
unit `2 ^ s` reaches half a unit to either side (a quarter below a power of two) and holds its
ends when `m` is even. For one, two, ... seventeen digits the two neighbours of the value on
that decimal grid are tried; the first grid with a neighbour in the interval wins.
-/

namespace SceneArchive.Decimal

/-- The decimal `0.d₁d₂… * 10 ^ point`, with no zero at the end of the digits. -/
structure Digits where
  digits : List Char
  point : Int
  deriving DecidableEq, Repr

/-- Which of two equally near decimals is taken. -/
inductive Tie where
  /-- The one whose last digit is even. -/
  | toEven
  /-- The larger one. -/
  | up
  deriving DecidableEq, Repr

/-- The reals that round to one double, all times `4 * 2 ^ 1074`. -/
structure Interval where
  low : Nat
  value : Nat
  high : Nat
  /-- Whether the two ends belong to the interval. -/
  closed : Bool

/-- The interval of a finite positive double. -/
def Interval.ofFloat (x : Float) : Interval :=
  let m := Binary64.significand x
  let s := Binary64.shift x
  let below := if m = twoTo 52 ∧ 0 < s then 1 else 2
  { low := (4 * m - below) * twoTo s
    value := 4 * m * twoTo s
    high := (4 * m + 2) * twoTo s
    closed := m % 2 == 0 }

/-- The denominator of the numbers of an interval. -/
def Interval.denominator : Nat := 4 * Binary64.unitsPerOne

/-- The number of decimal digits, none for zero. -/
def digitCount (n : Nat) : Nat := if n = 0 then 0 else (Nat.toDigits 10 n).length

/-- The `p` with `10 ^ (p - 1) ≤ num / den < 10 ^ p`. -/
def pointOf (num den : Nat) : Int :=
  if den ≤ num then digitCount (num / den) else 1 - digitCount ((den + num - 1) / num - 1)

/-- A grid of decimals `d * up / down`, one of the two factors being one. -/
structure Grid where
  up : Nat
  down : Nat

/-- The grid of the multiples of `10 ^ exponent`. -/
def Grid.ofExponent (exponent : Int) : Grid :=
  if 0 ≤ exponent then ⟨tenTo exponent.toNat, 1⟩ else ⟨1, tenTo (-exponent).toNat⟩

namespace Interval

/-- Whether the grid point `d` lies in the interval. -/
def contains (i : Interval) (g : Grid) (d : Nat) : Bool :=
  let point := d * g.up * denominator
  if i.closed then i.low * g.down ≤ point && point ≤ i.high * g.down
  else i.low * g.down < point && point < i.high * g.down

/-- The grid point nearest to the value, if one of the value's two neighbours on the grid lies in
the interval. -/
def nearest? (i : Interval) (g : Grid) (tie : Tie) : Option Nat :=
  let step := g.up * denominator
  let d := i.value * g.down / step
  let rest := i.value * g.down % step
  let upper :=
    if 2 * rest < step then false
    else if step < 2 * rest then true
    else match tie with
      | .toEven => d % 2 == 1
      | .up => true
  match i.contains g d, i.contains g (d + 1) with
  | true, true => some (if upper then d + 1 else d)
  | true, false => some d
  | false, true => some (d + 1)
  | false, false => none

/-- The first grid, from `count` digits on, that has a point in the interval; `more` bounds the
number of grids tried. -/
def search (i : Interval) (tie : Tie) (point : Int) : Nat → Nat → Nat × Int
  | count, 0 => (i.value / denominator, count)
  | count, more + 1 =>
    let exponent := point - count
    match i.nearest? (Grid.ofExponent exponent) tie with
    | some d => (d, exponent)
    | none => search i tie point (count + 1) more

end Interval

/-- A decimal by coefficient and exponent, without zeros at the end. -/
def Digits.ofNat (coefficient : Nat) (exponent : Int) : Digits :=
  let all := Nat.toDigits 10 coefficient
  { digits := (all.reverse.dropWhile (· == '0')).reverse, point := all.length + exponent }

/-- The shortest decimal that reads back as the finite nonzero double `x`, its sign left out. -/
def shortest (x : Float) (tie : Tie) : Digits :=
  let i := Interval.ofFloat x
  let point := pointOf i.value Interval.denominator
  let (d, exponent) := i.search tie point 1 17
  Digits.ofNat d exponent

end SceneArchive.Decimal
