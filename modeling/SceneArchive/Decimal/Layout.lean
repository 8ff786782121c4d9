import SceneArchive.Decimal.Shortest

/-!
# Layouts of floating-point text

The same shortest digits are written in several ways. A `Layout` states one of them; the named
layouts are those of the formats this library writes.
-/

namespace SceneArchive.Decimal

/-- How the digits of a floating-point number are set. -/
structure Layout where
  /-- The positions of the point that are written without an exponent; `none` means all. -/
  window : Option (Int × Int)
  /-- Whether a number without fraction ends in `.0` when it has no exponent. -/
  keepsFraction : Bool
  /-- Whether an exponent that is not negative has a plus sign. -/
  plusSign : Bool
  /-- The rule for two equally near shortest decimals. -/
  tie : Tie

namespace Layout

/-- Numbers in JSON, in CSV and in decoding errors. -/
def json : Layout := ⟨some (-4, 16), true, true, .toEven⟩

/-- Numbers in YAML. -/
def yaml : Layout := ⟨some (-4, 16), true, false, .toEven⟩

/-- Numbers in TOML. -/
def point : Layout := ⟨none, true, false, .up⟩

/-- Numbers in messages and reports. -/
def plain : Layout := ⟨none, false, false, .up⟩

end Layout

/-- The digits before and after the point, without exponent. -/
def positional (keepsFraction : Bool) (d : Digits) : String :=
  let count := d.digits.length
  if d.point ≤ 0 then
    "0." ++ String.ofList (List.replicate (-d.point).toNat '0' ++ d.digits)
  else
    let whole := d.point.toNat
    if count ≤ whole then
      String.ofList (d.digits ++ List.replicate (whole - count) '0') ++
        (if keepsFraction then ".0" else "")
    else
      String.ofList (d.digits.take whole) ++ "." ++ String.ofList (d.digits.drop whole)

/-- One digit before the point, the others behind it, and the exponent. -/
def scientific (plusSign : Bool) (d : Digits) : String :=
  let mantissa := match d.digits with
    | [] => "0"
    | [c] => String.singleton c
    | c :: rest => String.singleton c ++ "." ++ String.ofList rest
  let exponent := d.point - 1
  mantissa ++ "e" ++ (if plusSign && 0 ≤ exponent then "+" else "") ++ toString exponent

/-- The text of the absolute value of a finite double. -/
def Layout.magnitude (l : Layout) (x : Float) : String :=
  if Binary64.magnitude x = 0 then (if l.keepsFraction then "0.0" else "0")
  else
    let d := shortest x l.tie
    match l.window with
    | none => positional l.keepsFraction d
    | some (least, greatest) =>
      if least ≤ d.point ∧ d.point ≤ greatest then positional l.keepsFraction d
      else scientific l.plusSign d

/-- The text of a double. -/
def Layout.text (l : Layout) (x : Float) : String :=
  if Binary64.isNaN x then "NaN"
  else
    let sign := if Binary64.isNegative x then "-" else ""
    if Binary64.isSpecial x then sign ++ "inf" else sign ++ l.magnitude x

end SceneArchive.Decimal
