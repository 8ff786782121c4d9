import SceneArchive.Json.Basic
import SceneArchive.Decimal.Numeral

/-!
# Reading JSON

A reader of one JSON text. Integers of up to sixty-four bits stay integers, signed or unsigned;
every other number becomes a double. Of a repeated name in an object the last value stays. Trees
are nested at most 127 levels deep.

A number with fraction, exponent or too many digits is read by its leading digits, as many as fit
sixty-four bits, and one power of ten: the digits are rounded to a double, which is multiplied
with the power or divided by it.
-/

namespace SceneArchive.Json

/-- The text after its leading JSON blanks. -/
def skipBlanks (s : List Char) : List Char :=
  s.dropWhile fun c => c == ' ' || c == '\n' || c == '\t' || c == '\r'

/-- The value of a hexadecimal digit. -/
def hexValue? (c : Char) : Option Nat :=
  if c.isDigit then some (c.toNat - 48)
  else if 'a' ≤ c ∧ c ≤ 'f' then some (c.toNat - 87)
  else if 'A' ≤ c ∧ c ≤ 'F' then some (c.toNat - 55)
  else none

/-- The number of four hexadecimal digits. -/
def hexQuad? (a b c d : Char) : Option Nat := do
  some (((← hexValue? a) * 16 + (← hexValue? b)) * 256 + (← hexValue? c) * 16 + (← hexValue? d))

/-- The character of an escape of one letter. -/
def escaped? (c : Char) : Option Char :=
  match c with
  | '"' => some '"'
  | '\\' => some '\\'
  | '/' => some '/'
  | 'b' => some '\x08'
  | 'f' => some '\x0c'
  | 'n' => some '\n'
  | 'r' => some '\r'
  | 't' => some '\t'
  | _ => none

/-- True for the first half of a pair of code units. -/
def isHighHalf (n : Nat) : Bool := 0xD800 ≤ n && n < 0xDC00

/-- True for the second half of a pair of code units. -/
def isLowHalf (n : Nat) : Bool := 0xDC00 ≤ n && n < 0xE000

/-- The characters of a string up to its closing quote, the first of them last, and what follows
the quote. -/
def readString (read : List Char) : List Char → Option (String × List Char)
  | '"' :: rest => some (String.ofList read.reverse, rest)
  | '\\' :: 'u' :: a :: b :: c :: d :: '\\' :: 'u' :: e :: f :: g :: h :: rest =>
    match hexQuad? a b c d with
    | none => none
    | some high =>
      if isHighHalf high then
        match hexQuad? e f g h with
        | none => none
        | some low =>
          if isLowHalf low then
            readString
              (Char.ofNat (0x10000 + (high - 0xD800) * 0x400 + (low - 0xDC00)) :: read) rest
          else none
      else if isLowHalf high then none
      else readString (Char.ofNat high :: read) ('\\' :: 'u' :: e :: f :: g :: h :: rest)
  | '\\' :: 'u' :: a :: b :: c :: d :: rest =>
    match hexQuad? a b c d with
    | none => none
    | some n =>
      if isHighHalf n || isLowHalf n then none else readString (Char.ofNat n :: read) rest
  | '\\' :: c :: rest =>
    match escaped? c with
    | some e => readString (e :: read) rest
    | none => none
  | c :: rest => if c.toNat < 0x20 || c == '\\' then none else readString (c :: read) rest
  | [] => none
termination_by s => s.length

/-- The leading digits that fit sixty-four bits, behind those of `start`, and the others. -/
def leadingDigits (start : Nat) : List Char → Nat × List Char
  | [] => (start, [])
  | c :: rest =>
    let next := 10 * start + (c.toNat - 48)
    if next < twoTo 64 then leadingDigits next rest else (start, c :: rest)

/-- The double of a coefficient and a power of ten; `none` if it is too large. -/
def scaleDecimal? (coefficient : Nat) (exponent : Int) : Option Float :=
  let start := Binary64.ofRatio false coefficient 1
  let power (n : Nat) := Binary64.ofRatio false (tenTo n) 1
  if 308 < exponent then
    if coefficient = 0 then some start else none
  else if 0 ≤ exponent then
    let x := start * power exponent.toNat
    if Binary64.isFinite x then some x else none
  else if -308 ≤ exponent then some (start / power (-exponent).toNat)
  else if -616 ≤ exponent then some (start / power 308 / power (-exponent - 308).toNat)
  else some (Binary64.ofRatio false 0 1)

/-- The number of a literal that has a fraction or an exponent, or more digits than an integer
has. -/
def floatLiteral? (n : Decimal.Numeral) : Option Number := do
  let (whole, droppedWhole) := leadingDigits 0 n.whole
  let (coefficient, droppedFraction) := leadingDigits whole n.fraction
  let exponent := n.exponent + droppedWhole.length - (n.fraction.length - droppedFraction.length)
  let x ← scaleDecimal? coefficient exponent
  some (.float (if n.negative then -x else x))

/-- The number of a literal of digits alone. -/
def intLiteral? (negative : Bool) (digits : List Char) : Option Number :=
  let n := Decimal.valueOfDigits digits
  if negative then
    if n = 0 then some (.float (-0.0))
    else if n ≤ twoTo 63 then some (.int (-(n : Int)))
    else floatLiteral? ⟨true, digits, [], 0⟩
  else if n < twoTo 64 then some (.int n)
  else floatLiteral? ⟨false, digits, [], 0⟩

/-- The exponent of a number, if there is one, and the rest. -/
def readExponent? (s : List Char) : Option (Option Int × List Char) :=
  match s with
  | c :: rest =>
    if c == 'e' || c == 'E' then
      let (negative, unsigned) := Decimal.readSign rest
      let (digits, after) := unsigned.span Char.isDigit
      if digits.isEmpty then none
      else
        let n : Int := Decimal.valueOfDigits digits
        some (some (if negative then -n else n), after)
    else some (none, s)
  | [] => some (none, [])

/-- A number and what follows it. -/
def readNumber? (s : List Char) : Option (Number × List Char) := do
  let (negative, unsigned) := match s with
    | '-' :: rest => (true, rest)
    | s => (false, s)
  let (whole, afterWhole) := unsigned.span Char.isDigit
  if whole.isEmpty || (whole.length != 1 && whole.head? == some '0') then none
  else
    let (fraction, afterFraction) ← match afterWhole with
      | '.' :: rest =>
        let (fraction, after) := rest.span Char.isDigit
        if fraction.isEmpty then none else some (some fraction, after)
      | rest => some (none, rest)
    let (exponent, after) ← readExponent? afterFraction
    if fraction.isNone && exponent.isNone then
      some (← intLiteral? negative whole, after)
    else
      some (← floatLiteral? ⟨negative, whole, fraction.getD [], exponent.getD 0⟩, after)

/-- The value of a word, if the text begins with one. -/
def readWord? (s : List Char) : Option (Json × List Char) :=
  match s with
  | 'n' :: 'u' :: 'l' :: 'l' :: rest => some (.null, rest)
  | 't' :: 'r' :: 'u' :: 'e' :: rest => some (.bool true, rest)
  | 'f' :: 'a' :: 'l' :: 's' :: 'e' :: rest => some (.bool false, rest)
  | _ => none

mutual

/-- A value and what follows it, in at most `fuel` steps and `depth` more levels. -/
def readValue : Nat → Nat → List Char → Option (Json × List Char)
  | 0, _, _ => none
  | fuel + 1, depth, s =>
    match skipBlanks s with
    | '"' :: rest => do
      let (text, after) ← readString [] rest
      some (.string text, after)
    | '[' :: rest =>
      match depth with
      | 0 => none
      | depth + 1 =>
        match skipBlanks rest with
        | ']' :: after => some (.array [], after)
        | items => readItems fuel depth [] items
    | '\x7b' :: rest =>
      match depth with
      | 0 => none
      | depth + 1 =>
        match skipBlanks rest with
        | '\x7d' :: after => some (.object [], after)
        | fields => readFields fuel depth [] fields
    | s => readWord? s <|> (readNumber? s).map fun (n, after) => (.number n, after)

/-- The items of an array behind those already read, the last of them first. -/
def readItems : Nat → Nat → List Json → List Char → Option (Json × List Char)
  | 0, _, _, _ => none
  | fuel + 1, depth, items, s => do
    let (item, after) ← readValue fuel depth s
    match skipBlanks after with
    | ',' :: rest => readItems fuel depth (item :: items) rest
    | ']' :: rest => some (.array (item :: items).reverse, rest)
    | _ => none

/-- The fields of an object behind those already read. -/
def readFields : Nat → Nat → Fields → List Char → Option (Json × List Char)
  | 0, _, _, _ => none
  | fuel + 1, depth, fields, s =>
    match skipBlanks s with
    | '"' :: rest => do
      let (name, afterName) ← readString [] rest
      match skipBlanks afterName with
      | ':' :: rest =>
        let (value, after) ← readValue fuel depth rest
        let fields := NameMap.insert name value fields
        match skipBlanks after with
        | ',' :: rest => readFields fuel depth fields rest
        | '\x7d' :: rest => some (.object fields, rest)
        | _ => none
      | _ => none
    | _ => none

end

/-- The value of a text that holds one JSON value and blanks around it. -/
def read? (s : String) : Option Json := do
  let chars := s.toList
  let (tree, after) ← readValue (2 * chars.length + 2) 127 chars
  if (skipBlanks after).isEmpty then some tree else none

end SceneArchive.Json
