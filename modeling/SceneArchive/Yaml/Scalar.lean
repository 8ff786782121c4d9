import SceneArchive.Decimal.Numeral

/-!
# YAML strings

How a string is written in YAML: plain where it reads back as that string, else between quotes,
and as a literal block where it has line breaks.
-/

namespace SceneArchive.Yaml

/-! ## Strings that would read back as something else -/

/-- The digits of a base as a number, if there are any and no other characters. -/
def readRadix? (base : Nat) (s : List Char) : Option Nat :=
  let digit (c : Char) : Nat :=
    if c.isDigit then c.toNat - 48
    else if c.toLower.isAlpha then c.toLower.toNat - 87
    else base
  if s.isEmpty || s.any (fun c => base ≤ digit c) then none
  else some (s.foldl (fun n c => n * base + digit c) 0)

/-- The digits behind a base mark such as `0x`, as a number. -/
def readBased? : List Char → Option Nat
  | '0' :: 'x' :: rest => readRadix? 16 rest
  | '0' :: 'o' :: rest => readRadix? 8 rest
  | '0' :: 'b' :: rest => readRadix? 2 rest
  | _ => none

/-- Whether a text is an integer of up to 128 bits with a base mark. -/
def isBasedInteger : List Char → Bool
  | '-' :: rest => (readBased? rest).any fun n => n ≤ twoTo 127
  | '+' :: rest => (readBased? rest).any fun n => n < twoTo 128
  | s => (readBased? s).any fun n => n < twoTo 128

/-- Whether a text is a zero and more digits behind an optional sign, which is no number. -/
def isZeroPadded (s : List Char) : Bool :=
  match (Decimal.readSign s).2 with
  | '0' :: rest => !rest.isEmpty && rest.all Char.isDigit
  | _ => false

/-- Whether a text is a finite decimal number. -/
def isDecimal (s : List Char) : Bool :=
  let read (s : List Char) : Bool := (Decimal.readFloat? s).any Binary64.isFinite
  match s with
  | '+' :: rest => !(rest.head? == some '+' || rest.head? == some '-') && read rest
  | s => read s

/-- The words for null, truth values, infinities and the value that is not a number. -/
def words : List String :=
  ["", "null", "Null", "NULL", "~", "true", "True", "TRUE", "false", "False", "FALSE", ".inf",
    ".Inf", ".INF", "+.inf", "+.Inf", "+.INF", "-.inf", "-.Inf", "-.INF", ".nan", ".NaN", ".NAN"]

/-- Whether a string would read back as a value that is no string, or nearly so. -/
def isAmbiguous (s : String) : Bool :=
  words.contains s || isBasedInteger s.toList || isZeroPadded s.toList || isDecimal s.toList

/-! ## The characters of a string -/

/-- The characters that end a line. -/
def isBreak (c : Char) : Bool :=
  let n := c.toNat
  n == 0xA || n == 0xD || n == 0x85 || n == 0x2028 || n == 0x2029

/-- The characters that may stand in a text without an escape. -/
def isPrintable (c : Char) : Bool :=
  let n := c.toNat
  n == 0xA || (0x20 ≤ n && n ≤ 0x7E) || (0xA0 ≤ n && n ≤ 0xD7FF) ||
    (0xE000 ≤ n && n ≤ 0xFFFD && n != 0xFEFF) || 0x10000 ≤ n

/-- Whether what follows a character sets it apart: nothing, a blank or a line break. -/
def isApart : Option Char → Bool
  | none => true
  | some c => c == ' ' || c == '\t' || c == '\x00' || isBreak c

/-- Whether the first character of a string is a mark of the format. -/
def leadingMark : List Char → Bool
  | [] => false
  | c :: rest =>
    if "#,[]\x7b\x7d&*!|>'\"%@".toList.contains c || c.toNat == 0x60 then true
    else if c == '?' || c == ':' || c == '-' then isApart rest.head?
    else false

/-- Whether a character behind the first is a mark: a colon before a blank or the end, or a hash
behind a blank. `previous` is the character before the text. -/
def innerMark (previous : Char) : List Char → Bool
  | [] => false
  | c :: rest =>
    c == ':' && isApart rest.head? || c == '#' && isApart (some previous) || innerMark c rest

/-- Whether a string has marks that a plain string must not have. -/
def hasMarks (s : List Char) : Bool :=
  "---".toList.isPrefixOf s || "...".toList.isPrefixOf s || leadingMark s ||
    match s with
    | [] => false
    | c :: rest => innerMark c rest

/-- Whether two neighbouring characters are of two given sorts. -/
def hasPair (first second : Char → Bool) : List Char → Bool
  | a :: b :: rest => first a && second b || hasPair first second (b :: rest)
  | _ => false

/-- Whether a string needs escapes, for a character that is not printable or for a space at the
end of a line that is not the last one. -/
def needsEscapes (s : List Char) : Bool := s.any (!isPrintable ·) || hasPair (· == ' ') isBreak s

/-- Whether a line of a string other than the first begins with a space. -/
def hasIndentedLine (s : List Char) : Bool := hasPair isBreak (· == ' ') s

/-- Whether a string begins or ends with a character of a sort. -/
def isFramedBy (p : Char → Bool) (s : List Char) : Bool := s.head?.any p || s.getLast?.any p

/-! ## Styles -/

/-- How a string is written. -/
inductive Style where
  | plain
  | singleQuoted
  | doubleQuoted
  | literal
  deriving DecidableEq, Repr

/-- The style of a string that is not to be a literal block. -/
def flowStyle (text : String) : Style :=
  let s := text.toList
  if needsEscapes s then .doubleQuoted
  else if !isAmbiguous text && !hasMarks s && !isFramedBy (fun c => c == ' ' || isBreak c) s &&
      !s.any isBreak then .plain
  else if hasIndentedLine s then .doubleQuoted
  else .singleQuoted

/-- The style of a string: a literal block for one with line breaks, unless it needs escapes or
ends with a space. -/
def style (text : String) : Style :=
  let s := text.toList
  if s.contains '\n' then
    if needsEscapes s || s.getLast? == some ' ' then .doubleQuoted else .literal
  else flowStyle text

/-! ## The text of a string -/

/-- Spaces before a line. -/
def indentation (indent : Nat) : List Char := List.replicate indent ' '

/-- The text with an indentation before every character that follows a line break; `broken` tells
whether one has just been written. -/
def indentLines (indent : Nat) (broken : Bool) : List Char → List Char
  | [] => []
  | c :: rest =>
    if isBreak c then c :: indentLines indent true rest
    else (if broken then indentation indent else []) ++ c :: indentLines indent false rest

/-- A string between single quotes, each of its own written twice. -/
def singleQuoted (indent : Nat) (s : List Char) : List Char :=
  let doubled := s.flatMap fun c => if c == '\'' then ['\'', '\''] else [c]
  let last := if s.getLast?.any isBreak then indentation indent else []
  '\'' :: indentLines indent false doubled ++ last ++ ['\'']

/-- A number in upper-case hexadecimal digits of a width. -/
def hexadecimal (width n : Nat) : List Char :=
  let digits := (Nat.toDigits 16 n).map Char.toUpper
  List.replicate (width - digits.length) '0' ++ digits

/-- The letter of an escape that has one. -/
def escapeLetter? (c : Char) : Option Char :=
  match c.toNat with
  | 0x00 => some '0'
  | 0x07 => some 'a'
  | 0x08 => some 'b'
  | 0x09 => some 't'
  | 0x0A => some 'n'
  | 0x0B => some 'v'
  | 0x0C => some 'f'
  | 0x0D => some 'r'
  | 0x1B => some 'e'
  | 0x22 => some '"'
  | 0x5C => some '\\'
  | 0x85 => some 'N'
  | 0xA0 => some '_'
  | 0x2028 => some 'L'
  | 0x2029 => some 'P'
  | _ => none

/-- A character between double quotes. -/
def escapeChar (c : Char) : List Char :=
  if isPrintable c && !isBreak c && c != '"' && c != '\\' then [c]
  else
    match escapeLetter? c with
    | some letter => ['\\', letter]
    | none =>
      let n := c.toNat
      if n ≤ 0xFF then '\\' :: 'x' :: hexadecimal 2 n
      else if n ≤ 0xFFFF then '\\' :: 'u' :: hexadecimal 4 n
      else '\\' :: 'U' :: hexadecimal 8 n

/-- A string between double quotes. -/
def doubleQuoted (s : List Char) : List Char := '"' :: s.flatMap escapeChar ++ ['"']

/-- What follows the bar of a literal block: the indentation where the first line shows none of
its own, and how the last line ends. -/
def literalHints (s : List Char) : List Char :=
  let indented := s.head?.any fun c => c == ' ' || isBreak c
  let ending := match s.reverse with
    | [] => ['-']
    | [c] => if isBreak c then ['+'] else ['-']
    | c :: d :: _ => if !isBreak c then ['-'] else if isBreak d then ['+'] else []
  (if indented then ['2'] else []) ++ ending

/-- A literal block with the line break behind it. -/
def literal (indent : Nat) (s : List Char) : List Char :=
  '|' :: literalHints s ++ '\n' :: indentLines indent true s ++
    if s.getLast?.any isBreak then [] else ['\n']

/-- A string in a style, with the line break behind it. -/
def write (indent : Nat) (style : Style) (s : List Char) : List Char :=
  match style with
  | .plain => s ++ ['\n']
  | .singleQuoted => singleQuoted indent s ++ ['\n']
  | .doubleQuoted => doubleQuoted s ++ ['\n']
  | .literal => literal indent s

end SceneArchive.Yaml
