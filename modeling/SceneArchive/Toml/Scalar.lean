import SceneArchive.Json.Reader
import SceneArchive.Calendar
import SceneArchive.Toml.Text

/-!
# Reading the scalars of TOML

A string stands between one or three quotes, double or single; escapes count between double quotes
only. All other scalars are words: truth values, integers of signed sixty-four bits in four bases,
floating-point numbers, dates and times. A date or time is checked and read as null, since no tree
holds one.
-/

namespace SceneArchive.Toml

/-! ## Strings -/

/-- Characters that stand for themselves in strings and comments. -/
def isPlain (c : Char) : Bool := !isControl c && c != '\n'

/-- True for the blanks inside a line. -/
def isGap (c : Char) : Bool := c == ' ' || c == '\t'

/-- The text after its leading blanks. -/
def skipGap (s : List Char) : List Char := s.dropWhile isGap

/-- The text after its leading blanks and line breaks. -/
def skipBreaks : List Char → List Char
  | ' ' :: rest | '\t' :: rest | '\n' :: rest | '\r' :: '\n' :: rest => skipBreaks rest
  | s => s

/-- The text after one line break, if it begins with one. -/
def afterBreak? : List Char → Option (List Char)
  | '\n' :: rest => some rest
  | '\r' :: '\n' :: rest => some rest
  | _ => none

theorem length_skipBreaks_le (s : List Char) : (skipBreaks s).length ≤ s.length := by
  fun_induction skipBreaks s <;> simp_all <;> omega

/-- The number of hexadecimal digits. -/
def hexNumber? (digits : List Char) : Option Nat :=
  digits.foldlM (fun n c => (Json.hexValue? c).map (16 * n + ·)) 0

/-- The character that exactly so many hexadecimal digits number. -/
def numberedChar? (width : Nat) (s : List Char) : Option Char := do
  let digits := s.take width
  let n ← hexNumber? digits
  if digits.length = width ∧ n.isValidChar then some (Char.ofNat n) else none

/-- The character of an escape of one letter. -/
def escaped? (c : Char) : Option Char := if c == '/' then none else Json.escaped? c

/-- How many of the characters at the start are `quote`. -/
def quoteRun (quote : Char) (s : List Char) : Nat := (s.takeWhile (· == quote)).length

/-- The text of a string up to its closing quote, the first of its characters last in `read`, and
what follows the quote. Up to two quotes may stand right before the three that close a string of
several lines. -/
def readText (quote : Char) (multiline : Bool) (read : List Char) :
    List Char → Option (String × List Char)
  | [] => none
  | '\\' :: rest =>
    if quote == '\'' then readText quote multiline ('\\' :: read) rest
    else if multiline && (afterBreak? (skipGap rest)).isSome then
      have := length_skipBreaks_le rest
      readText quote multiline read (skipBreaks rest)
    else
      match rest with
      | 'u' :: rest => do readText quote multiline ((← numberedChar? 4 rest) :: read) (rest.drop 4)
      | 'U' :: rest => do readText quote multiline ((← numberedChar? 8 rest) :: read) (rest.drop 8)
      | c :: rest => do readText quote multiline ((← escaped? c) :: read) rest
      | [] => none
  | '\r' :: '\n' :: rest =>
    if multiline then readText quote multiline ('\n' :: read) rest else none
  | c :: rest =>
    if c == quote then
      let run := min (quoteRun quote rest) 4
      if !multiline then some (String.ofList read.reverse, rest)
      else if 2 ≤ run then
        some (String.ofList (read.reverse ++ List.replicate (run - 2) quote), rest.drop run)
      else readText quote multiline (c :: read) rest
    else if isPlain c || (multiline && c == '\n') then readText quote multiline (c :: read) rest
    else none
termination_by s => s.length
decreasing_by all_goals simp_all <;> omega

/-- A string on one line behind its opening quote. -/
def readLine (quote : Char) (s : List Char) : Option (String × List Char) :=
  readText quote false [] s

/-- A string behind its first quote. Three quotes open a text of several lines, and a line break
right behind them is not part of it. -/
def readString (quote : Char) (s : List Char) : Option (String × List Char) :=
  if 2 ≤ quoteRun quote s then
    let inner := s.drop 2
    readText quote true [] ((afterBreak? inner).getD inner)
  else readLine quote s

/-! ## Words -/

/-- The digits of a text without the underscores that stand between two of them. -/
def ungrouped? (isDigit : Char → Bool) : List Char → Option (List Char)
  | [] => none
  | [c] => if isDigit c then some [c] else none
  | c :: '_' :: rest => if isDigit c then (ungrouped? isDigit rest).map (c :: ·) else none
  | c :: rest => if isDigit c then (ungrouped? isDigit rest).map (c :: ·) else none

/-- The digits of a decimal number, of which the first is zero only if it is the only one. -/
def wholeDigits? (s : List Char) : Option (List Char) := do
  let digits ← ungrouped? Char.isDigit s
  if digits.head? == some '0' && digits.length != 1 then none else some digits

/-- The integer of digits of a base. -/
def basedInt? (base : Nat) (s : List Char) : Option Int := do
  let digits ← ungrouped? (fun c => (Json.hexValue? c).any (· < base)) s
  some (digits.foldl (fun n c => base * n + (Json.hexValue? c).getD 0) 0 : Nat)

/-- The integer of a word. -/
def readInt? (s : List Char) : Option Int := do
  let n ← match s with
    | '0' :: 'x' :: rest => basedInt? 16 rest
    | '0' :: 'o' :: rest => basedInt? 8 rest
    | '0' :: 'b' :: rest => basedInt? 2 rest
    | s => do
      let (negative, unsigned) := Decimal.readSign s
      let n : Int := Decimal.valueOfDigits (← wholeDigits? unsigned)
      some (if negative then -n else n)
  if fitsInt64 n then some n else none

/-- The fraction behind a point and the rest, if there is a point. -/
def readFraction? : List Char → Option (Option (List Char) × List Char)
  | '.' :: rest => do
    let (fraction, after) := rest.span fun c => c != 'e' && c != 'E'
    some (some (← ungrouped? Char.isDigit fraction), after)
  | s => some (none, s)

/-- The exponent of all that is left, if anything is. -/
def readExponent? : List Char → Option (Option Int)
  | [] => some none
  | c :: rest =>
    if c == 'e' || c == 'E' then do
      let (negative, unsigned) := Decimal.readSign rest
      let n : Int := Decimal.valueOfDigits (← ungrouped? Char.isDigit unsigned)
      some (some (if negative then -n else n))
    else none

/-- The floating-point number of a word, with a fraction, an exponent or both. One above all
doubles is refused. -/
def readFloat? (s : List Char) : Option Float :=
  let (negative, unsigned) := Decimal.readSign s
  if unsigned == ['i', 'n', 'f'] || unsigned == ['n', 'a', 'n'] then Decimal.readSpecial? s
  else do
    let (whole, afterWhole) := unsigned.span fun c => c != '.' && c != 'e' && c != 'E'
    let whole ← wholeDigits? whole
    let (fraction, afterFraction) ← readFraction? afterWhole
    let exponent ← readExponent? afterFraction
    if fraction.isNone && exponent.isNone then none
    else
      let n : Decimal.Numeral := ⟨negative, whole, fraction.getD [], exponent.getD 0⟩
      let x := n.toFloat
      if Binary64.isFinite x || negative then some x else none

/-- Whether a text is two digits of a number of at most `limit`. -/
def isPair (limit : Nat) (a b : Char) : Bool := (Decimal.readDigits? [a, b]).any (· ≤ limit)

/-- Whether a text is a time of day: hours, minutes, seconds and perhaps a fraction of a second. -/
def isTime : List Char → Bool
  | h1 :: h2 :: ':' :: m1 :: m2 :: ':' :: s1 :: s2 :: rest =>
    isPair 23 h1 h2 && isPair 59 m1 m2 && isPair 60 s1 s2 &&
      match rest with
      | [] => true
      | '.' :: fraction => !fraction.isEmpty && fraction.all Char.isDigit
      | _ => false
  | _ => false

/-- Whether a text is a time of day with or without its distance from universal time. -/
def isZonedTime (s : List Char) : Bool :=
  let (time, zone) := s.span fun c => c.isDigit || c == ':' || c == '.'
  isTime time &&
    match zone with
    | [] | ['Z'] | ['z'] => true
    | [sign, h1, h2, ':', m1, m2] =>
      (sign == '+' || sign == '-') && isPair 23 h1 h2 && isPair 59 m1 m2
    | _ => false

/-- Whether a text is a date. -/
def isDate (s : List Char) : Bool :=
  match s with
  | [y1, y2, y3, y4, '-', m1, m2, '-', d1, d2] =>
    y1.isDigit && (Date.readChars? [y1, y2, y3, y4, '-', m1, m2, '-', d1, d2]).isSome
  | _ => false

/-- Whether a word is a date, a time or both. -/
def isMoment (s : List Char) : Bool :=
  isDate s || isTime s ||
    (isDate (s.take 10) &&
      match s.drop 10 with
      | c :: time => (c == 'T' || c == 't' || c == ' ') && isZonedTime time
      | [] => false)

/-- The characters of words. -/
def isWordChar (c : Char) : Bool :=
  c.isAlphanum || c == '_' || c == '+' || c == '-' || c == '.' || c == ':'

/-- The word at the start of a text and what follows it. A date and a time may be parted by a
blank. -/
def splitWord (s : List Char) : List Char × List Char :=
  let (word, after) := s.span isWordChar
  match after with
  | ' ' :: rest =>
    if isDate word && (rest.head?.any Char.isDigit) then
      let (time, after) := rest.span isWordChar
      (word ++ ' ' :: time, after)
    else (word, after)
  | _ => (word, after)

/-- The value of a word. -/
def wordValue? (word : List Char) : Option Json :=
  match word with
  | ['t', 'r', 'u', 'e'] => some (.bool true)
  | ['f', 'a', 'l', 's', 'e'] => some (.bool false)
  | word =>
    (readInt? word).map Json.int <|> (readFloat? word).map Json.float <|>
      if isMoment word then some .null else none

end SceneArchive.Toml
