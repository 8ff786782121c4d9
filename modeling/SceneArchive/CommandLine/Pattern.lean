import SceneArchive.Text.Blank
import SceneArchive.Text.Letter
import SceneArchive.Json.Reader

/-!
# Patterns

Which texts are patterns that a log directive can compare fields with: regular expressions with
groups, flags, repetitions, and character classes with set operations. Nothing is matched here, so
a pattern is read from left to right and only what decides its form is kept: the mode that flags
set, the names of groups, and for each open group the mode outside of it.

* Characters are those of Unicode unless the flag `u` is off, but the tables of Unicode are not at
  hand: there are no classes of letters, digits or blanks, no borders of words and no comparison
  without case. With `u` off these exist for ASCII, and nothing may match a part of a character.
* A pattern stands in braces and holds no closing one, so that nothing with braces is a pattern.
-/

namespace SceneArchive.CommandLine.Pattern

/-- What flags set. -/
structure Mode where
  /-- Whether characters are those of Unicode. -/
  unicode : Bool := true
  ignoresCase : Bool := false
  /-- Whether blanks and comments between the parts of a pattern are left out. -/
  spaced : Bool := false
  deriving DecidableEq, Repr

/-- A text from its first line break on. -/
def afterComment (s : List Char) : List Char := s.dropWhile (· != '\n')

theorem length_afterComment_le (s : List Char) : (afterComment s).length ≤ s.length :=
  (List.dropWhile_sublist _).length_le

/-- A text without the blanks and comments at its start. -/
def skipSpace : List Char → List Char
  | [] => []
  | c :: rest =>
    have := length_afterComment_le rest
    if Text.isBlank c then skipSpace rest
    else if c == '#' then skipSpace (afterComment rest)
    else c :: rest
termination_by s => s.length
decreasing_by
  · simp
  · exact Nat.lt_succ_of_le this

/-- A text without what the mode leaves out at its start. -/
def Mode.skip (mode : Mode) (s : List Char) : List Char := if mode.spaced then skipSpace s else s

/-! ## Literals and escapes -/

/-- What an escape stands for. -/
inductive Escape where
  /-- A character. -/
  | literal (c : Char)
  /-- A character by the two digits of its byte. -/
  | byte (c : Char)
  /-- The border of a word, or the start or end of the text. -/
  | border (ofWord : Bool)
  /-- A class of digits, blanks or letters, or its complement. -/
  | charClass (negated : Bool)
  deriving DecidableEq, Repr

/-- Whether a mode has what an escape stands for outside of brackets. -/
def Escape.fits (mode : Mode) : Escape → Bool
  | literal _ => !(mode.unicode && mode.ignoresCase)
  | byte c => if mode.unicode then !mode.ignoresCase else c.toNat < 0x80
  | border ofWord => !(ofWord && mode.unicode)
  | charClass negated => !mode.unicode && !negated

/-- Hexadecimal digits, `width` of them behind those read. -/
def readHex (mode : Mode) (n : Nat) : Nat → List Char → Option (Nat × List Char)
  | 0, s => some (n, mode.skip s)
  | width + 1, s =>
    match mode.skip s with
    | c :: rest => do readHex mode (16 * n + (← Json.hexValue? c)) width rest
    | [] => none

/-- The character of hexadecimal digits. -/
def readNumbered (mode : Mode) (width : Nat) (s : List Char) : Option (Char × List Char) := do
  let (n, rest) ← readHex mode 0 width s
  if n.isValidChar then some (Char.ofNat n, rest) else none

/-- An escape behind its backslash and what follows it. -/
def readEscape (mode : Mode) : List Char → Option (Escape × List Char)
  | [] => none
  | c :: rest =>
    match c with
    | 'x' => (readNumbered mode 2 rest).map fun (c, rest) => (.byte c, rest)
    | 'u' => (readNumbered mode 4 rest).map fun (c, rest) => (.literal c, rest)
    | 'U' => (readNumbered mode 8 rest).map fun (c, rest) => (.literal c, rest)
    | 'd' | 's' | 'w' => some (.charClass false, rest)
    | 'D' | 'S' | 'W' => some (.charClass true, rest)
    | 'a' | 'f' | 't' | 'n' | 'r' | 'v' => some (.literal c, rest)
    | 'A' | 'z' => some (.border false, rest)
    | 'b' | 'B' | '<' | '>' => some (.border true, rest)
    | c => if c.toNat < 0x80 && !c.isAlphanum then some (.literal c, rest) else none

/-! ## Classes in brackets -/

/-- Whether a mode has what an escape stands for inside of brackets. -/
def Escape.fitsClass (mode : Mode) : Escape → Bool
  | literal c | byte c => if mode.unicode then !mode.ignoresCase else c.toNat < 0x80
  | border _ => false
  | charClass negated => !mode.unicode && !negated

/-- The character of an escape that stands for one. -/
def Escape.character? : Escape → Option Char
  | literal c | byte c => some c
  | border _ | charClass _ => none

/-- An item of a class that is no class in brackets, and what follows it. -/
def readItem (mode : Mode) : List Char → Option (Escape × List Char)
  | [] => none
  | '\\' :: rest => do
    let (item, rest) ← readEscape mode rest
    if item.fitsClass mode then some (item, rest) else none
  | c :: rest => if (Escape.literal c).fitsClass mode then some (.literal c, rest) else none

/-- The character behind the first one of a text, or the one that a mode sees there. -/
def Mode.peek (mode : Mode) : List Char → Option Char
  | [] => none
  | _ :: rest =>
    if mode.spaced then
      match rest.dropWhile Text.isBlank with
      | '#' :: comment => (comment.dropWhile Text.isBlank).head? <|> rest.head?
      | s => s.head? <|> rest.head?
    else rest.head?

/-- An item or a range of items, and what follows it. A minus before the closing bracket or before
another minus makes no range. -/
def readRange (mode : Mode) (s : List Char) : Option (List Char) := do
  let (first, rest) ← readItem mode s
  match mode.skip rest with
  | [] => none
  | '-' :: after =>
    if mode.peek ('-' :: after) == some ']' || mode.peek ('-' :: after) == some '-' then
      some ('-' :: after)
    else
      let (last, rest) ← readItem mode (mode.skip after)
      let (low, high) := (← first.character?, ← last.character?)
      if low ≤ high then some rest else none
  | rest => some rest

/-- The names of the classes of ASCII. -/
def asciiClasses : List String :=
  ["alnum", "alpha", "ascii", "blank", "cntrl", "digit", "graph", "lower", "print", "punct",
    "space", "upper", "word", "xdigit"]

/-- A named class behind its opening bracket: whether it is negated, and what follows it. -/
def readNamed? : List Char → Option (Bool × List Char)
  | ':' :: rest =>
    let (negated, rest) := match rest with
      | '^' :: rest => (true, rest)
      | rest => (false, rest)
    match rest.span (· != ':') with
    | (name, ':' :: ']' :: rest) =>
      if asciiClasses.contains (String.ofList name) then some (negated, rest) else none
    | _ => none
  | _ => none

/-- What follows the minus signs at the start of a class, and whether there are any. -/
def skipDashes (mode : Mode) : Nat → List Char → Bool × List Char
  | 0, s => (false, s)
  | fuel + 1, s =>
    match s with
    | '-' :: rest => (true, (skipDashes mode fuel (mode.skip rest)).2)
    | s => (false, s)

/-- What follows the start of a class behind its bracket: a mark of negation and the characters
that count as items only there. -/
def openClass (mode : Mode) (s : List Char) : Option (List Char) := do
  let isLiteral (c : Char) := (Escape.literal c).fitsClass mode
  let rest ← match mode.skip s with
    | '^' :: rest => if mode.unicode then some (mode.skip rest) else none
    | rest => some rest
  match skipDashes mode rest.length rest with
  | (true, rest) => if isLiteral '-' then some rest else none
  | (false, ']' :: rest) => if isLiteral ']' then some rest else none
  | (false, rest) => some rest

/-- What follows a class with `depth` brackets open. -/
def readClass (mode : Mode) (depth : Nat) : Nat → List Char → Option (List Char)
  | 0, _ => none
  | fuel + 1, s =>
    match mode.skip s with
    | [] => none
    | '[' :: rest =>
      match readNamed? rest with
      | some (negated, after) =>
        if mode.unicode then
          if mode.ignoresCase then none else readClass mode depth fuel after
        else if negated then none
        else readClass mode depth fuel after
      | none => do readClass mode (depth + 1) fuel (← openClass mode rest)
    | ']' :: rest => if depth ≤ 1 then some rest else readClass mode (depth - 1) fuel rest
    | '&' :: '&' :: rest | '-' :: '-' :: rest | '~' :: '~' :: rest =>
      readClass mode depth fuel rest
    | rest => do readClass mode depth fuel (← readRange mode rest)

/-! ## Groups -/

/-- Whether a text is the name of a group. -/
def isGroupName : List Char → Bool
  | [] => false
  | c :: rest =>
    (c == '_' || Text.isLetter c) &&
      rest.all fun c =>
        c == '_' || c == '.' || c == '[' || c == ']' || Text.isLetter c || Text.isNumber c

/-- Flags up to the colon or bracket that ends them, behind those already read. -/
def readFlags (read : List Char) : List Char → Option (List Char × Char × List Char)
  | [] => none
  | c :: rest =>
    if c == ':' || c == ')' then
      if read.getLast? == some '-' then none else some (read, c, rest)
    else if !("imsUuRx-".toList.contains c) || read.contains c then none
    else readFlags (read ++ [c]) rest

/-- The mode that flags make of a mode. Those behind a minus are off. -/
def Mode.set (mode : Mode) (flags : List Char) : Mode :=
  let (on, off) := flags.span (· != '-')
  let value (flag : Char) (old : Bool) := on.contains flag || (old && !off.contains flag)
  { unicode := value 'u' mode.unicode
    ignoresCase := value 'i' mode.ignoresCase
    spaced := value 'x' mode.spaced }

/-- Where a pattern is read. -/
structure Place where
  mode : Mode
  /-- Whether an item that can be repeated has just been read. -/
  repeatable : Bool
  /-- The modes outside of the open groups, the innermost first. -/
  outer : List Mode
  /-- The names of groups. -/
  names : List (List Char)
  deriving Repr

/-- The place behind an item. -/
def Place.passItem (p : Place) : Place := { p with repeatable := true }

/-- The place inside a group that has just been opened with a mode. -/
def Place.open (p : Place) (mode : Mode) : Place :=
  { p with mode, repeatable := false, outer := p.mode :: p.outer }

/-- The start of a group behind its bracket. -/
def readGroup (p : Place) (s : List Char) : Option (Place × List Char) :=
  let named (rest : List Char) : Option (Place × List Char) :=
    match rest.span (· != '>') with
    | (name, '>' :: rest) =>
      if isGroupName name && !p.names.contains name then
        some ({ p.open p.mode with names := name :: p.names }, rest)
      else none
    | _ => none
  match p.mode.skip s with
  | '?' :: 'P' :: '<' :: rest => named rest
  | '?' :: '<' :: rest =>
    if rest.head? == some '=' || rest.head? == some '!' then none else named rest
  | '?' :: rest => do
    let (flags, ending, rest) ← readFlags [] rest
    let mode := p.mode.set flags
    if ending == ':' then some (p.open mode, rest)
    else if flags.isEmpty then none
    else some ({ p with mode, repeatable := false }, rest)
  | rest => some (p.open p.mode, rest)

/-! ## The whole pattern -/

/-- The place behind an escape or character that stands outside of brackets. -/
def Place.passEscape (p : Place) (e : Escape) : Option Place :=
  if e.fits p.mode then some p.passItem else none

/-- The text behind an operator of repetition, which is lazy with a question mark behind it. -/
def afterRepetition : List Char → List Char
  | '?' :: rest => rest
  | rest => rest

/-- Whether what is left of a pattern completes it. -/
def completes (p : Place) : Nat → List Char → Bool
  | 0, _ => false
  | fuel + 1, s =>
    match p.mode.skip s with
    | [] => p.outer.isEmpty
    | '(' :: rest =>
      match readGroup p rest with
      | some (p, rest) => completes p fuel rest
      | none => false
    | ')' :: rest =>
      match p.outer with
      | mode :: outer => completes { p with mode, outer, repeatable := true } fuel rest
      | [] => false
    | '|' :: rest => completes { p with repeatable := false } fuel rest
    | '[' :: rest =>
      match (openClass p.mode rest).bind (readClass p.mode 1 rest.length) with
      | some rest => completes p.passItem fuel rest
      | none => false
    | '?' :: rest | '*' :: rest | '+' :: rest =>
      p.repeatable && completes p fuel (afterRepetition rest)
    | '\x7b' :: _ => false
    | '\\' :: rest =>
      match readEscape p.mode rest with
      | some (e, rest) =>
        match p.passEscape e with
        | some p => completes p fuel rest
        | none => false
      | none => false
    | '.' :: rest => p.mode.unicode && completes p.passItem fuel rest
    | '^' :: rest | '$' :: rest => completes p.passItem fuel rest
    | c :: rest =>
      match p.passEscape (.literal c) with
      | some p => completes p fuel rest
      | none => false

/-- Whether a text is a pattern. -/
def isValid (s : List Char) : Bool := completes ⟨{}, false, [], []⟩ (s.length + 1) s

end SceneArchive.CommandLine.Pattern
