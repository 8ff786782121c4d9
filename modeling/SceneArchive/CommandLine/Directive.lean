import SceneArchive.CommandLine.Pattern
import SceneArchive.Decimal.Numeral

/-!
# Log directives

Which texts say what is logged. A directive is a list of parts with commas between them. A part is
a level, or a target, a span in brackets, or both, with or without a level behind `=`. Nothing is
logged here, so all that counts is whether a directive is well formed.

A part is read without the blanks around it, but what is read is cut out of the whole part at the
same numbers of bytes. With blanks in front, therefore, other pieces are judged than those that
were read, and with blanks of several bytes a cut may go through a character, which breaks off the
reading altogether.
-/

namespace SceneArchive.CommandLine.Directive

/-! ## The pieces of a part -/

/-- The names of levels. -/
def levelNames : List String := ["error", "warn", "info", "debug", "trace", "off"]

/-- Whether a text is a level: a name in any case, or a number up to five. -/
def isLevel (s : List Char) : Bool :=
  levelNames.contains (String.ofList (s.map Char.toLower)) ||
    let digits := match s with
      | '+' :: rest => rest
      | s => s
    (Decimal.readDigits? digits).any (· ≤ 5)

/-- Whether a field can be compared with a value: a truth value, a number or a pattern. -/
def isFieldValue (s : List Char) : Bool := (Decimal.readFloat? s).isSome || Pattern.isValid s

/-- Whether a text tests a field: a name, and perhaps a value behind `=`. What follows another `=`
does not matter. -/
def isField (s : List Char) : Bool :=
  !s.isEmpty &&
    match s.dropWhile (· != '=') with
    | [] => true
    | _ :: value => isFieldValue (value.takeWhile (· != '='))

/-- Whether a target may begin so. -/
def startsTarget (c : Char) : Bool :=
  c == '-' || c == ':' || c == '_' || Text.isLetter c || Text.isNumber c

/-! ## Reading a part -/

/-- Why a part is none. -/
inductive Defect where
  /-- It is malformed. -/
  | malformed
  /-- A piece cannot be cut out, since the cut goes through a character. -/
  | broken
  deriving DecidableEq, Repr

/-- A text without so many bytes at its start, unless the cut goes through a character. -/
def dropBytes? (count : Nat) : List Char → Option (List Char)
  | [] => if count = 0 then some [] else none
  | c :: rest =>
    if count = 0 then some (c :: rest)
    else if c.utf8Size ≤ count then dropBytes? (count - c.utf8Size) rest
    else none

/-- So many bytes at the start of a text, unless the cut goes through a character. -/
def takeBytes? (count : Nat) : List Char → Option (List Char)
  | [] => if count = 0 then some [] else none
  | c :: rest =>
    if count = 0 then some []
    else if c.utf8Size ≤ count then (takeBytes? (count - c.utf8Size) rest).map (c :: ·)
    else none

/-- The piece of a text from a byte on. -/
def pieceFrom (s : List Char) (start : Nat) : Except Defect (List Char) :=
  match dropBytes? start s with
  | some piece => .ok piece
  | none => .error .broken

/-- The piece of a text between two bytes. -/
def piece (s : List Char) (start stop : Nat) : Except Defect (List Char) :=
  match (dropBytes? start s).bind (takeBytes? (stop - start)) with
  | some piece => .ok piece
  | none => .error .broken

/-- What is being read, and at which byte it began. -/
inductive State where
  | start
  /-- A level or the name of a target. -/
  | name
  | span (start : Nat)
  | field (start : Nat)
  | afterFields
  | afterSpan
  | level (start : Nat)
  deriving DecidableEq, Repr

/-- What is read behind a character of a part that stands at a byte. -/
def step (part : List Char) (i : Nat) (c : Char) : State → Except Defect State
  | .start =>
    if c == '[' then .ok (.span (i + 1))
    else if startsTarget c then .ok .name
    else .error .malformed
  | .name =>
    if c == '=' then (piece part 0 i).map fun _ => .level (i + 1)
    else if c == '[' then (piece part 0 i).map fun _ => .span (i + 1)
    else .ok .name
  | .span start =>
    if c == ']' then (piece part start i).map fun _ => .afterSpan
    else if c == '\x7b' then (piece part start i).map fun _ => .field (i + 1)
    else .ok (.span start)
  | .field start =>
    if c == '\x7d' then do
      if isField (← piece part start i) then .ok .afterFields else .error .malformed
    else .ok (.field start)
  | .afterFields => if c == ']' then .ok .afterSpan else .error .malformed
  | .afterSpan => if c == '=' then .ok (.level (i + 1)) else .error .malformed
  | .level start => .ok (.level start)

/-- What is read at the end of characters, the first of which stands at a byte. -/
def finalState (part : List Char) (state : State) (i : Nat) :
    List Char → Except Defect State
  | [] => .ok state
  | c :: rest => do finalState part (← step part i c state) (i + c.utf8Size) rest

/-- Checks a part. No level stands for every level. -/
def checkPart (part : List Char) : Except Defect Unit := do
  match ← finalState part .start 0 (Text.trim part) with
  | .name | .afterSpan => return ()
  | .level start =>
    let level ← pieceFrom part start
    if level.isEmpty || isLevel level then return () else throw .malformed
  | _ => throw .malformed

/-- Checks a directive. Empty parts are left out. -/
def check (directive : String) : Except Defect Unit :=
  (directive.splitOn ",").forM fun part =>
    if part.isEmpty then .ok () else checkPart part.toList

end SceneArchive.CommandLine.Directive
