import SceneArchive.Json.Basic
import SceneArchive.Decimal.Layout

/-!
# JSON text

Two printed forms of a tree: `compact`, without any blank, and `pretty`, with one item a line and
two spaces for each level.
-/

namespace SceneArchive

/-- The text of a number. -/
def Number.text : Number → String
  | .int n => toString n
  | .float x => Decimal.Layout.json.text x

namespace Json

/-- A hexadecimal digit in lower case. -/
def hexDigit (n : Nat) : Char := Nat.digitChar n

/-- One character inside a string: quotes, backslashes and control characters are escaped. -/
def escapeChar (c : Char) : String :=
  match c with
  | '"' => "\\\""
  | '\\' => "\\\\"
  | '\n' => "\\n"
  | '\r' => "\\r"
  | '\t' => "\\t"
  | '\x08' => "\\b"
  | '\x0c' => "\\f"
  | c =>
    if c.toNat < 0x20 then
      "\\u00" ++ String.ofList [hexDigit (c.toNat / 16), hexDigit (c.toNat % 16)]
    else String.singleton c

/-- A string between quotes. -/
def quote (s : String) : String :=
  "\"" ++ s.toList.foldl (fun text c => text ++ escapeChar c) "" ++ "\""

/-- The text of a tree that holds no other tree. -/
def scalarText : Json → String
  | .null => "null"
  | .bool b => if b then "true" else "false"
  | .number n => n.text
  | .string s => quote s
  | .array _ => "[]"
  | .object _ => "\x7b\x7d"

mutual

/-- The text without blanks. -/
def compact : Json → String
  | .array items => "[" ++ ",".intercalate (compactItems items) ++ "]"
  | .object fields => "\x7b" ++ ",".intercalate (compactFields fields) ++ "\x7d"
  | tree => scalarText tree

/-- The texts of the items of an array. -/
def compactItems : List Json → List String
  | [] => []
  | tree :: rest => compact tree :: compactItems rest

/-- The texts of the fields of an object. -/
def compactFields : List (String × Json) → List String
  | [] => []
  | (name, tree) :: rest => (quote name ++ ":" ++ compact tree) :: compactFields rest

end

/-- The line break before an item at a level. -/
def lineBreak (level : Nat) : String := "\n" ++ "".pushn ' ' (2 * level)

/-- Items on lines of their own between two brackets, or the bare brackets. -/
def bracketed (opening closing : String) (level : Nat) (items : List String) : String :=
  if items.isEmpty then opening ++ closing
  else
    opening ++ ",".intercalate (items.map (lineBreak (level + 1) ++ ·)) ++
      lineBreak level ++ closing

mutual

/-- The text with one item a line, inside `level` levels of brackets. -/
def prettyAt (level : Nat) : Json → String
  | .array items => bracketed "[" "]" level (prettyItems (level + 1) items)
  | .object fields => bracketed "\x7b" "\x7d" level (prettyFields (level + 1) fields)
  | tree => scalarText tree

/-- The texts of the items of an array. -/
def prettyItems (level : Nat) : List Json → List String
  | [] => []
  | tree :: rest => prettyAt level tree :: prettyItems level rest

/-- The texts of the fields of an object. -/
def prettyFields (level : Nat) : List (String × Json) → List String
  | [] => []
  | (name, tree) :: rest => (quote name ++ ": " ++ prettyAt level tree) :: prettyFields level rest

end

/-- The text with one item a line. -/
def pretty (tree : Json) : String := prettyAt 0 tree

end Json

end SceneArchive
