import SceneArchive.Yaml.Scalar
import SceneArchive.Json.Printer

/-!
# YAML documents

A list of trees as a YAML sequence in block form. A list or mapping that is an item of a list
begins on the line of its item; a list that is the value of a key stands below the key and is not
indented further, a mapping below it is, by two spaces.
-/

namespace SceneArchive.Yaml

/-- Where a tree stands. -/
inductive Place where
  /-- Behind the dash of an item or the colon of a key that has a line of its own. -/
  | item
  /-- Behind a key and its colon. -/
  | value
  deriving DecidableEq, Repr

/-- The indentation of the entries of a list. -/
def sequenceIndent (place : Place) (indent : Nat) : Nat :=
  match place with
  | .item => indent + 2
  | .value => indent

/-- Entries at an indentation, the first of them on the line begun or on one of its own. -/
def block (place : Place) (indent : Nat) (entries : List String) : String :=
  let margin := "".pushn ' ' indent
  let first := match place with
    | .item => " "
    | .value => "\n" ++ margin
  first ++ margin.intercalate entries

/-- Whether a key stands on one line with its value: it has no line break and no more than 128
bytes. -/
def isSimpleKey (name : String) : Bool := !name.toList.any isBreak && name.utf8ByteSize ≤ 128

/-- The text of a tree that holds no other tree. -/
def scalar (indent : Nat) : Json → String
  | .null => "null\n"
  | .bool b => if b then "true\n" else "false\n"
  | .number (.int n) => toString n ++ "\n"
  | .number (.float x) => Decimal.Layout.yaml.text x ++ "\n"
  | .string s => String.ofList (write (indent + 2) (style s) s.toList)
  | .array _ => "[]\n"
  | .object _ => "\x7b\x7d\n"

/-- A key with its colon. -/
def keyText (indent : Nat) (name : String) : String :=
  if isSimpleKey name then
    String.ofList ((write (indent + 2) (style name) name.toList).dropLast) ++ ":"
  else
    "? " ++ scalar indent (.string name) ++ "".pushn ' ' indent ++ ":"

/-- Where the value of a key stands. -/
def valuePlace (name : String) : Place := if isSimpleKey name then .value else .item

mutual

/-- What follows a dash or a colon inside entries at an indentation. -/
def node (place : Place) (indent : Nat) : Json → String
  | .array (tree :: rest) =>
    let inner := sequenceIndent place indent
    block place inner (("-" ++ node .item inner tree) :: itemEntries inner rest)
  | .object ((name, tree) :: rest) =>
    let inner := indent + 2
    block place inner
      ((keyText inner name ++ node (valuePlace name) inner tree) :: fieldEntries inner rest)
  | leaf => " " ++ scalar indent leaf

/-- The entries of a list. -/
def itemEntries (indent : Nat) : List Json → List String
  | [] => []
  | tree :: rest => ("-" ++ node .item indent tree) :: itemEntries indent rest

/-- The entries of a mapping. -/
def fieldEntries (indent : Nat) : List (String × Json) → List String
  | [] => []
  | (name, tree) :: rest =>
    (keyText indent name ++ node (valuePlace name) indent tree) :: fieldEntries indent rest

end

/-- The document of a list of trees. -/
def document (trees : List Json) : String :=
  if trees.isEmpty then "[]\n" else String.join (itemEntries 0 trees)

end SceneArchive.Yaml
