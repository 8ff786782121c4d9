import SceneArchive.Toml.Text

/-!
# TOML documents

Trees without nulls as a TOML document. An object is a table with a header, a nonempty array of
objects is an array of tables, and all that stands inside another array is written in line. The
values of a table come before its tables.
-/

namespace SceneArchive.Toml

/-! ## Values -/

/-- The text of a number. -/
def number : Number → String
  | .int n => toString n
  | .float x => Decimal.Layout.point.text x

/-- An array of written items: on one line up to one item, else an item a line. -/
def array (items : List String) : String :=
  if items.length ≤ 1 then "[" ++ String.join items ++ "]"
  else "[" ++ String.join (items.map fun item => "\n    " ++ item ++ ",") ++ "\n]"

/-- A table in line, of written entries. -/
def inlineTable (entries : List String) : String :=
  if entries.isEmpty then "\x7b\x7d" else "\x7b " ++ ", ".intercalate entries ++ " \x7d"

mutual

/-- A value in line. -/
def value : Json → String
  | .null => ""
  | .bool b => if b then "true" else "false"
  | .number n => number n
  | .string s => string s
  | .array items => array (values items)
  | .object fields => inlineTable (entries fields)

/-- The items of an array in line. -/
def values : List Json → List String
  | [] => []
  | tree :: rest => value tree :: values rest

/-- The entries of a table in line. -/
def entries : List (String × Json) → List String
  | [] => []
  | (name, tree) :: rest => (key name ++ " = " ++ value tree) :: entries rest

end

/-! ## Sections -/

/-- How a section of a document begins. -/
inductive Header where
  /-- The start of the document. -/
  | root
  /-- A table. -/
  | table
  /-- An element of an array of tables. -/
  | element
  deriving DecidableEq, Repr

/-- A header and the values behind it. -/
structure Section where
  header : Header
  path : List String
  lines : List String
  /-- Whether the table holds nothing, not even tables. -/
  isEmpty : Bool
  deriving Repr

/-- True for objects. -/
def isTable : Json → Bool
  | .object _ => true
  | _ => false

/-- Whether a tree is written as tables with headers. -/
def hasHeaders : Json → Bool
  | .object _ => true
  | .array items => !items.isEmpty && items.all isTable
  | _ => false

/-- The section of the values of a table. -/
def ofFields (header : Header) (path : List String) (fields : List (String × Json)) : Section where
  header := header
  path := path
  lines := (fields.filter (!hasHeaders ·.2)).map fun (name, tree) => key name ++ " = " ++ value tree
  isEmpty := fields.isEmpty

mutual

/-- The sections of a tree under a path. -/
def treeSections (path : List String) : Json → List Section
  | .object fields => ofFields .table path fields :: fieldSections path fields
  | .array items => if items.all isTable then elementSections path items else []
  | _ => []

/-- The sections of the tables among the fields of a table. -/
def fieldSections (path : List String) : List (String × Json) → List Section
  | [] => []
  | (name, tree) :: rest => treeSections (path ++ [name]) tree ++ fieldSections path rest

/-- The sections of the elements of an array of tables. -/
def elementSections (path : List String) : List Json → List Section
  | [] => []
  | .object fields :: rest =>
    ofFields .element path fields :: (fieldSections path fields ++ elementSections path rest)
  | _ :: rest => elementSections path rest

end

/-- The header line of a section. A table that holds nothing but tables needs none. -/
def headerLine? (s : Section) : Option String :=
  let path := ".".intercalate (s.path.map key)
  match s.header with
  | .root => none
  | .table => if s.lines.isEmpty && !s.isEmpty then none else some ("[" ++ path ++ "]")
  | .element => some ("[[" ++ path ++ "]]")

/-- The text of the sections behind `before`, headers set off by an empty line. -/
def sectionsText (before : String) : List Section → String
  | [] => before
  | s :: rest =>
    let header := match headerLine? s with
      | some line => (if before.isEmpty then "" else "\n") ++ line ++ "\n"
      | none => ""
    sectionsText (before ++ header ++ String.join (s.lines.map (· ++ "\n"))) rest

/-- The document of the fields of a table. -/
def document (fields : List (String × Json)) : String :=
  sectionsText "" (ofFields .root [] fields :: fieldSections [] fields)

/-! ## What a document can hold -/

mutual

/-- The tree without its nulls, if it is not null itself. -/
def withoutNulls : Json → Option Json
  | .null => none
  | .array items => some (.array (itemsWithoutNulls items))
  | .object fields => some (.object (fieldsWithoutNulls fields))
  | leaf => some leaf

/-- The items that are not null, without their nulls. -/
def itemsWithoutNulls : List Json → List Json
  | [] => []
  | tree :: rest => (withoutNulls tree).toList ++ itemsWithoutNulls rest

/-- The fields that are not null, without their nulls. -/
def fieldsWithoutNulls : List (String × Json) → List (String × Json)
  | [] => []
  | (name, tree) :: rest =>
    ((withoutNulls tree).map fun tree => (name, tree)).toList ++ fieldsWithoutNulls rest

end

mutual

/-- Whether every integer of a tree is one of signed sixty-four bits. -/
def fits : Json → Bool
  | .number (.int n) => n < (twoTo 63 : Int)
  | .array items => itemsFit items
  | .object fields => fieldsFit fields
  | _ => true

/-- Whether every integer of a list of trees fits. -/
def itemsFit : List Json → Bool
  | [] => true
  | tree :: rest => fits tree && itemsFit rest

/-- Whether every integer of a list of fields fits. -/
def fieldsFit : List (String × Json) → Bool
  | [] => true
  | (_, tree) :: rest => fits tree && fieldsFit rest

end

end SceneArchive.Toml
