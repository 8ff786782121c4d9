import SceneArchive.Json.Printer

/-!
# Tables of trees

Trees as a table of comma-separated values. A leaf of a tree is null, a truth value, a number or
a string; its column is named by the keys and indices on the way to it, joined by points. The
header lists the columns in the order in which the trees first show them, and every tree gives one
row.
-/

namespace SceneArchive.Csv

mutual

/-- The leaves of a tree with the steps to each, in order. -/
def leaves : Json → List (List String × Json)
  | .array items => itemLeaves 0 items
  | .object fields => fieldLeaves fields
  | leaf => [([], leaf)]

/-- The leaves of the items of an array, the first of which has the given index. -/
def itemLeaves (index : Nat) : List Json → List (List String × Json)
  | [] => []
  | tree :: rest =>
    (leaves tree).map (fun (path, leaf) => (toString index :: path, leaf)) ++
      itemLeaves (index + 1) rest

/-- The leaves of the fields of an object. -/
def fieldLeaves : List (String × Json) → List (List String × Json)
  | [] => []
  | (name, tree) :: rest =>
    (leaves tree).map (fun (path, leaf) => (name :: path, leaf)) ++ fieldLeaves rest

end

/-- The name of a column: the steps joined by points. A step behind nothing but empty names has no
point before it. -/
def dotted (path : List String) : String :=
  path.foldl (fun name step => if name.isEmpty then step else name ++ "." ++ step) ""

/-- The text of a leaf; nothing for null. -/
def cellText : Json → String
  | .null => ""
  | .string s => s
  | leaf => leaf.compact

/-- The cells of a tree with the names of their columns. -/
def cells (tree : Json) : List (String × String) :=
  (leaves tree).map fun (path, leaf) => (dotted path, cellText leaf)

/-- The names of a list of rows, each once, in the order in which they first appear. -/
def header (rows : List (List (String × String))) : List String :=
  (rows.flatMap (·.map (·.1))).foldl
    (fun names name => if names.contains name then names else names ++ [name]) []

/-- The cells of a row under the columns of a header, empty where the row has none. -/
def record (header : List String) (row : List (String × String)) : List String :=
  header.map fun name => ((row.find? (·.1 == name)).map (·.2)).getD ""

/-- Whether a field has to stand between quotes. -/
def needsQuotes (s : String) : Bool :=
  s.toList.any fun c => c == ',' || c == '"' || c == '\r' || c == '\n'

/-- A field between quotes, each quote of its own written twice. -/
def quoted (s : String) : String :=
  "\"" ++ String.ofList (s.toList.flatMap fun c => if c == '"' then ['"', '"'] else [c]) ++ "\""

/-- A field. -/
def field (s : String) : String := if needsQuotes s then quoted s else s

/-- A line of fields. A line of one empty field is written with quotes, as it would be no line
otherwise. -/
def line (fields : List String) : String :=
  (if fields == [""] then quoted "" else ",".intercalate (fields.map field)) ++ "\n"

/-- The table of a list of trees; nothing if no tree has a leaf. -/
def text (trees : List Json) : String :=
  let rows := trees.map cells
  let names := header rows
  if names.isEmpty then ""
  else line names ++ String.join (rows.map fun row => line (record names row))

end SceneArchive.Csv
