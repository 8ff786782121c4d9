import SceneArchive.Statement.Name
import SceneArchive.Schema.Standard

/-!
# Tables

The table of each kind of a schema: an identifier, the identifier of the parent, the declared
fields and two times, with the columns whose values are distinct.
-/

namespace SceneArchive.Statement

/-- The definition of a column. -/
inductive ColumnDef where
  /-- The identifier of a row. -/
  | key
  /-- The identifier of a row of the parent's table. -/
  | reference (column : String) (parent : Kind)
  | field (declared : Field)
  | time (column : String)
  deriving DecidableEq, Repr

/-- The name of a column. -/
def ColumnDef.name : ColumnDef → String
  | key => "id"
  | reference column _ => column
  | field declared => declared.name
  | time column => column

/-- The text of a column. -/
def ColumnDef.text : ColumnDef → String
  | key => "id INTEGER PRIMARY KEY AUTOINCREMENT"
  | reference column parent =>
    s!"{quoteName column} INTEGER NOT NULL REFERENCES {quoteName parent.name} (id)"
  | field declared =>
    s!"{quoteName declared.name} {declared.type.columnType}" ++
      (if declared.nullable then "" else " NOT NULL")
  | time column => column ++ " TEXT NOT NULL"

/-- A table. -/
structure Table where
  kind : Kind
  columns : List ColumnDef
  /-- The columns whose values are distinct, each by itself. -/
  uniques : List String
  deriving Repr

namespace Table

/-- The columns for the parent of a kind: one if it has a parent, which has to be declared. -/
def parentColumns (s : Schema) (kind : Kind) : Except SchemaError (List ColumnDef) :=
  match s.parentOf kind with
  | none => .ok []
  | some relation => do
    let _ ← s.declaration relation.parent
    return [.reference relation.slot.column relation.parent]

/-- The table of a declaration of a schema. -/
def ofDeclaration (s : Schema) (d : Declaration) : Except SchemaError Table := do
  let references ← parentColumns s d.kind
  return {
    kind := d.kind
    columns :=
      .key :: references ++ d.fields.map .field ++ [.time "created_at", .time "updated_at"]
    uniques :=
      d.uniqueKey.toList ++ ((d.relation.filter (·.slot.unique)).toList.map (·.slot.column)) }

/-- The statement that creates a table. -/
def text (t : Table) : String :=
  let lines := t.columns.map (·.text) ++ t.uniques.map fun name => s!"UNIQUE ({quoteName name})"
  s!"CREATE TABLE {quoteName t.kind.name} (\n    " ++ ",\n    ".intercalate lines ++ "\n)"

end Table

/-- The name and the statement of the index on the parents of a kind, which speeds up joins where
a parent may have many children. -/
def parentIndex? (d : Declaration) : Option (String × String) :=
  (d.relation.filter (!·.slot.unique)).map fun r =>
    let name := s!"idx_{d.kind.name}_{r.slot.column}"
    (name, s!"CREATE INDEX {quoteName name} ON {quoteName d.kind.name} " ++
      s!"({quoteName r.slot.column})")

/-- The name and the statement of the table of a declaration, and of its index if it has one. -/
def createTable (s : Schema) (d : Declaration) : Except SchemaError (List (String × String)) := do
  let table ← Table.ofDeclaration s d
  return (d.kind.name, table.text) :: (parentIndex? d).toList

/-- What is created for a schema, in this order. -/
def createTables (s : Schema) : Except SchemaError (List (String × String)) :=
  (s.entities.mapM (createTable s)).map List.flatten

/-- The names and statements of the tables and indexes of a schema, by name: none if a parent is not
declared. -/
def definitions (s : Schema) : NameMap String :=
  NameMap.ofList ((createTables s).toOption.getD [])

end SceneArchive.Statement
