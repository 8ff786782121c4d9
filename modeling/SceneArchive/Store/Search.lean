import SceneArchive.Store.Read
import SceneArchive.Statement.Check
import SceneArchive.Statement.Evaluation
import SceneArchive.Stats

/-!
# Searching a store

A query is compiled to a statement, and the statement is run over the tables of the store. Every
result is a georeference file; files come once each, by identifier.
-/

namespace SceneArchive

/-- The row of a record in the table of its kind: the owner's identifier in its column, and the
columns of the content. -/
def Entity.row (e : Entity) : Statement.Row where
  id := e.id
  cells :=
    (((Schema.standard.parentOf e.kind).map (·.slot.column)).bind fun column =>
      e.owner?.map fun owner => (column, Statement.Cell.integer owner)).toList ++
      (e.attributes.drop 1).map fun (name, value) => (name, .ofValue value)

namespace Store

/-- The tables of a store. -/
def tables (s : Store) : Statement.Tables := fun kind => (s.rows kind).map (·.row)

/-- The georeference files that satisfy a predicate. -/
def execute (s : Store) (p : Predicate) :
    Except IndexError (List (Stored (Owned Georeference))) := do
  let statement ← Statement.Select.ofPredicate .standard p
  statement.check.mapError .storage
  return (statement.run s.tables).filterMap fun row => s.georeferences.get? row.id

/-- The georeference files that satisfy a query. -/
def search (s : Store) (query : String) :
    Except IndexError (List (Stored (Owned Georeference))) := do
  s.execute (← Predicate.compile .standard query)

/-- The trees of the georeference files that satisfy a query. -/
def searchTrees (s : Store) (query : String) : Except IndexError (List Json) := do
  Flatten.toTrees s.source ((← s.search query).map .georeference)

end Store

/-- The summary of a searchable field. -/
structure FieldInfo where
  /-- The name as it was asked for. -/
  name : String
  kind : Kind
  type : ValueType
  stats : FieldStats
  deriving Repr

/-- A summary as a tree, its members in declared order. -/
def FieldInfo.toJson (i : FieldInfo) : Json :=
  .object
    [ ("field_name", .string i.name),
      ("entity_kind", .string i.kind.name),
      ("value_type", .string i.type.name),
      ("stats", i.stats.toJson) ]

namespace Store

/-- Whether two values stand in cells that are the same. -/
def sameCell (a b : Value) : Bool :=
  let (a, b) := (Statement.Cell.ofValue a, Statement.Cell.ofValue b)
  (a.isNull && b.isNull) || Statement.matches? a b

/-- Values, each once, in the order in which they first appear. -/
def distinctValues (values : List Value) : List Value :=
  values.foldl (fun seen v => if seen.any (sameCell v) then seen else seen ++ [v]) []

/-- The values of a column as they stand in a table. -/
def columnValues (s : Store) (kind : Kind) (column : String) : List Value :=
  (s.rows kind).map fun e =>
    ((e.attributes.find? (·.1 == column)).map (·.2)).getD .null

/-- A stored value as it is read. -/
def readValue : Value → Except IndexError Value
  | .date d => (d.readBack none).map .date
  | v => .ok v

/-- The summary of the distinct values of a searchable field. -/
def fieldInfo (s : Store) (name : String) : Except IndexError FieldInfo := do
  let field ← Catalog.standard.resolve name
  let values ← (distinctValues (s.columnValues field.kind field.name)).mapM readValue
  return ⟨name, field.kind, field.type, Stats.summarize field.type values⟩

end Store

end SceneArchive
