import SceneArchive.Statement.Name
import SceneArchive.Statement.Cell
import SceneArchive.Query.Predicate

/-!
# Statements for predicates

The statement that finds the georeference files of a predicate. It joins the tables of the kinds
that the predicate tests, and of their ancestors, to the table of the files, and has one clause
for each condition. `Select.text` writes it with a mark in place of every value;
`Select.parameters` gives the values in the order of the marks.
-/

namespace SceneArchive.Statement

/-- The short name that stands for the table of a kind. -/
def tableAlias : Kind → String
  | .metadataDirectory => "d"
  | .observationRecord => "o"
  | .projectionDefinition => "p"
  | .axisEntry => "a"
  | .georeferenceFile => "g"

/-- The kind of the rows that every statement gives. -/
def resultKind : Kind := .georeferenceFile

/-- The order in which tables are joined: parents before their children. -/
def joinOrder : List Kind :=
  [.metadataDirectory, .observationRecord, .projectionDefinition, .axisEntry]

/-- A table joined to those before it. -/
inductive Join where
  /-- The parents of the result rows, whose identifiers stand in `column` of the result. -/
  | parent (kind : Kind) (column : String)
  /-- The children of a joined kind, whose `column` holds the parent's identifier; a parent
  without children is joined to no row. -/
  | children (kind : Kind) (column : String) (owner : Kind)
  deriving DecidableEq, Repr

/-- A column of a joined table. -/
structure Column where
  kind : Kind
  name : String
  deriving DecidableEq, Repr

/-- A clause of the filter. -/
inductive Clause where
  /-- The clause that no row satisfies. -/
  | never
  | isNotNull (column : Column)
  /-- A test of a column of a type. -/
  | tests (column : Column) (type : ValueType) (operator : Operator) (operand : Operand)
  deriving Repr

/-- A statement. -/
structure Select where
  joins : List Join
  clauses : List Clause
  deriving Repr

/-! ## The text of a statement -/

/-- The text of a join. -/
def Join.text : Join → String
  | parent kind column =>
    s!" JOIN {quoteName kind.name} AS {tableAlias kind} ON {tableAlias kind}.id = " ++
      s!"{tableAlias resultKind}.{quoteName column}"
  | children kind column owner =>
    s!" LEFT JOIN {quoteName kind.name} AS {tableAlias kind} ON " ++
      s!"{tableAlias kind}.{quoteName column} = {tableAlias owner}.id"

/-- The text of a column. -/
def Column.text (c : Column) : String := tableAlias c.kind ++ "." ++ quoteName c.name

/-- The marks that stand for the values of an operand. -/
def marks : Operand → String
  | .scalar _ => "?"
  | .list values => "(" ++ ", ".intercalate (values.map fun _ => "?") ++ ")"

/-- The text of a clause. -/
def Clause.text : Clause → String
  | never => "0"
  | isNotNull column => column.text ++ " IS NOT NULL"
  | tests column _ operator operand =>
    column.text ++ " " ++ operator.statementText ++ " " ++ marks operand

/-- The values of a clause, in the order of its marks. -/
def Clause.parameters : Clause → List Value
  | never | isNotNull _ => []
  | tests _ _ _ operand => operand.values

/-- The text of a filter. -/
def filterText (clauses : List Clause) : String :=
  if clauses.isEmpty then "" else " WHERE " ++ " AND ".intercalate (clauses.map (·.text))

/-- The text of a statement up to its filter. -/
def Select.head (s : Select) : String :=
  let result := tableAlias resultKind
  s!"SELECT DISTINCT {result}.* FROM {quoteName resultKind.name} AS {result}" ++
    String.join (s.joins.map (·.text))

/-- The text of a statement. -/
def Select.text (s : Select) : String :=
  s.head ++ filterText s.clauses ++ s!" ORDER BY {tableAlias resultKind}.id"

/-- The values of a statement, in the order of its marks. -/
def Select.parameters (s : Select) : List Value := s.clauses.flatMap (·.parameters)

/-! ## The statement of a predicate -/

/-- The kinds whose tables a predicate needs: those that it tests and all their ancestors. -/
def neededKinds (schema : Schema) (p : Predicate) : List Kind :=
  (p.kinds.filter (· != resultKind)).flatMap fun kind =>
    kind :: schema.ancestors (schema.entities.length + 1) kind

/-- How the table of a kind is joined. -/
def joinOf (schema : Schema) (needed : List Kind) (kind : Kind) : Except IndexError Join :=
  match (schema.parentOf resultKind).filter (·.parent == kind) with
  | some relation => .ok (.parent kind relation.slot.column)
  | none =>
    match schema.parentOf kind with
    | none => .error (.schema (.undeclaredKind kind))
    | some relation =>
      if needed.contains relation.parent then
        .ok (.children kind relation.slot.column relation.parent)
      else .error (.argument (.notJoined kind))

/-- The clause of a condition. A test of membership in no list at all needs no mark: nothing is a
member, and every value but null is none. -/
def Clause.ofCondition (c : BoundCondition) : Clause :=
  let column : Column := ⟨c.field.kind, c.field.name⟩
  match c.operator, c.operand with
  | .membership negated, .list [] => if negated then .isNotNull column else .never
  | operator, operand => .tests column c.field.type operator operand

/-- The statement of a predicate. -/
def Select.ofPredicate (schema : Schema) (p : Predicate) : Except IndexError Select := do
  let needed := neededKinds schema p
  let joins ← (joinOrder.filter needed.contains).mapM (joinOf schema needed)
  return ⟨joins, p.conditions.map Clause.ofCondition⟩

end SceneArchive.Statement
