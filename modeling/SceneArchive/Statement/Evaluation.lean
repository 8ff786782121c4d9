import SceneArchive.Statement.Affinity
import SceneArchive.Statement.Select

/-!
# What statements mean

The rows that a statement gives over the tables of a store, by the usual semantics of relational
statements: each join extends the rows found so far, a filter keeps the rows for which every
clause is true rather than false or unknown, and of the result each row is given once, in the
order of identifiers.
-/

namespace SceneArchive.Statement

/-- The rows joined so far. A kind without a match is bound to no row. -/
abbrev Binding := List (Kind × Option Row)

/-- The row that a kind is bound to. -/
def boundRow (b : Binding) (kind : Kind) : Option Row :=
  ((b.find? (·.1 == kind)).map (·.2)).join

/-- The cell of a column; null where the kind is bound to no row. -/
def boundCell (b : Binding) (column : Column) : Cell :=
  match boundRow b column.kind with
  | some row => row.cell column.name
  | none => .null

/-- The identifier of the row that a kind is bound to. -/
def boundId (b : Binding) (kind : Kind) : Cell :=
  match boundRow b kind with
  | some row => .integer row.id
  | none => .null

/-- Whether two cells are equal, neither of them null. -/
def matches? (a b : Cell) : Bool := a.order? b == some .eq

/-- The rows that a binding is extended to by a join. -/
def Join.extend (tables : Tables) (b : Binding) : Join → List Binding
  | parent kind column =>
    ((tables kind).filter fun row =>
      matches? (.integer row.id) (boundCell b ⟨resultKind, column⟩)).map
        fun row => (kind, some row) :: b
  | children kind column owner =>
    match (tables kind).filter fun row => matches? (row.cell column) (boundId b owner) with
    | [] => [(kind, none) :: b]
    | rows => rows.map fun row => (kind, some row) :: b

/-- Every binding that a list of joins makes of one binding. -/
def extendAll (tables : Tables) : List Join → Binding → List Binding
  | [], b => [b]
  | join :: rest, b => (join.extend tables b).flatMap (extendAll tables rest)

/-- Whether a cell stands in a list: unknown for null, and unknown where only a null of the list
could be equal to it. -/
def memberTruth (cell : Cell) (cells : List Cell) : Option Bool :=
  if cell.isNull then none
  else if cells.any (matches? cell) then some true
  else if cells.any (·.isNull) then none
  else some false

/-- The truth of a test of a cell. Several values are no value to compare with. -/
def testTruth (cell : Cell) : Operator → List Cell → Option Bool
  | .membership negated, cells => (memberTruth cell cells).map (xor negated)
  | .comparison comparison, [other] => (cell.order? other).map comparison.holds
  | .comparison _, _ => none

/-- The truth of a clause, unknown being `none`. -/
def Clause.truth (b : Binding) : Clause → Option Bool
  | never => some false
  | isNotNull column => some !(boundCell b column).isNull
  | tests column type operator operand =>
    testTruth (boundCell b column) operator
      (operand.values.map fun v => (Cell.ofValue v).beside type)

/-- Whether every clause is true. -/
def satisfies (clauses : List Clause) (b : Binding) : Bool :=
  clauses.all fun clause => clause.truth b == some true

/-- Puts a row at its place among rows of increasing identifiers, unless it is there. -/
def insertRow (row : Row) : List Row → List Row
  | [] => [row]
  | other :: rest =>
    if row.id < other.id then row :: other :: rest
    else if row.id = other.id then other :: rest
    else other :: insertRow row rest

/-- Each row once, by increasing identifier. The identifier is one of the columns of the result,
so two rows of a table are equal exactly if their identifiers are. -/
def distinctById (rows : List Row) : List Row :=
  rows.foldl (fun sorted row => insertRow row sorted) []

/-- The result rows of a statement before duplicates are removed. -/
def Select.candidates (s : Select) (tables : Tables) : List Row :=
  (tables resultKind).flatMap fun row =>
    ((extendAll tables s.joins [(resultKind, some row)]).filter (satisfies s.clauses)).map
      fun _ => row

/-- The result of a statement. -/
def Select.run (s : Select) (tables : Tables) : List Row := distinctById (s.candidates tables)

end SceneArchive.Statement
