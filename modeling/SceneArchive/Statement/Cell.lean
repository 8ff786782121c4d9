import SceneArchive.Kind
import SceneArchive.Value

/-!
# Stored cells

The form in which a value stands in a table or is bound to a statement: null, an integer, a
double or text. Dates are text, the value that is not a number is null, and there is one zero.

* `Cell.order?` compares numbers by their exact values and text by code points; every number
  comes before every text, and null compares with nothing.
-/

namespace SceneArchive.Statement

/-- A cell of a table. -/
inductive Cell where
  | null
  | integer (n : Int)
  | real (x : Float)
  | text (s : String)
  deriving Repr

namespace Cell

/-- The cell of a value. -/
def ofValue : Value → Cell
  | .null => null
  | .integer n => integer n
  | .float x => if Binary64.isNaN x then null else real (Binary64.withoutNegativeZero x)
  | .text s => text s
  | .date d => text d.text

/-- True for null. -/
def isNull : Cell → Bool
  | null => true
  | _ => false

/-- The exact value of a number, in units of `2 ^ (-1074)`. -/
def units? : Cell → Option Int
  | integer n => some (n * Binary64.unitsPerOne)
  | real x => some (Binary64.scaled x)
  | _ => none

/-- The order of two cells, neither of them null. -/
def order? : Cell → Cell → Option Ordering
  | null, _ | _, null => none
  | text a, text b => some (compare a b)
  | text _, _ => some .gt
  | _, text _ => some .lt
  | a, b => do some (compare (← a.units?) (← b.units?))

end Cell

/-- A row of a table: its identifier and its other cells by column. -/
structure Row where
  id : Int
  cells : List (String × Cell)
  deriving Repr

/-- The cell of a column; null where there is no such column. -/
def Row.cell (row : Row) (column : String) : Cell :=
  match row.cells.find? (·.1 == column) with
  | some (_, cell) => cell
  | none => .null

/-- The rows of each kind, in the order in which they were stored. -/
abbrev Tables := Kind → List Row

end SceneArchive.Statement
