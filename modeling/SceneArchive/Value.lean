import SceneArchive.Calendar
import SceneArchive.Json.Printer

/-!
# Typed values

The scalar values that records hold and queries compare with, and the four types a field may be
declared with.
-/

namespace SceneArchive

/-- The declared type of a field. -/
inductive ValueType where
  | text
  | integer
  | float
  | date
  deriving DecidableEq, Repr

namespace ValueType

/-- The name of a type. -/
def name : ValueType → String
  | text => "text"
  | integer => "integer"
  | float => "float"
  | date => "date"

/-- True for the types of numbers. -/
def isNumeric : ValueType → Bool
  | integer | float => true
  | text | date => false

/-- The type of the column that stores the values; dates are stored as text. -/
def columnType : ValueType → String
  | text | date => "TEXT"
  | integer => "INTEGER"
  | float => "REAL"

/-- The type of a name. -/
def ofName? (name : String) : Option ValueType :=
  [text, integer, float, date].find? (·.name == name)

end ValueType

/-- A scalar value. -/
inductive Value where
  | null
  | integer (n : Int)
  | float (x : Float)
  | text (s : String)
  | date (d : Date)
  deriving Repr, Inhabited

namespace Value

/-- True for the missing value. -/
def isNull : Value → Bool
  | null => true
  | _ => false

/-- The type of a value that is not missing. -/
def type? : Value → Option ValueType
  | null => none
  | integer _ => some .integer
  | float _ => some .float
  | text _ => some .text
  | date _ => some .date

/-- A number as a double. -/
def toFloat? : Value → Option Float
  | integer n => some (Binary64.ofInt n)
  | float x => some x
  | _ => none

/-- The value as it is shown to a reader. -/
def display : Value → String
  | null => "null"
  | integer n => toString n
  | float x => Decimal.Layout.plain.text x
  | text s => s
  | date d => d.text

/-- The value in a tree. A double that is not finite has no place there and becomes null. -/
def toJson : Value → Json
  | null => .null
  | integer n => .int n
  | float x => .float x
  | text s => .string s
  | date d => .string d.text

/-- The value of an optional text. -/
def ofText? : Option String → Value
  | some s => text s
  | none => null

/-- The value of an optional date. -/
def ofDate? : Option Date → Value
  | some d => date d
  | none => null

end Value

end SceneArchive
