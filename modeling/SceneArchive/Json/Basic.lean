import SceneArchive.NameMap
import SceneArchive.Decimal.Binary64

/-!
# JSON values

Trees of null, truth values, numbers, strings, arrays and objects. Integers and floating-point
numbers are different numbers: `66` and `66.0` are two values. An object is a list of fields and is
printed in the order of the list; the reader and `Json.ofFields` give the fields in increasing
order of their names, each name once.
-/

namespace SceneArchive

/-- A number as it is written: with neither fraction nor exponent, or as a double. -/
inductive Number where
  | int (n : Int)
  | float (x : Float)
  deriving Repr

/-- A JSON value. -/
inductive Json where
  | null
  | bool (b : Bool)
  | number (n : Number)
  | string (s : String)
  | array (items : List Json)
  | object (fields : List (String × Json))
  deriving Repr, Inhabited

/-- The members of an object, by increasing name. -/
abbrev Fields := NameMap Json

namespace Json

/-- The object with the given fields; of two fields of one name the later one stays. -/
def ofFields (entries : List (String × Json)) : Json := .object (NameMap.ofList entries)

/-- The whole number. -/
def int (n : Int) : Json := .number (.int n)

/-- A floating-point number, or null in place of one that is not finite. -/
def float (x : Float) : Json := if Binary64.isFinite x then .number (.float x) else .null

/-- A string, or null. -/
def string? : Option String → Json
  | some s => .string s
  | none => .null

/-- The value of a field of an object. -/
def field? (tree : Json) (name : String) : Option Json :=
  match tree with
  | .object fields => NameMap.get? fields name
  | _ => none

end Json

end SceneArchive
