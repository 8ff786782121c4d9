import SceneArchive.Query.Operator

/-!
# Conditions

A condition of a query as it is written: a field, an operator and the text of the operand. What
the field is and what the operand means is not decided here.
-/

namespace SceneArchive

/-- A field with or without the name of its kind. -/
structure FieldPath where
  qualifier : Option String
  name : String
  deriving DecidableEq, Repr

/-- A field as it is written. -/
def FieldPath.text (f : FieldPath) : String :=
  match f.qualifier with
  | some kind => kind ++ "." ++ f.name
  | none => f.name

/-- The text of an operand, the quotes of it kept. -/
inductive RawOperand where
  | scalar (text : String)
  | list (items : List String)
  deriving DecidableEq, Repr

/-- One condition. -/
structure Condition where
  /-- The condition as written, without blanks around it. -/
  segment : String
  field : FieldPath
  operator : Operator
  operand : RawOperand
  deriving DecidableEq, Repr

end SceneArchive
