import SceneArchive.Query.Parse
import SceneArchive.Schema.Catalog
import SceneArchive.Coercion

/-!
# Predicates

A predicate is a query with its fields found in a catalog and its operands coerced to the types
of the fields.
-/

namespace SceneArchive

/-- The values of an operand. -/
inductive Operand where
  | scalar (value : Value)
  | list (values : List Value)
  deriving Repr

/-- The values in order. -/
def Operand.values : Operand → List Value
  | scalar value => [value]
  | list values => values

/-- A condition on a field of the catalog. -/
structure BoundCondition where
  field : FieldSpec
  operator : Operator
  operand : Operand
  deriving Repr

/-- A conjunction of conditions, in written order. -/
structure Predicate where
  conditions : List BoundCondition
  deriving Repr

namespace Predicate

/-- The kinds whose fields are tested, in declaration order. -/
def kinds (p : Predicate) : List Kind :=
  Kind.all.filter fun kind => p.conditions.any (·.field.kind == kind)

/-- The values of an operand for a field. -/
def bindOperand (field : FieldSpec) : RawOperand → Except IndexError Operand
  | .scalar raw => return .scalar (← Coercion.ofText field.name field.type raw)
  | .list items => return .list (← items.mapM (Coercion.ofText field.name field.type))

/-- A condition with its field found and its operand coerced. -/
def bind (catalog : Catalog) (condition : Condition) : Except IndexError BoundCondition := do
  let field ← catalog.resolve condition.field.text
  let operand ← bindOperand field condition.operand
  return ⟨field, condition.operator, operand⟩

/-- The predicate of a query. The whole query is read before its first condition is bound. -/
def compile (catalog : Catalog) (query : String) : Except IndexError Predicate := do
  let conditions ← Query.parse query
  return ⟨← conditions.mapM (bind catalog)⟩

end Predicate

end SceneArchive
