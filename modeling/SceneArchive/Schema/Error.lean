import SceneArchive.Kind

/-!
# Faults of a registry

What can be wrong with the declarations and the wiring of record kinds.
-/

namespace SceneArchive

/-- A fault found while a registry is built, or a look-up of a kind that it does not hold. -/
inductive SchemaError where
  | duplicateKind (kind : Kind)
  | duplicateField (kind : Kind) (field : String)
  | reservedField (kind : Kind) (field : String)
  | unwiredRelation (kind : Kind) (field : String)
  | missingSlot (kind : Kind)
  | unknownParent (kind parent : Kind)
  | duplicateWiring (kind : Kind)
  | cycle (kind : Kind)
  | undeclaredKind (kind : Kind)
  deriving DecidableEq, Repr

/-- The text of a fault. -/
def SchemaError.message : SchemaError → String
  | duplicateKind kind => s!"entity kind '{kind.name}' declared twice"
  | duplicateField kind field => s!"field '{field}' declared twice on '{kind.name}'"
  | reservedField kind field => s!"field '{field}' on '{kind.name}' collides with a reserved column"
  | unwiredRelation kind field => s!"relationship '{field}' on '{kind.name}' was never wired"
  | missingSlot kind => s!"'{kind.name}' declares no relationship slot to wire"
  | unknownParent kind parent => s!"'{kind.name}' is wired to undeclared parent '{parent.name}'"
  | duplicateWiring kind => s!"'{kind.name}' is wired more than once"
  | cycle kind => s!"ownership of '{kind.name}' is cyclic"
  | undeclaredKind kind => s!"entity kind '{kind.name}' is not declared"

end SceneArchive
