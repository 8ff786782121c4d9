import SceneArchive.Schema.Standard
import SceneArchive.Error

/-!
# The catalog of searchable fields

A query may name every declared field, by its own name where one kind alone declares it and by
the name of the kind and its own, joined by a point, in any case. Identifiers, times and the
columns of parents are not searchable.
-/

namespace SceneArchive

/-- A searchable field and the kind that declares it. -/
structure FieldSpec where
  kind : Kind
  name : String
  type : ValueType
  deriving DecidableEq, Repr

/-- The name of the kind and the name of the field, joined by a point. -/
def FieldSpec.qualifiedName (f : FieldSpec) : String := f.kind.name ++ "." ++ f.name

/-- The text before the first point and the text behind it, if there is a point. -/
def splitAtPoint (s : String) : Option (String × String) :=
  match s.toList.span (· != '.') with
  | (before, '.' :: after) => some (String.ofList before, String.ofList after)
  | _ => none

/-- What a name without a kind stands for: the one field of this name, or each of several. -/
inductive Resolution where
  | unique (field : FieldSpec)
  | ambiguous (fields : List FieldSpec)
  deriving Repr

namespace Resolution

/-- What a name stands for when one more field has it. -/
def adding (field : FieldSpec) : Option Resolution → Resolution
  | none => unique field
  | some (unique first) => ambiguous [first, field]
  | some (ambiguous fields) => ambiguous (fields ++ [field])

/-- The names under which a reader finds the fields of a name: this name if it stands for one field,
else their qualified names. -/
def entries (name : String) : Resolution → List (String × FieldSpec)
  | unique field => [(name, field)]
  | ambiguous fields => fields.map fun field => (field.qualifiedName, field)

end Resolution

/-- The searchable fields, in declared order. -/
structure Catalog where
  fields : List FieldSpec
  deriving Repr

namespace Catalog

/-- Whether a field of a declaration may be searched. -/
def isSearchable (d : Declaration) (f : Field) : Bool :=
  !auditColumns.contains f.name &&
    !d.relation.any fun relation => relation.slot.field == f.name || relation.slot.column == f.name

/-- The searchable fields of a schema. -/
def ofSchema (s : Schema) : Catalog where
  fields := s.entities.flatMap fun d =>
    (d.fields.filter (isSearchable d)).map fun f => ⟨d.kind, f.name, f.type⟩

/-- The catalog of the standard schema. -/
def standard : Catalog := ofSchema .standard

/-- Adds a field to what the names stand for. -/
def addBare (bare : NameMap Resolution) (field : FieldSpec) : NameMap Resolution :=
  NameMap.insert field.name (.adding field (NameMap.get? bare field.name)) bare

/-- What the names of the fields stand for without a kind. -/
def bare (c : Catalog) : NameMap Resolution := c.fields.foldl addBare []

/-- The field of a name that one kind alone declares. -/
def resolveBare (c : Catalog) (name : String) : Except IndexError FieldSpec :=
  match NameMap.get? c.bare name with
  | some (.unique field) => .ok field
  | some (.ambiguous fields) => .error (.ambiguousField name (fields.map (·.qualifiedName)))
  | none => .error (.unknownField name)

/-- The field of a name with or without its kind. -/
def resolve (c : Catalog) (name : String) : Except IndexError FieldSpec :=
  match splitAtPoint name with
  | some (kind, field) =>
    match c.fields.find? fun f => f.kind.name == kind && f.name == field with
    | some field => .ok field
    | none => .error (.unknownField name)
  | none => c.resolveBare name

/-- Each field under its own name if one kind alone declares it, else under its qualified name. -/
def searchable (c : Catalog) : NameMap FieldSpec :=
  NameMap.ofList (c.bare.flatMap fun (name, resolution) => resolution.entries name)

/-- The names of the fields of each kind that has any. -/
def byKind (c : Catalog) : NameMap (List String) :=
  NameMap.ofList ((Kind.all.map fun kind =>
    (kind.name, (c.fields.filter (·.kind == kind)).map (·.name))).filter (!·.2.isEmpty))

end Catalog

end SceneArchive
