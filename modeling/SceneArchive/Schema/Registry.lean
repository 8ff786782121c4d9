import SceneArchive.Schema.Error
import SceneArchive.Value

/-!
# Registries of record kinds

A registry declares kinds of records with their typed fields, and wires the kinds that belong to
a parent. `Registry.build` checks it and gives the `Schema` that every other part works with.

The checks run in this order, and the first fault found is reported: each declaration by itself
(a kind declared before, a field with a reserved name, a field declared before), then each wire,
then the slots left without one, then cycles.
-/

namespace SceneArchive

/-- A typed field of a kind. -/
structure Field where
  name : String
  type : ValueType
  nullable : Bool
  deriving DecidableEq, Repr

namespace Field

/-- A field that every record has a value for. -/
def required (name : String) (type : ValueType) : Field := ⟨name, type, false⟩

/-- A date that may be missing. -/
def optionalDate (name : String) : Field := ⟨name, .date, true⟩

/-- A field as registries declare it: dates may be missing, all else is required. -/
def declared (name : String) (type : ValueType) : Field := ⟨name, type, type == .date⟩

end Field

/-- The place that a kind keeps for its parent. -/
structure Slot where
  /-- The name under which a parent appears in a tree. -/
  field : String
  /-- The column that holds the parent's identifier. -/
  column : String
  /-- Whether a parent has at most one child of the kind. -/
  unique : Bool
  deriving DecidableEq, Repr

/-- The declaration of a kind. -/
structure Descriptor where
  kind : Kind
  fields : List Field
  slot : Option Slot := none
  /-- The field whose values are distinct across records. -/
  uniqueKey : Option String := none
  deriving DecidableEq, Repr

namespace Descriptor

/-- Adds the slot of a kind of which a parent may have many. -/
def belongsTo (d : Descriptor) (field column : String) : Descriptor :=
  { d with slot := some ⟨field, column, false⟩ }

/-- Adds the slot of a kind of which a parent has at most one. -/
def belongsToUnique (d : Descriptor) (field column : String) : Descriptor :=
  { d with slot := some ⟨field, column, true⟩ }

/-- Makes a field distinct across records. -/
def unique (d : Descriptor) (field : String) : Descriptor := { d with uniqueKey := some field }

end Descriptor

/-- The columns of every table, which no field may be named after. -/
def auditColumns : List String := ["id", "created_at", "updated_at"]

/-- A child kind and the parent that its slot is wired to. -/
structure Wire where
  child : Kind
  parent : Kind
  deriving DecidableEq, Repr

/-- Declarations and wires, in the order in which they were made. -/
structure Registry where
  descriptors : List Descriptor
  wiring : List Wire
  deriving Repr

/-- A slot with the parent that it is wired to. -/
structure Relation where
  slot : Slot
  parent : Kind
  deriving DecidableEq, Repr

/-- A kind of a schema. -/
structure Declaration where
  kind : Kind
  fields : List Field
  relation : Option Relation
  uniqueKey : Option String
  deriving DecidableEq, Repr

/-- The field of a name. -/
def Declaration.field? (d : Declaration) (name : String) : Option Field :=
  d.fields.find? (·.name == name)

/-- The parent of a kind. -/
def Declaration.parent? (d : Declaration) : Option Kind := d.relation.map (·.parent)

/-- A checked registry. -/
structure Schema where
  entities : List Declaration
  deriving DecidableEq, Repr

namespace Schema

/-- The declaration of a kind, if it is declared. -/
def declaration? (s : Schema) (kind : Kind) : Option Declaration :=
  s.entities.find? (·.kind == kind)

/-- The declaration of a kind. -/
def declaration (s : Schema) (kind : Kind) : Except SchemaError Declaration :=
  match s.declaration? kind with
  | some d => .ok d
  | none => .error (.undeclaredKind kind)

/-- The relation of a kind to its parent. -/
def parentOf (s : Schema) (kind : Kind) : Option Relation :=
  (s.declaration? kind).bind (·.relation)

/-- The kinds whose parent is the given one, in declared order. -/
def childrenOf (s : Schema) (kind : Kind) : List Declaration :=
  s.entities.filter (·.parent? == some kind)

/-- The parents that a walk from a kind meets, at most `steps` of them. -/
def ancestors (s : Schema) : Nat → Kind → List Kind
  | 0, _ => []
  | steps + 1, kind =>
    match s.parentOf kind with
    | some relation => relation.parent :: s.ancestors steps relation.parent
    | none => []

/-- Whether a walk to the parents returns to a kind already met. A walk without repetition meets
each declared kind once at most, and one undeclared kind at its end. -/
def isCyclic (s : Schema) (kind : Kind) : Bool :=
  !decide (kind :: s.ancestors (s.entities.length + 1) kind).Nodup

end Schema

namespace Registry

/-- Whether a name is taken by an audit column or by the slot. -/
def isReserved (d : Descriptor) (name : String) : Bool :=
  auditColumns.contains name || d.slot.any fun slot => slot.field == name || slot.column == name

/-- Checks the fields of a declaration behind the names already met. -/
def checkFields (d : Descriptor) : List String → List Field → Except SchemaError Unit
  | _, [] => .ok ()
  | names, field :: rest =>
    if isReserved d field.name then .error (.reservedField d.kind field.name)
    else if names.contains field.name then .error (.duplicateField d.kind field.name)
    else checkFields d (field.name :: names) rest

/-- Checks the declarations behind the kinds already met. -/
def checkDescriptors : List Kind → List Descriptor → Except SchemaError Unit
  | _, [] => .ok ()
  | kinds, d :: rest =>
    if kinds.contains d.kind then .error (.duplicateKind d.kind)
    else do
      checkFields d [] d.fields
      checkDescriptors (d.kind :: kinds) rest

/-- Checks one wire behind the children already wired. -/
def checkWire (descriptors : List Descriptor) (wired : List Kind) (wire : Wire) :
    Except SchemaError Unit :=
  if !descriptors.any (·.kind == wire.parent) then .error (.unknownParent wire.child wire.parent)
  else
    match descriptors.find? (·.kind == wire.child) with
    | none => .error (.undeclaredKind wire.child)
    | some d =>
      if d.slot.isNone then .error (.missingSlot wire.child)
      else if wired.contains wire.child then .error (.duplicateWiring wire.child)
      else .ok ()

/-- Checks the wires behind the children already wired. -/
def checkWiring (descriptors : List Descriptor) :
    List Kind → List Wire → Except SchemaError Unit
  | _, [] => .ok ()
  | wired, wire :: rest => do
    checkWire descriptors wired wire
    checkWiring descriptors (wire.child :: wired) rest

/-- The parent that a child is wired to. -/
def parent? (r : Registry) (child : Kind) : Option Kind :=
  (r.wiring.find? (·.child == child)).map (·.parent)

/-- Refuses the first slot without a wire. -/
def checkSlots (r : Registry) : List Descriptor → Except SchemaError Unit
  | [] => .ok ()
  | d :: rest =>
    match d.slot, r.parent? d.kind with
    | some slot, none => .error (.unwiredRelation d.kind slot.field)
    | _, _ => checkSlots r rest

/-- The kinds with their slots wired. -/
def schema (r : Registry) : Schema where
  entities := r.descriptors.map fun d =>
    { kind := d.kind
      fields := d.fields
      relation := d.slot.bind fun slot => (r.parent? d.kind).map (Relation.mk slot)
      uniqueKey := d.uniqueKey }

/-- Refuses the first kind that is its own ancestor or descends from such a kind. -/
def checkAcyclic (s : Schema) : List Declaration → Except SchemaError Unit
  | [] => .ok ()
  | d :: rest => if s.isCyclic d.kind then .error (.cycle d.kind) else checkAcyclic s rest

/-- The schema of a registry without faults. -/
def build (r : Registry) : Except SchemaError Schema := do
  checkDescriptors [] r.descriptors
  checkWiring r.descriptors [] r.wiring
  checkSlots r r.descriptors
  checkAcyclic r.schema r.schema.entities
  return r.schema

end Registry

end SceneArchive
