import SceneArchive.Archive.Content
import SceneArchive.Kind

/-!
# Records

A record is content with an identifier and two times; every kind but directories also has an
owner. `Entity` is a record of any kind.
-/

namespace SceneArchive

/-- Content with the identifier and the times of its record. -/
structure Stored (α : Type) where
  id : Int
  created : String
  updated : String
  content : α
  deriving DecidableEq, Repr

/-- Content that belongs to a record of another kind, given by its identifier. -/
structure Owned (α : Type) where
  owner : Int
  content : α
  deriving DecidableEq, Repr

/-- A record. -/
inductive Entity where
  | directory (record : Stored Directory)
  | observation (record : Stored (Owned Observation))
  | projection (record : Stored (Owned Projection))
  | axis (record : Stored (Owned Axis))
  | georeference (record : Stored (Owned Georeference))
  deriving DecidableEq, Repr

/-- The kind that owns the records of a kind. -/
def Kind.owner? : Kind → Option Kind
  | metadataDirectory => none
  | axisEntry => some projectionDefinition
  | observationRecord | projectionDefinition | georeferenceFile => some metadataDirectory

/-- Columns with the identifier and the times before them. -/
def Stored.attributes {α : Type} (columns : α → Columns) (r : Stored α) : Columns :=
  ("id", .integer r.id) :: ("created_at", .text r.created) :: ("updated_at", .text r.updated) ::
    columns r.content

namespace Entity

/-- The kind of a record. -/
def kind : Entity → Kind
  | directory _ => .metadataDirectory
  | observation _ => .observationRecord
  | projection _ => .projectionDefinition
  | axis _ => .axisEntry
  | georeference _ => .georeferenceFile

/-- The identifier of a record. -/
def id : Entity → Int
  | directory r => r.id
  | observation r => r.id
  | projection r => r.id
  | axis r => r.id
  | georeference r => r.id

/-- The reference to a record. -/
def ref (e : Entity) : Ref := ⟨e.kind, e.id⟩

/-- The identifier of the owner of a record. -/
def owner? : Entity → Option Int
  | directory _ => none
  | observation r => some r.content.owner
  | projection r => some r.content.owner
  | axis r => some r.content.owner
  | georeference r => some r.content.owner

/-- The record that owns a record. -/
def parent? (e : Entity) : Option Ref := do
  some ⟨← e.kind.owner?, ← e.owner?⟩

/-- The attributes of a record in declared order, its identifier and times first. The column of
the owner is not among them. -/
def attributes : Entity → Columns
  | directory r => r.attributes Directory.columns
  | observation r => r.attributes fun o => o.content.columns
  | projection r => r.attributes fun p => p.content.columns
  | axis r => r.attributes fun a => a.content.columns
  | georeference r => r.attributes fun g => g.content.columns

/-- The attributes of a record as the fields of a tree. -/
def fields (e : Entity) : Fields :=
  NameMap.ofList (e.attributes.map fun (name, value) => (name, value.toJson))

end Entity

end SceneArchive
