/-!
# Kinds of records

The five kinds of records that an archive index holds, and references to single records.
-/

namespace SceneArchive

/-- A kind of record. -/
inductive Kind where
  | metadataDirectory
  | observationRecord
  | projectionDefinition
  | axisEntry
  | georeferenceFile
  deriving DecidableEq, Repr, Inhabited

namespace Kind

/-- Every kind, in declaration order. -/
def all : List Kind :=
  [metadataDirectory, observationRecord, projectionDefinition, axisEntry, georeferenceFile]

/-- The name of a kind, which is also the name of its table. -/
def name : Kind → String
  | metadataDirectory => "metadata_directory"
  | observationRecord => "observation_record"
  | projectionDefinition => "projection_definition"
  | axisEntry => "axis_entry"
  | georeferenceFile => "georeference_file"

/-- The place of a kind in declaration order. -/
def index : Kind → Nat
  | metadataDirectory => 0
  | observationRecord => 1
  | projectionDefinition => 2
  | axisEntry => 3
  | georeferenceFile => 4

/-- The kind of a name. -/
def ofName? (name : String) : Option Kind := all.find? (·.name == name)

theorem mem_all (k : Kind) : k ∈ all := by cases k <;> decide

end Kind

/-- A reference to one record. Identifiers may be any integers; stored records count from one. -/
structure Ref where
  kind : Kind
  id : Int
  deriving DecidableEq, Repr, Inhabited

namespace Ref

/-- A reference in the form `kind/id`. -/
def text (r : Ref) : String := r.kind.name ++ "/" ++ toString r.id

end Ref

end SceneArchive
