import SceneArchive.Archive.Entity
import SceneArchive.Error

/-!
# The store

A store has one table for each kind of record. Identifiers count up from one in every table; a
table remembers the last one given out, which may be that of no record.
-/

namespace SceneArchive

/-- The records of one kind, in the order in which they were stored. -/
structure RecordTable (α : Type) where
  lastId : Int
  rows : List (Stored α)
  deriving Repr

namespace RecordTable

variable {α : Type}

/-- The table without records. -/
def empty : RecordTable α := ⟨0, []⟩

/-- Adds a record under the next identifier. -/
def insert (t : RecordTable α) (now : String) (content : α) : Stored α × RecordTable α :=
  let record : Stored α := ⟨t.lastId + 1, now, now, content⟩
  (record, ⟨t.lastId + 1, t.rows ++ [record]⟩)

/-- Gives out the next identifier to no record. -/
def skipId (t : RecordTable α) : RecordTable α := { t with lastId := t.lastId + 1 }

/-- The record of an identifier. -/
def get? (t : RecordTable α) (id : Int) : Option (Stored α) := t.rows.find? (·.id == id)

/-- The number of records. -/
def count (t : RecordTable α) : Nat := t.rows.length

end RecordTable

/-- The tables of all kinds. -/
structure Store where
  directories : RecordTable Directory := .empty
  observations : RecordTable (Owned Observation) := .empty
  projections : RecordTable (Owned Projection) := .empty
  axes : RecordTable (Owned Axis) := .empty
  georeferences : RecordTable (Owned Georeference) := .empty
  deriving Repr

namespace Store

/-- The store without records. -/
def empty : Store := {}

/-- The directory of a token. -/
def directoryOfToken? (s : Store) (token : String) : Option (Stored Directory) :=
  s.directories.rows.find? (·.content.token == token)

/-- The projection of a directory. -/
def projectionOf? (s : Store) (directory : Int) : Option (Stored (Owned Projection)) :=
  s.projections.rows.find? (·.content.owner == directory)

/-- The number of records of a kind. -/
def count (s : Store) : Kind → Nat
  | .metadataDirectory => s.directories.count
  | .observationRecord => s.observations.count
  | .projectionDefinition => s.projections.count
  | .axisEntry => s.axes.count
  | .georeferenceFile => s.georeferences.count

/-- The numbers of records in the order of the kinds. -/
def counts (s : Store) : List Nat := Kind.all.map s.count

/-- The last identifiers given out, in the order of the kinds. -/
def lastIds (s : Store) : List Int :=
  [s.directories.lastId, s.observations.lastId, s.projections.lastId, s.axes.lastId,
    s.georeferences.lastId]

/-- The records of a kind, as they stand in the table. -/
def rows (s : Store) : Kind → List Entity
  | .metadataDirectory => s.directories.rows.map .directory
  | .observationRecord => s.observations.rows.map .observation
  | .projectionDefinition => s.projections.rows.map .projection
  | .axisEntry => s.axes.rows.map .axis
  | .georeferenceFile => s.georeferences.rows.map .georeference

end Store

/-- An action on a store. What an action has stored before it fails stays. -/
abbrev StoreM (α : Type) := ExceptT IndexError (StateM Store) α

/-- The outcome of an action on a store. -/
def StoreM.outcome {α : Type} (action : StoreM α) (s : Store) : Except IndexError α × Store :=
  action.run s

/-- The result of a computation that does not touch the store. -/
def StoreM.ofExcept {α : Type} (x : Except IndexError α) : StoreM α := ExceptT.mk (pure x)

end SceneArchive
