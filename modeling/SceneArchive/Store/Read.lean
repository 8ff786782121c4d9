import SceneArchive.Store.ReadBack
import SceneArchive.Flatten

/-!
# Reading records

Single records, the records that belong to one, and a store as a source of records to flatten.
-/

namespace SceneArchive.Store

/-- The record of a reference, if there is one. -/
def get? (s : Store) (r : Ref) : Except IndexError (Option Entity) :=
  match (s.rows r.kind).find? (·.id == r.id) with
  | none => .ok none
  | some e => e.readBack.map some

/-- The record of a reference; it has to be there. -/
def load (s : Store) (r : Ref) : Except IndexError Entity := do
  match ← s.get? r with
  | some e => return e
  | none => throw (.argument (.missingRecord r))

/-- The records of a kind that belong to a record, by identifier. The kind has to be one that
belongs to the kind of the record. -/
def children (s : Store) (parent : Ref) (kind : Kind) : Except IndexError (List Entity) :=
  if (Schema.standard.parentOf kind).any (·.parent == parent.kind) then
    ((s.rows kind).filter (·.owner? == some parent.id)).mapM Entity.readBack
  else .error (.argument (.notOwned kind parent.kind))

/-- The references of all records. -/
def refs (s : Store) : List Ref := Kind.all.flatMap fun kind => (s.rows kind).map (·.ref)

/-- The records of a store to flatten. -/
def source (s : Store) : Source where
  schema := .standard
  refs := s.refs
  load := s.load
  children := s.children

end SceneArchive.Store
