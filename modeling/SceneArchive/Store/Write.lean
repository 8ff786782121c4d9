import SceneArchive.Store.ReadBack
import SceneArchive.Manifest.Validation

/-!
# Storing records

Every action validates what it is given before it stores anything, then finds the owner, then
stores. An owner is named by its identifier or, for directories, by a token; a token without a
directory gets one.

* A directory that is asked for again keeps its path and uses up an identifier.
* A projection is stored together with its axes.
-/

namespace SceneArchive

/-- The directory that a record belongs to. -/
inductive ParentRef where
  /-- A stored directory. -/
  | resolved (id : Int)
  /-- The directory of a token, created with the path if there is none. -/
  | named (token path : String)
  deriving DecidableEq, Repr

namespace Store

/-- The directory of a token, created with a path if there is none. The path of a directory that
is there stays. -/
def getOrCreateDirectory (now token path : String) : StoreM (Stored Directory) := do
  if Text.allBlank token then
    throw (.value "date_str" .emptyToken)
  let s ← get
  match s.directoryOfToken? token with
  | some directory =>
    set { s with directories := s.directories.skipId }
    return directory
  | none =>
    let (directory, table) := s.directories.insert now ⟨token, path⟩
    set { s with directories := table }
    return directory

/-- The identifier of the directory of a reference. -/
def resolveDirectory (now : String) : ParentRef → StoreM Int
  | .named token path => do return (← getOrCreateDirectory now token path).id
  | .resolved id => do
    match (← get).directories.get? id with
    | some _ => return id
    | none => throw (.value "directory" (.noDirectory id))

/-- Stores a row of an attribute table. -/
def storeObservation (now : String) (parent : ParentRef) (record : RawRecord) :
    StoreM (Stored (Owned Observation)) := do
  let new ← StoreM.ofExcept (Observation.ofRecord record)
  let directory ← resolveDirectory now parent
  let s ← get
  let (stored, table) := s.observations.insert now ⟨directory, new.storedForm⟩
  set { s with observations := table }
  StoreM.ofExcept (readObservation stored)

/-- Stores axes of a projection in order. -/
def insertAxes (now : String) (projection : Int) : List Axis → StoreM (List (Stored (Owned Axis)))
  | [] => return []
  | axis :: rest => do
    let s ← get
    let (stored, table) := s.axes.insert now ⟨projection, axis.storedForm⟩
    set { s with axes := table }
    return stored :: (← insertAxes now projection rest)

/-- Stores a projection and its axes. A directory has one projection at most. -/
def storeProjection (now : String) (parent : ParentRef) (description : ProjectionDescription) :
    StoreM (Stored (Owned Projection) × List (Stored (Owned Axis))) := do
  let new ← StoreM.ofExcept (ProjectionWithAxes.ofDescription description)
  let directory ← resolveDirectory now parent
  let s ← get
  if let some existing := s.projectionOf? directory then
    throw (.value "projection" (.projectionExists directory existing.id))
  let (stored, table) := s.projections.insert now ⟨directory, new.projection.storedForm⟩
  set { s with projections := table }
  return (stored, ← insertAxes now stored.id new.axes)

/-- Stores an axis of a stored projection. -/
def storeAxis (now : String) (projection : Int) (description : AxisDescription) :
    StoreM (Stored (Owned Axis)) := do
  let new ← StoreM.ofExcept (Axis.ofDescription description)
  let s ← get
  if (s.projections.get? projection).isNone then
    throw (.value "projection" (.noProjection projection))
  let (stored, table) := s.axes.insert now ⟨projection, new.storedForm⟩
  set { s with axes := table }
  return stored

/-- Stores georeference files of a directory in order. Their parameters are numbers, as those of
every description that was decoded are; a parameter that is not a number has no form in a column
that must not be empty, and its row would be refused there. -/
def insertGeoreferences (now : String) (directory : Int) :
    List Georeference → StoreM (List (Stored (Owned Georeference)))
  | [] => return []
  | georeference :: rest => do
    let s ← get
    let (stored, table) := s.georeferences.insert now ⟨directory, georeference.storedForm⟩
    set { s with georeferences := table }
    return stored :: (← insertGeoreferences now directory rest)

/-- Stores a georeference file whose image is there. Its parameters are numbers, as for
`insertGeoreferences`. -/
def storeGeoreference (isFile : String → Bool) (now : String) (parent : ParentRef)
    (description : GeoreferenceDescription) : StoreM (Stored (Owned Georeference)) := do
  let new ← StoreM.ofExcept (Georeference.ofDescription isFile description)
  let directory ← resolveDirectory now parent
  let s ← get
  let (stored, table) := s.georeferences.insert now ⟨directory, new.storedForm⟩
  set { s with georeferences := table }
  return stored

end Store

end SceneArchive
