import SceneArchive.Store.Write

/-!
# Ingesting manifests

A manifest is stored in stages: its directory, its observations one by one, its projection with
the axes, and its georeference files. All images are looked for before the first georeference
file is stored. What was stored before a fault stays.
-/

namespace SceneArchive

/-- What was stored for a manifest. -/
structure IngestSummary where
  directoryId : Int
  token : String
  observations : Nat
  projections : Nat
  axes : Nat
  georeferences : Nat
  deriving DecidableEq, Repr

/-- A summary as a tree, its members in declared order. -/
def IngestSummary.toJson (s : IngestSummary) : Json :=
  .object
    [ ("directory_id", .int s.directoryId),
      ("date_token", .string s.token),
      ("observations", .int s.observations),
      ("projections", .int s.projections),
      ("axes", .int s.axes),
      ("georeferences", .int s.georeferences) ]

namespace Store

/-- Stores observations of a directory in order. -/
def storeObservations (now : String) (parent : ParentRef) : List RawRecord → StoreM Unit
  | [] => return ()
  | record :: rest => do
    let _ ← storeObservation now parent record
    storeObservations now parent rest

/-- Stores the projection of a manifest, if it has one, and counts projections and axes. -/
def storeProjection? (now : String) (parent : ParentRef) :
    Option ProjectionDescription → StoreM (Nat × Nat)
  | none => return (0, 0)
  | some description => do
    let (_, axes) ← storeProjection now parent description
    return (1, axes.length)

/-- Stores all that a manifest holds. -/
def ingest (isFile : String → Bool) (now : String) (m : Manifest) : StoreM IngestSummary := do
  let token ← StoreM.ofExcept m.resolvedToken
  let directory ← getOrCreateDirectory now token m.path
  let parent := ParentRef.resolved directory.id
  storeObservations now parent m.observations
  let (projections, axes) ← storeProjection? now parent m.projection
  let georeferences ←
    StoreM.ofExcept (m.georeferences.mapM (Georeference.ofDescription isFile))
  let stored ← insertGeoreferences now directory.id georeferences
  return {
    directoryId := directory.id
    token
    observations := m.observations.length
    projections
    axes
    georeferences := stored.length }

end Store

end SceneArchive
