import SceneArchive.Store.Basic

/-!
# The stored form of content

What a table keeps of the content of a record, and what is read from it again. Numbers lose the
sign of a zero when they are stored. Dates are stored as text and read again as such, which fails
for the years whose text is no date.
-/

namespace SceneArchive

open Binary64 (withoutNegativeZero)

/-- The stored form of an observation. -/
def Observation.storedForm (o : Observation) : Observation :=
  { o with cloudPercent := withoutNegativeZero o.cloudPercent }

/-- The stored form of a projection. -/
def Projection.storedForm (p : Projection) : Projection :=
  { p with
    semiMajorAxis := withoutNegativeZero p.semiMajorAxis
    inverseFlattening := withoutNegativeZero p.inverseFlattening }

/-- The stored form of an axis. -/
def Axis.storedForm (a : Axis) : Axis :=
  { a with conversionFactor := withoutNegativeZero a.conversionFactor }

/-- The stored form of parameters. -/
def Placement.storedForm (p : Placement) : Placement where
  scaleX := withoutNegativeZero p.scaleX
  rotationY := withoutNegativeZero p.rotationY
  rotationX := withoutNegativeZero p.rotationX
  scaleY := withoutNegativeZero p.scaleY
  upperLeftX := withoutNegativeZero p.upperLeftX
  upperLeftY := withoutNegativeZero p.upperLeftY

/-- The stored form of a georeference file. -/
def Georeference.storedForm (g : Georeference) : Georeference :=
  { g with placement := g.placement.storedForm }

/-- A stored date as it is read. -/
def Date.readBack (column : Option String) (d : Date) : Except IndexError Date :=
  match Date.readChars? d.chars with
  | some d => .ok d
  | none => .error (.storage (.invalidDate d.text column))

/-- A stored observation as it is read. -/
def Observation.readBack (o : Observation) : Except IndexError Observation :=
  match o.acquired with
  | none => .ok o
  | some d => do return { o with acquired := some (← d.readBack (some "acquisitio")) }

/-- The record of an observation as it is read. -/
def readObservation (r : Stored (Owned Observation)) :
    Except IndexError (Stored (Owned Observation)) := do
  return { r with content := { r.content with content := ← r.content.content.readBack } }

/-- A record as it is read. -/
def Entity.readBack : Entity → Except IndexError Entity
  | observation r => (readObservation r).map observation
  | other => .ok other

end SceneArchive
