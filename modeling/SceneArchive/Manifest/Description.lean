import SceneArchive.Manifest.Decode

/-!
# Descriptions

What an extractor tells about one metadata directory: the rows of its attribute table, its
projection with the axes, and its georeference files. A `Manifest` holds all of it as it was
given; numbers that may be written as text are kept as trees.
-/

namespace SceneArchive

/-- A row of an attribute table as extracted. -/
abbrev RawRecord := Fields

/-- The unit of an axis. -/
structure UnitDescription where
  type : String
  name : String
  conversionFactor : Json

/-- An axis of a coordinate system. -/
structure AxisDescription where
  name : String
  abbreviation : String
  direction : String
  unit : UnitDescription

/-- A coordinate system and its axes. -/
structure CoordinateSystem where
  subtype : String
  axes : List AxisDescription

/-- An authority and its code for a datum. -/
structure AuthorityCode where
  authority : String
  code : Json

/-- A reference ellipsoid. -/
structure Ellipsoid where
  name : String
  semiMajorAxis : Json
  inverseFlattening : Json

/-- A geodetic datum. -/
structure Datum where
  type : String
  name : String
  ellipsoid : Ellipsoid
  identifier : AuthorityCode

/-- The projection of a directory. -/
structure ProjectionDescription where
  schema : String
  type : String
  name : String
  datum : Datum
  coordinateSystem : CoordinateSystem

/-- A georeference file. -/
structure GeoreferenceDescription where
  path : String
  /-- The image, if it is not the one beside the file. -/
  image : Option String
  scaleX : Float
  rotationY : Float
  rotationX : Float
  scaleY : Float
  upperLeftX : Float
  upperLeftY : Float

/-- All that was extracted from a metadata directory. -/
structure Manifest where
  path : String
  token : Option String
  observations : List RawRecord
  projection : Option ProjectionDescription
  georeferences : List GeoreferenceDescription

open Decode

/-- The unit that a tree describes. -/
def UnitDescription.decode (tree : Json) : Except DecodeError UnitDescription := do
  let found ← members "UnitDescriptor"
    [member "type" text, member "name" text, member "conversion_factor" anything] tree
  return {
    type := ← found.get "type" text
    name := ← found.get "name" text
    conversionFactor := ← found.get "conversion_factor" anything }

/-- The axis that a tree describes. -/
def AxisDescription.decode (tree : Json) : Except DecodeError AxisDescription := do
  let found ← members "AxisDescriptor"
    [ member "name" text, member "abbreviation" text, member "direction" text,
      member "unit" UnitDescription.decode ] tree
  return {
    name := ← found.get "name" text
    abbreviation := ← found.get "abbreviation" text
    direction := ← found.get "direction" text
    unit := ← found.get "unit" UnitDescription.decode }

/-- The coordinate system that a tree describes. -/
def CoordinateSystem.decode (tree : Json) : Except DecodeError CoordinateSystem := do
  let axes := list AxisDescription.decode
  let found ← members "CoordinateSystemDescriptor"
    [member "subtype" text, optionalMember "axis" axes] tree
  return { subtype := ← found.get "subtype" text, axes := ← found.getD "axis" axes [] }

/-- The authority and code that a tree describes. -/
def AuthorityCode.decode (tree : Json) : Except DecodeError AuthorityCode := do
  let found ← members "AuthorityId" [member "authority" text, member "code" anything] tree
  return { authority := ← found.get "authority" text, code := ← found.get "code" anything }

/-- The ellipsoid that a tree describes. -/
def Ellipsoid.decode (tree : Json) : Except DecodeError Ellipsoid := do
  let found ← members "EllipsoidDescriptor"
    [ member "name" text, member "semi_major_axis" anything,
      member "inverse_flattening" anything ] tree
  return {
    name := ← found.get "name" text
    semiMajorAxis := ← found.get "semi_major_axis" anything
    inverseFlattening := ← found.get "inverse_flattening" anything }

/-- The datum that a tree describes. -/
def Datum.decode (tree : Json) : Except DecodeError Datum := do
  let found ← members "DatumDescriptor"
    [ member "type" text, member "name" text, member "ellipsoid" Ellipsoid.decode,
      member "id" AuthorityCode.decode ] tree
  return {
    type := ← found.get "type" text
    name := ← found.get "name" text
    ellipsoid := ← found.get "ellipsoid" Ellipsoid.decode
    identifier := ← found.get "id" AuthorityCode.decode }

/-- The projection that a tree describes. -/
def ProjectionDescription.decode (tree : Json) : Except DecodeError ProjectionDescription := do
  let found ← members "ProjectionDescriptor"
    [ (member "schema" text).orNamed "$schema", member "type" text, member "name" text,
      member "datum" Datum.decode, member "coordinate_system" CoordinateSystem.decode ] tree
  return {
    schema := ← found.get "schema" text
    type := ← found.get "type" text
    name := ← found.get "name" text
    datum := ← found.get "datum" Datum.decode
    coordinateSystem := ← found.get "coordinate_system" CoordinateSystem.decode }

/-- The georeference file that a tree describes. -/
def GeoreferenceDescription.decode (tree : Json) :
    Except DecodeError GeoreferenceDescription := do
  let found ← members "GeoreferenceRecord"
    [ member "path" filePath, optionalMember "jpg" (nullable filePath), member "scale_x" number,
      member "rotation_y" number, member "rotation_x" number, member "scale_y" number,
      member "upper_left_x" number, member "upper_left_y" number ] tree
  return {
    path := ← found.get "path" filePath
    image := ← found.getD "jpg" (nullable filePath) none
    scaleX := ← found.get "scale_x" number
    rotationY := ← found.get "rotation_y" number
    rotationX := ← found.get "rotation_x" number
    scaleY := ← found.get "scale_y" number
    upperLeftX := ← found.get "upper_left_x" number
    upperLeftY := ← found.get "upper_left_y" number }

/-- The manifest that a tree describes. -/
def Manifest.decode (tree : Json) : Except DecodeError Manifest := do
  let observations := list Decode.map
  let projection := nullable ProjectionDescription.decode
  let georeferences := list GeoreferenceDescription.decode
  let found ← members "DirectoryManifest"
    [ member "path" filePath, optionalMember "date_token" (nullable text),
      optionalMember "observations" observations, optionalMember "projection" projection,
      optionalMember "georeferences" georeferences ] tree
  return {
    path := ← found.get "path" filePath
    token := ← found.getD "date_token" (nullable text) none
    observations := ← found.getD "observations" observations []
    projection := ← found.getD "projection" projection none
    georeferences := ← found.getD "georeferences" georeferences [] }

end SceneArchive
