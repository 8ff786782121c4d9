import SceneArchive.Manifest.Description
import SceneArchive.Archive.Content
import SceneArchive.Coercion
import SceneArchive.Path

/-!
# Validation

Descriptions become the content of records here: columns are coerced to their declared types in
declared order, and the first one that cannot be is the fault. Whether a file exists is asked of
`isFile`, so that nothing here depends on a file system.
-/

namespace SceneArchive

/-- A name in lower case, as far as its letters are ASCII letters. -/
def lowerName (name : String) : String := String.ofList (name.toList.map Char.toLower)

/-- The fields of a record under their names in lower case. Of two names that agree then, the
later one counts. -/
def RawRecord.columns (record : RawRecord) : NameMap Json :=
  NameMap.ofList (record.map fun (name, value) => (lowerName name, value))

/-- The observation of a row of an attribute table. Other columns than its own do not matter, nor
does the case of the names. -/
def Observation.ofRecord (record : RawRecord) : Except IndexError Observation := do
  let columns := RawRecord.columns record
  let text (name : String) := Coercion.required Coercion.textOfScalar name (columns.get? name)
  let integer (name : String) :=
    Coercion.required Coercion.integerOfScalar name (columns.get? name)
  return {
    batch := ← text "batch"
    tarSize := ← integer "tarsize"
    satellite := ← text "satellite"
    sensor := ← text "sensorid"
    acquired := ← Coercion.optionalDate "acquisitio" (columns.get? "acquisitio")
    cloudPercent :=
      ← Coercion.required Coercion.floatOfScalar "cloudperce" (columns.get? "cloudperce")
    orbit := ← integer "orbitid"
    scenePath := ← integer "scenepath"
    sceneRow := ← integer "scenerow" }

/-- The axis of a description. -/
def Axis.ofDescription (d : AxisDescription) : Except IndexError Axis := do
  let factor ← Coercion.required Coercion.floatOfScalar "unit_conversion_factor"
    (some d.unit.conversionFactor)
  return {
    name := d.name
    abbreviation := d.abbreviation
    direction := d.direction
    unitType := d.unit.type
    unitName := d.unit.name
    conversionFactor := factor }

/-- A projection and its axes in order. -/
structure ProjectionWithAxes where
  projection : Projection
  axes : List Axis
  deriving DecidableEq, Repr

/-- The projection and the axes of a description. -/
def ProjectionWithAxes.ofDescription (d : ProjectionDescription) :
    Except IndexError ProjectionWithAxes := do
  let number (name : String) (raw : Json) :=
    Coercion.required Coercion.floatOfScalar name (some raw)
  let axis ← number "datum_ellipsoid_semi_major_axis" d.datum.ellipsoid.semiMajorAxis
  let flattening ← number "datum_ellipsoid_inverse_flattening" d.datum.ellipsoid.inverseFlattening
  let code ← Coercion.required Coercion.integerOfScalar "datum_id_code"
    (some d.datum.identifier.code)
  let axes ← d.coordinateSystem.axes.mapM Axis.ofDescription
  return {
    projection := {
      schema := d.schema
      type := d.type
      name := d.name
      datumType := d.datum.type
      datumName := d.datum.name
      ellipsoidName := d.datum.ellipsoid.name
      semiMajorAxis := axis
      inverseFlattening := flattening
      datumAuthority := d.datum.identifier.authority
      datumCode := code
      subtype := d.coordinateSystem.subtype }
    axes }

/-- The path of the image: the one given, or the file's own with the extension of images. -/
def GeoreferenceDescription.imagePath (d : GeoreferenceDescription) : String :=
  d.image.getD (Path.withExtension d.path "jpg")

/-- The parameters of a description. -/
def GeoreferenceDescription.placement (d : GeoreferenceDescription) : Placement :=
  ⟨d.scaleX, d.rotationY, d.rotationX, d.scaleY, d.upperLeftX, d.upperLeftY⟩

/-- The georeference file of a description, whose image has to be a file. -/
def Georeference.ofDescription (isFile : String → Bool) (d : GeoreferenceDescription) :
    Except IndexError Georeference :=
  if isFile d.imagePath then .ok ⟨d.path, d.imagePath, d.placement⟩
  else .error (.value "jpg" (.missingImage d.imagePath))

/-- The token of a metadata directory: the name of the directory that holds it. -/
def tokenOfPath (path : String) : Except IndexError String :=
  match Path.parentName? path with
  | some name => .ok name
  | none => .error (.value "date_str" (.noToken path))

/-- The token of a manifest: the one given, or the one of its path. -/
def Manifest.resolvedToken (m : Manifest) : Except IndexError String :=
  match m.token with
  | some token => .ok token
  | none => tokenOfPath m.path

end SceneArchive
