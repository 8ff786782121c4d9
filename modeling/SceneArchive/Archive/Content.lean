import SceneArchive.Value

/-!
# What records hold

The attributes of each kind of record, without identifiers and times, and their columns in
declared order.
-/

namespace SceneArchive

/-- A metadata directory. -/
structure Directory where
  /-- The token that names the directory; no two directories share one. -/
  token : String
  /-- The path under which the directory was first seen. -/
  path : String
  deriving DecidableEq, Repr

/-- A row of an attribute table. -/
structure Observation where
  batch : String
  tarSize : Int
  satellite : String
  sensor : String
  acquired : Option Date
  cloudPercent : Float
  orbit : Int
  scenePath : Int
  sceneRow : Int
  deriving DecidableEq, Repr

/-- The projection of a directory. -/
structure Projection where
  schema : String
  type : String
  name : String
  datumType : String
  datumName : String
  ellipsoidName : String
  semiMajorAxis : Float
  inverseFlattening : Float
  datumAuthority : String
  datumCode : Int
  subtype : String
  deriving DecidableEq, Repr

/-- An axis of a projection. -/
structure Axis where
  name : String
  abbreviation : String
  direction : String
  unitType : String
  unitName : String
  conversionFactor : Float
  deriving DecidableEq, Repr

/-- The six parameters of a georeference file, in the order of the file. -/
structure Placement where
  scaleX : Float
  rotationY : Float
  rotationX : Float
  scaleY : Float
  upperLeftX : Float
  upperLeftY : Float
  deriving DecidableEq, Repr

/-- The parameters in order. -/
def Placement.toList (p : Placement) : List Float :=
  [p.scaleX, p.rotationY, p.rotationX, p.scaleY, p.upperLeftX, p.upperLeftY]

/-- A georeference file and its image. -/
structure Georeference where
  path : String
  image : String
  placement : Placement
  deriving DecidableEq, Repr

/-- The named values of a record. -/
abbrev Columns := List (String × Value)

/-- The columns of a directory. -/
def Directory.columns (d : Directory) : Columns :=
  [("date_str", .text d.token), ("path_str", .text d.path)]

/-- The columns of an observation. -/
def Observation.columns (o : Observation) : Columns :=
  [ ("batch", .text o.batch),
    ("tarsize", .integer o.tarSize),
    ("satellite", .text o.satellite),
    ("sensorid", .text o.sensor),
    ("acquisitio", .ofDate? o.acquired),
    ("cloudperce", .float o.cloudPercent),
    ("orbitid", .integer o.orbit),
    ("scenepath", .integer o.scenePath),
    ("scenerow", .integer o.sceneRow) ]

/-- The columns of a projection. -/
def Projection.columns (p : Projection) : Columns :=
  [ ("schema", .text p.schema),
    ("type", .text p.type),
    ("name", .text p.name),
    ("datum_type", .text p.datumType),
    ("datum_name", .text p.datumName),
    ("datum_ellipsoid_name", .text p.ellipsoidName),
    ("datum_ellipsoid_semi_major_axis", .float p.semiMajorAxis),
    ("datum_ellipsoid_inverse_flattening", .float p.inverseFlattening),
    ("datum_id_authority", .text p.datumAuthority),
    ("datum_id_code", .integer p.datumCode),
    ("coordinate_system_subtype", .text p.subtype) ]

/-- The columns of an axis. -/
def Axis.columns (a : Axis) : Columns :=
  [ ("name", .text a.name),
    ("abbreviation", .text a.abbreviation),
    ("direction", .text a.direction),
    ("unit_type", .text a.unitType),
    ("unit_name", .text a.unitName),
    ("unit_conversion_factor", .float a.conversionFactor) ]

/-- The columns of a georeference file. -/
def Georeference.columns (g : Georeference) : Columns :=
  [ ("path", .text g.path),
    ("jpg", .text g.image),
    ("scale_x", .float g.placement.scaleX),
    ("rotation_y", .float g.placement.rotationY),
    ("rotation_x", .float g.placement.rotationX),
    ("scale_y", .float g.placement.scaleY),
    ("upper_left_x", .float g.placement.upperLeftX),
    ("upper_left_y", .float g.placement.upperLeftY) ]

end SceneArchive
