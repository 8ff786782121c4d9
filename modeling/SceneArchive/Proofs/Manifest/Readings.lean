import SceneArchive.Manifest.Validation
import SceneArchive.Proofs.NameMap
import SceneArchive.Proofs.Store.Rows

/-!
# What descriptions are read for

A record or a description becomes the content of a row column by column, in the order in which the
standard schema declares the fields of the kind. Here each of them is written as the list of what
it gives for these fields. The columns of the content are the coerced ones, one after the other,
and the first that cannot be coerced is what it is refused for.

* `Observation.columns_ofRecord`, `Axis.columns_ofDescription`,
  `ProjectionWithAxes.columns_ofDescription`, `Georeference.columns_ofDescription`: the columns of
  the content are what was read.
* `Observation.ofRecord_congr`: of a row of an attribute table only the columns of an observation
  matter, whatever the case of their names.
-/

namespace SceneArchive

/-- A column that is read: the field it is for, and what is given for it, if anything. -/
structure Reading where
  field : Field
  raw : Option Json

@[simp]
theorem Field.name_required (name : String) (type : ValueType) :
    (Field.required name type).name = name := rfl

@[simp]
theorem Field.name_optionalDate (name : String) : (Field.optionalDate name).name = name := rfl

namespace Reading

/-- What a column is coerced to. -/
def value (r : Reading) : Except IndexError Value :=
  Coercion.ofJson r.field.name r.field.type r.raw r.field.nullable

/-- The column under its name. -/
def column (r : Reading) : Except IndexError (String × Value) := (r.field.name, ·) <$> r.value

/-- Whether a column can be coerced to the type of its field. -/
def Coerces (r : Reading) : Prop := ∃ v, r.value = .ok v

/-- What is given for the fields of a kind, all of them in order. -/
def listOf (kind : Kind) (given : List Json) : List Reading :=
  List.zipWith (fun field raw => ⟨field, some raw⟩) (Schema.standard.fieldsOf kind) given

theorem column_required {α : Type} {type : ValueType} {read : String → Json → Except IndexError α}
    {wrap : α → Value} (scalar : ∀ name tree, Coercion.ofScalar type name tree =
      (read name tree).map wrap) (name : String) (raw : Option Json) :
    column ⟨.required name type, raw⟩ =
      (fun a => (name, wrap a)) <$> Coercion.required read name raw := by
  have plain : value ⟨.required name type, raw⟩ =
      Coercion.required (Coercion.ofScalar type) name raw := rfl
  have wrapped : Coercion.required (Coercion.ofScalar type) name raw =
      wrap <$> Coercion.required read name raw := by
    rcases raw with _ | tree
    · rfl
    · cases tree with
      | null => rfl
      | _ => exact scalar name _
  rw [column, plain, wrapped, Functor.map_map]
  rfl

variable (name : String) (raw : Option Json)

theorem column_text : column ⟨.required name .text, raw⟩ =
    (fun s => (name, Value.text s)) <$> Coercion.required Coercion.textOfScalar name raw :=
  column_required (fun _ _ => rfl) name raw

theorem column_integer : column ⟨.required name .integer, raw⟩ =
    (fun n => (name, Value.integer n)) <$>
      Coercion.required Coercion.integerOfScalar name raw :=
  column_required (fun _ _ => rfl) name raw

theorem column_float : column ⟨.required name .float, raw⟩ =
    (fun x => (name, Value.float x)) <$> Coercion.required Coercion.floatOfScalar name raw :=
  column_required (fun _ _ => rfl) name raw

theorem column_date : column ⟨.optionalDate name, raw⟩ =
    (fun d => (name, Value.ofDate? d)) <$> Coercion.optionalDate name raw := by
  have same : value ⟨.optionalDate name, raw⟩ =
      Value.ofDate? <$> Coercion.optionalDate name raw := by
    have nullable : value ⟨.optionalDate name, raw⟩ =
        if Coercion.isMissing true raw then .ok .null
        else Coercion.required (Coercion.ofScalar .date) name raw := rfl
    rw [nullable, Coercion.optionalDate]
    split
    · rfl
    · rcases raw with _ | tree
      · rfl
      · cases tree with
        | null => rfl
        | _ =>
          simp only [Coercion.required, Coercion.ofScalar]
          cases Coercion.dateOfScalar name _ <;> rfl
  rw [column, same, Functor.map_map]
  rfl

end Reading

/-- What a row of an attribute table gives for the fields of an observation. -/
def RawRecord.readings (r : RawRecord) : List Reading :=
  (Schema.standard.fieldsOf .observationRecord).map fun field =>
    ⟨field, NameMap.get? (RawRecord.columns r) field.name⟩

open Reading

theorem Observation.columns_ofRecord (r : RawRecord) :
    Observation.columns <$> Observation.ofRecord r = (RawRecord.readings r).mapM column := by
  have fields : Schema.standard.fieldsOf .observationRecord =
      [.required "batch" .text, .required "tarsize" .integer, .required "satellite" .text,
        .required "sensorid" .text, .optionalDate "acquisitio", .required "cloudperce" .float,
        .required "orbitid" .integer, .required "scenepath" .integer,
        .required "scenerow" .integer] := rfl
  rw [RawRecord.readings, fields]
  simp only [List.map_cons, List.map_nil, List.mapM_cons, List.mapM_nil, Field.name_required,
    Field.name_optionalDate, column_text, column_integer, column_float, column_date]
  simp only [Observation.ofRecord, Observation.columns, map_bind, bind_map_left, pure_bind,
    bind_assoc, map_pure]

theorem Observation.columns_injective : Function.Injective Observation.columns := by
  intro o o' same
  obtain ⟨_, _, _, _, acquired, _, _, _, _⟩ := o
  obtain ⟨_, _, _, _, acquired', _, _, _, _⟩ := o'
  have dates : Function.Injective Value.ofDate? := by
    intro d d' same
    cases d <;> cases d' <;> simp_all [Value.ofDate?]
  simpa [Observation.columns, dates.eq_iff] using same

/-- What a description gives for the fields of an axis. -/
def AxisDescription.readings (d : AxisDescription) : List Reading :=
  listOf .axisEntry [.string d.name, .string d.abbreviation, .string d.direction,
    .string d.unit.type, .string d.unit.name, d.unit.conversionFactor]

/-- What a description gives for the fields of a projection, without those of its axes. -/
def ProjectionDescription.ownReadings (d : ProjectionDescription) : List Reading :=
  listOf .projectionDefinition [.string d.schema, .string d.type, .string d.name,
    .string d.datum.type, .string d.datum.name, .string d.datum.ellipsoid.name,
    d.datum.ellipsoid.semiMajorAxis, d.datum.ellipsoid.inverseFlattening,
    .string d.datum.identifier.authority, d.datum.identifier.code,
    .string d.coordinateSystem.subtype]

/-- What a description gives for the fields of a projection and, behind them, of its axes. -/
def ProjectionDescription.readings (d : ProjectionDescription) : List Reading :=
  d.ownReadings ++ d.coordinateSystem.axes.flatMap AxisDescription.readings

/-- What a description gives for the fields of a georeference file. -/
def GeoreferenceDescription.readings (d : GeoreferenceDescription) : List Reading :=
  listOf .georeferenceFile ([.string d.path, .string d.imagePath] ++
    d.placement.toList.map fun x => .number (.float x))

theorem Coercion.required_string (name s : String) :
    Coercion.required Coercion.textOfScalar name (some (.string s)) = .ok s := rfl

theorem Coercion.required_float (name : String) (x : Float) :
    Coercion.required Coercion.floatOfScalar name (some (.number (.float x))) = .ok x := rfl

theorem Axis.columns_ofDescription (d : AxisDescription) :
    Axis.columns <$> Axis.ofDescription d = d.readings.mapM column := by
  have readings : d.readings =
      [⟨.required "name" .text, some (.string d.name)⟩,
        ⟨.required "abbreviation" .text, some (.string d.abbreviation)⟩,
        ⟨.required "direction" .text, some (.string d.direction)⟩,
        ⟨.required "unit_type" .text, some (.string d.unit.type)⟩,
        ⟨.required "unit_name" .text, some (.string d.unit.name)⟩,
        ⟨.required "unit_conversion_factor" .float, some d.unit.conversionFactor⟩] := rfl
  rw [readings]
  simp only [List.mapM_cons, List.mapM_nil, column_text, column_float, Coercion.required_string]
  simp only [Axis.ofDescription, Axis.columns, map_bind, bind_map_left, pure_bind,
    bind_assoc, map_pure]
  rfl

/-- The axes are read one after the other. -/
theorem columns_ofDescriptions (ds : List AxisDescription) :
    List.flatMap Axis.columns <$> ds.mapM Axis.ofDescription =
      (ds.flatMap AxisDescription.readings).mapM column := by
  induction ds with
  | nil => rfl
  | cons d ds ih =>
    rw [List.flatMap_cons, List.mapM_append, ← ih, ← Axis.columns_ofDescription, List.mapM_cons]
    simp only [map_bind, bind_map_left, map_pure, List.flatMap_cons]

theorem ProjectionWithAxes.columns_ofDescription (d : ProjectionDescription) :
    (fun p => p.projection.columns ++ p.axes.flatMap Axis.columns) <$>
      ProjectionWithAxes.ofDescription d = d.readings.mapM column := by
  have readings : d.ownReadings =
      [⟨.required "schema" .text, some (.string d.schema)⟩,
        ⟨.required "type" .text, some (.string d.type)⟩,
        ⟨.required "name" .text, some (.string d.name)⟩,
        ⟨.required "datum_type" .text, some (.string d.datum.type)⟩,
        ⟨.required "datum_name" .text, some (.string d.datum.name)⟩,
        ⟨.required "datum_ellipsoid_name" .text, some (.string d.datum.ellipsoid.name)⟩,
        ⟨.required "datum_ellipsoid_semi_major_axis" .float, some d.datum.ellipsoid.semiMajorAxis⟩,
        ⟨.required "datum_ellipsoid_inverse_flattening" .float,
          some d.datum.ellipsoid.inverseFlattening⟩,
        ⟨.required "datum_id_authority" .text, some (.string d.datum.identifier.authority)⟩,
        ⟨.required "datum_id_code" .integer, some d.datum.identifier.code⟩,
        ⟨.required "coordinate_system_subtype" .text,
          some (.string d.coordinateSystem.subtype)⟩] := rfl
  rw [ProjectionDescription.readings, List.mapM_append, ← columns_ofDescriptions, readings]
  simp only [List.mapM_cons, List.mapM_nil, column_text, column_integer, column_float,
    Coercion.required_string]
  simp only [ProjectionWithAxes.ofDescription, Projection.columns, map_bind, bind_map_left,
    pure_bind, bind_assoc, map_pure]
  rfl

theorem Georeference.columns_ofDescription (isFile : String → Bool) (d : GeoreferenceDescription) :
    Georeference.columns <$> Georeference.ofDescription isFile d =
      if isFile d.imagePath then d.readings.mapM column
      else .error (.value "jpg" (.missingImage d.imagePath)) := by
  have readings : d.readings =
      [⟨.required "path" .text, some (.string d.path)⟩,
        ⟨.required "jpg" .text, some (.string d.imagePath)⟩,
        ⟨.required "scale_x" .float, some (.number (.float d.scaleX))⟩,
        ⟨.required "rotation_y" .float, some (.number (.float d.rotationY))⟩,
        ⟨.required "rotation_x" .float, some (.number (.float d.rotationX))⟩,
        ⟨.required "scale_y" .float, some (.number (.float d.scaleY))⟩,
        ⟨.required "upper_left_x" .float, some (.number (.float d.upperLeftX))⟩,
        ⟨.required "upper_left_y" .float, some (.number (.float d.upperLeftY))⟩] := rfl
  rw [readings, Georeference.ofDescription]
  split
  · simp only [List.mapM_cons, List.mapM_nil, column_text, column_float,
      Coercion.required_string, Coercion.required_float]
    rfl
  · rfl

/-! ## Rows of attribute tables -/

/-- Whether a row gives a value for a column, in whatever case its name is written. -/
def RawRecord.Gives (r : RawRecord) (column : String) (v : Json) : Prop :=
  ∃ key, lowerName key = column ∧ (key, v) ∈ r

theorem RawRecord.gives_iff {r : RawRecord} {column : String} {v : Json} :
    RawRecord.Gives r column v ↔ (column, v) ∈ r.map fun m => (lowerName m.1, m.2) := by
  simp [RawRecord.Gives, and_comm]

theorem RawRecord.get?_columns_eq_some_iff {r : RawRecord} {column : String} {v : Json}
    (distinct : (List.map (fun m => lowerName m.1) r).Nodup) :
    NameMap.get? (RawRecord.columns r) column = some v ↔ RawRecord.Gives r column v := by
  have names : ((List.map (fun m => (lowerName m.1, m.2)) r).map (·.1)).Nodup := by
    rwa [List.map_map]
  rw [RawRecord.gives_iff]
  constructor
  · intro given
    rcases NameMap.mem_insertAll (NameMap.mem_of_get? given) with mem | mem
    · exact mem
    · cases mem
  · exact NameMap.get?_insertAll_of_nodup names

/-- Two rows that give the same for each of the columns of an observation are read as the same one
or refused for the same reason, whatever the case of the names and whatever else they give. -/
theorem Observation.ofRecord_congr {r r' : RawRecord}
    (distinct : (List.map (fun m => lowerName m.1) r).Nodup)
    (distinct' : (List.map (fun m => lowerName m.1) r').Nodup)
    (same : ∀ field ∈ Schema.standard.fieldsOf .observationRecord, ∀ v,
      RawRecord.Gives r field.name v ↔ RawRecord.Gives r' field.name v) :
    Observation.ofRecord r = Observation.ofRecord r' := by
  have readings : RawRecord.readings r = RawRecord.readings r' := by
    apply List.map_congr_left
    intro field mem
    congr 1
    apply Option.ext
    intro v
    rw [RawRecord.get?_columns_eq_some_iff distinct, RawRecord.get?_columns_eq_some_iff distinct',
      same field mem v]
  have columns : Observation.columns <$> Observation.ofRecord r =
      Observation.columns <$> Observation.ofRecord r' := by
    rw [columns_ofRecord, columns_ofRecord, readings]
  exact Results.of_map_eq columns_injective columns

/-- A row with its names in small letters, the last one before the others. -/
def plainRow : RawRecord :=
  [("scenerow", .int 64), ("batch", .string "A1"), ("tarsize", .int 7),
    ("satellite", .string "IRS"), ("sensorid", .string "LISS3"), ("acquisitio", .null),
    ("cloudperce", .int 40), ("orbitid", .int 12), ("scenepath", .int 101)]

/-- The same row with its names in capitals, and with two columns that no observation has; the name
of the last one begins with a long s. -/
def capitalsRow : RawRecord :=
  [("BATCH", .string "A1"), ("TARSIZE", .int 7), ("SATELLITE", .string "IRS"),
    ("SENSORID", .string "LISS3"), ("ACQUISITIO", .null), ("CLOUDPERCE", .int 40),
    ("ORBITID", .int 12), ("SCENEPATH", .int 101), ("SCENEROW", .int 64),
    ("FILENAME", .string "a.tif"), ("\u017FENSORID", .string "PAN")]

theorem gives_capitalsRow_iff : ∀ field ∈ Schema.standard.fieldsOf .observationRecord, ∀ v,
    RawRecord.Gives capitalsRow field.name v ↔ RawRecord.Gives plainRow field.name v := by
  have capitals : capitalsRow.map (fun m => (lowerName m.1, m.2)) =
      plainRow.tail ++ [("scenerow", .int 64)] ++
        [("filename", .string "a.tif"), ("\u017Fensorid", .string "PAN")] := rfl
  have plain : plainRow.map (fun m => (lowerName m.1, m.2)) =
      ("scenerow", .int 64) :: plainRow.tail := rfl
  have others : ∀ field ∈ Schema.standard.fieldsOf .observationRecord,
      field.name ≠ "filename" ∧ field.name ≠ "\u017Fensorid" := by decide +kernel
  intro field mem v
  obtain ⟨file, long⟩ := others field mem
  have foreign : (field.name, v) ∉
      [("filename", Json.string "a.tif"), ("\u017Fensorid", .string "PAN")] := by
    simp [file, long]
  rw [RawRecord.gives_iff, RawRecord.gives_iff, capitals, plain, List.mem_append,
    or_iff_left foreign, List.mem_append, List.mem_singleton, List.mem_cons, or_comm]

theorem Observation.ofRecord_congr_capitals :
    Observation.ofRecord capitalsRow = Observation.ofRecord plainRow ∧
      ∃ o, Observation.ofRecord plainRow = .ok o :=
  ⟨Observation.ofRecord_congr (by decide +kernel) (by decide +kernel) gives_capitalsRow_iff,
    _, rfl⟩

end SceneArchive
