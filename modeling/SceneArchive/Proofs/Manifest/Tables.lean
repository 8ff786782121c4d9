import SceneArchive.Proofs.IntegerCoercion
import SceneArchive.Proofs.Manifest.Decoding

/-!
# Rows that fit their table

What is accepted fits the table of its kind, whatever its description gives: it has the columns that
the standard schema declares, with values of their types that can be stored. That needs no check
beside the coercions, which leave nothing else: an integer has sixty-four bits, and a double that is
read is finite, since every number of a JSON text is.

* `decidedBy_of_columns`: a description is accepted if all of its columns can be coerced, and else
  the first that cannot is named.
* `fitsTable_of_readings`: coerced columns fit the table of their kind.
* `accepted_fits_table`: both, for each of the four kinds.
-/

namespace SceneArchive

/-- Whether a value can be stored: an integer has sixty-four bits, and a double is finite. -/
def Value.Storable : Value → Prop
  | .integer n => fitsInt64 n = true
  | .float x => Binary64.isFinite x = true
  | .null | .text _ | .date _ => True

namespace Coercion

variable {type : ValueType} {name raw : String} {tree : Json} {e : IndexError} {v : Value}

theorem fitsInt64_of_integral? {x : Float} {n : Int} (h : integral? x = some n) :
    fitsInt64 n = true :=
  fitsInt64_of_natAbs_lt (integral?_eq_some_iff.mp h).2.2

theorem fitsInt64_of_readInteger? {s : List Char} {n : Int} (h : readInteger? s = some n) :
    fitsInt64 n = true := by
  rcases readInteger?_eq_some_iff.mp h with plain | ⟨-, small, -⟩
  · exact plain.2
  · exact fitsInt64_of_natAbs_lt small

theorem fitsInt64_of_integerOfScalar {n : Int} (h : integerOfScalar name tree = .ok n) :
    fitsInt64 n = true := by
  cases tree with
  | number m =>
    simp only [integerOfScalar] at h
    split at h
    · next read =>
      cases h
      cases m with
      | int i =>
        simp only [integerOfNumber?] at read
        split at read
        · cases read
          assumption
        · exact fitsInt64_of_integral? read
      | float x => exact fitsInt64_of_integral? read
    · cases h
  | string s =>
    rw [integerOfScalar, integerOfText] at h
    exact fitsInt64_of_readInteger? (orRefuse_eq_ok_iff.mp h)
  | null | bool | array | object => cases h

theorem isFinite_of_floatOfScalar (inRange : tree.InRange) {x : Float}
    (h : floatOfScalar name tree = .ok x) : Binary64.isFinite x = true := by
  cases tree with
  | number m =>
    have number := Json.inRange_number_iff.mp inRange
    obtain rfl := Except.ok.inj h
    cases m with
    | int n => exact Number.isFinite_ofInt number
    | float x => exact number
  | string s =>
    rw [floatOfScalar, floatOfText] at h
    exact (Option.filter_eq_some_iff.mp (orRefuse_eq_ok_iff.mp h)).2
  | null | bool | array | object => cases h

theorem type?_of_ofScalar (h : ofScalar type name tree = .ok v) :
    v.type? = some type ∧ (tree.InRange → v.Storable) := by
  cases type with
  | text =>
    obtain ⟨s, -, rfl⟩ := Results.map_eq_ok_iff.mp h
    exact ⟨rfl, fun _ => trivial⟩
  | integer =>
    obtain ⟨n, read, rfl⟩ := Results.map_eq_ok_iff.mp h
    exact ⟨rfl, fun _ => fitsInt64_of_integerOfScalar read⟩
  | float =>
    obtain ⟨x, read, rfl⟩ := Results.map_eq_ok_iff.mp h
    exact ⟨rfl, fun inRange => isFinite_of_floatOfScalar inRange read⟩
  | date =>
    obtain ⟨d, -, rfl⟩ := Results.map_eq_ok_iff.mp h
    exact ⟨rfl, fun _ => trivial⟩

theorem exists_fault_of_orRefuse {α : Type} {fault : String → ValueFault} {read : Option α}
    (h : orRefuse name fault raw read = .error e) : ∃ f, e = .value name f := by
  cases read with
  | none => exact ⟨_, (Except.error.inj h).symm⟩
  | some a => cases h

/-- A scalar is refused under the name of its column. -/
theorem exists_fault_of_ofScalar (h : ofScalar type name tree = .error e) :
    ∃ f, e = .value name f := by
  cases type with
  | text =>
    have h := Results.map_eq_error_iff.mp h
    cases tree with
    | null | array | object => exact ⟨_, (Except.error.inj h).symm⟩
    | bool | number | string => cases h
  | integer =>
    have h := Results.map_eq_error_iff.mp h
    cases tree with
    | null | bool | array | object => exact ⟨_, (Except.error.inj h).symm⟩
    | number n =>
      simp only [integerOfScalar] at h
      split at h
      · cases h
      · exact ⟨_, (Except.error.inj h).symm⟩
    | string s =>
      rw [integerOfScalar, integerOfText] at h
      exact exists_fault_of_orRefuse h
  | float =>
    have h := Results.map_eq_error_iff.mp h
    cases tree with
    | null | bool | array | object => exact ⟨_, (Except.error.inj h).symm⟩
    | number => cases h
    | string s =>
      rw [floatOfScalar, floatOfText] at h
      exact exists_fault_of_orRefuse h
  | date =>
    have h := Results.map_eq_error_iff.mp h
    cases tree with
    | null | bool | array | object => exact ⟨_, (Except.error.inj h).symm⟩
    | number n =>
      rw [dateOfScalar, dateOfText] at h
      exact exists_fault_of_orRefuse h
    | string s =>
      rw [dateOfScalar, dateOfText] at h
      exact exists_fault_of_orRefuse h

end Coercion

namespace Reading

variable {r : Reading} {v : Value} {e : IndexError}

theorem exists_fault (h : r.value = .error e) : ∃ f, e = .value r.field.name f := by
  simp only [value, Coercion.ofJson] at h
  split at h
  · cases h
  · unfold Coercion.required at h
    split at h
    · exact ⟨_, (Except.error.inj h).symm⟩
    · exact ⟨_, (Except.error.inj h).symm⟩
    · exact Coercion.exists_fault_of_ofScalar h

/-- What a column is coerced to has the type of its field and can be stored; it is missing only
where it may be. -/
theorem type?_value (h : r.value = .ok v) : v = .null ∧ r.field.nullable = true ∨
    v.type? = some r.field.type ∧ (r.InRange → v.Storable) := by
  simp only [value, Coercion.ofJson] at h
  split at h
  · next missing =>
    exact .inl ⟨(Except.ok.inj h).symm, (Bool.and_eq_true_iff.mp missing).1⟩
  · unfold Coercion.required at h
    split at h
    · cases h
    · cases h
    · next given =>
      obtain ⟨typed, storable⟩ := Coercion.type?_of_ofScalar h
      exact .inr ⟨typed, fun inRange => storable (inRange _ given)⟩

theorem column_eq_ok_iff {c : String × Value} :
    r.column = .ok c ↔ ∃ v, r.value = .ok v ∧ (r.field.name, v) = c :=
  Results.map_eq_ok_iff

theorem column_eq_error_iff : r.column = .error e ↔ r.value = .error e :=
  Results.map_eq_error_iff

theorem coerces_iff : r.Coerces ↔ ∃ c, r.column = .ok c := by
  simp only [column_eq_ok_iff, Coerces]
  constructor
  · rintro ⟨v, read⟩
    exact ⟨_, v, read, rfl⟩
  · rintro ⟨-, v, read, -⟩
    exact ⟨v, read⟩

end Reading

/-! ## What decides -/

/-- Whether columns decide a result: there is one if all of them are sound, and else the error names
the first that is not. -/
structure DecidedBy {α : Type} (Sound : Reading → Prop) (readings : List Reading)
    (result : Except IndexError α) : Prop where
  accepted_iff : (∃ a, result = .ok a) ↔ ∀ r ∈ readings, Sound r
  refused : ∀ e, result = .error e → ∃ before r behind fault, readings = before ++ r :: behind ∧
    (∀ b ∈ before, Sound b) ∧ ¬ Sound r ∧ e = .value r.field.name fault

variable {α : Type} {result : Except IndexError α} {columns : α → Columns}
  {readings : List Reading}

open Reading

theorem mapM_column_eq_ok_iff : (∃ cs, readings.mapM column = .ok cs) ↔
    ∀ r ∈ readings, r.Coerces := by
  induction readings with
  | nil => exact ⟨fun _ => List.forall_mem_nil _, fun _ => ⟨[], rfl⟩⟩
  | cons r readings ih =>
    rw [List.forall_mem_cons, ← ih, coerces_iff]
    simp only [Results.mapM_cons_eq_ok_iff]
    constructor
    · rintro ⟨_, c, rest, read, others, -⟩
      exact ⟨⟨c, read⟩, rest, others⟩
    · rintro ⟨⟨c, read⟩, rest, others⟩
      exact ⟨_, c, rest, read, others, rfl⟩

theorem decidedBy_of_columns (h : columns <$> result = readings.mapM column) :
    DecidedBy Coerces readings result where
  accepted_iff := by
    rw [← mapM_column_eq_ok_iff, ← h]
    cases result with
    | ok a => exact ⟨fun _ => ⟨columns a, rfl⟩, fun _ => ⟨a, rfl⟩⟩
    | error e => exact ⟨fun ⟨_, same⟩ => (by cases same), fun ⟨_, same⟩ => (by cases same)⟩
  refused e refused := by
    have failed : readings.mapM column = .error e := by
      rw [← h, refused]
      rfl
    obtain ⟨before, r, behind, whole, earlier, first⟩ := Results.mapM_eq_error_iff.mp failed
    obtain ⟨fault, same⟩ := exists_fault (column_eq_error_iff.mp first)
    refine ⟨before, r, behind, fault, whole, fun b mem => coerces_iff.mpr (earlier b mem), ?_, same⟩
    rintro ⟨v, read⟩
    rw [column_eq_error_iff.mp first] at read
    cases read

/-! ## What fits -/

/-- Whether columns fit the table of a kind: they are those that the standard schema declares for
it, each once and in order, with values of the declared types that can be stored, and only the date
of an acquisition may be missing. -/
structure FitsTable (kind : Kind) (columns : Columns) : Prop where
  names : columns.map (·.1) = (Schema.standard.fieldsOf kind).map (·.name)
  once : (columns.map (·.1)).Nodup
  typed : List.Forall₂ (fun column field => column.2.HasType field.type) columns
    (Schema.standard.fieldsOf kind)
  storable : ∀ column ∈ columns, column.2.Storable
  missing : ∀ column ∈ columns, column.2 = .null → column.1 = "acquisitio"

theorem Schema.nodup_names_standard (kind : Kind) :
    ((Schema.standard.fieldsOf kind).map (·.name)).Nodup := by
  cases kind <;> decide +kernel

theorem Schema.name_of_nullable {kind : Kind} :
    ∀ field ∈ Schema.standard.fieldsOf kind, field.nullable = true → field.name = "acquisitio" := by
  cases kind <;> decide +kernel

theorem fitsTable_of_readings {kind : Kind} {cs : Columns}
    (fields : readings.map (·.field) = Schema.standard.fieldsOf kind)
    (inRange : ∀ r ∈ readings, r.InRange) (h : readings.mapM column = .ok cs) :
    FitsTable kind cs := by
  have each := Results.mapM_eq_ok_iff.mp h
  have typed : List.Forall₂ (fun column field => column.1 = field.name ∧
      column.2.HasType field.type) cs (Schema.standard.fieldsOf kind) := by
    rw [← fields, List.forall₂_map_right_iff]
    refine (each.imp fun r c read => ?_).flip
    obtain ⟨v, value, rfl⟩ := column_eq_ok_iff.mp read
    exact ⟨rfl, (type?_value value).imp And.left And.left⟩
  have names : cs.map (·.1) = (Schema.standard.fieldsOf kind).map (·.name) := by
    rw [← List.forall₂_eq_eq_eq, List.forall₂_map_left_iff, List.forall₂_map_right_iff]
    exact typed.imp fun _ _ both => both.1
  have value : ∀ c ∈ cs, ∃ r ∈ readings, r.value = .ok c.2 ∧ r.field.name = c.1 := by
    intro c mem
    obtain ⟨r, inside, read⟩ := Results.exists_of_forall₂ each mem
    obtain ⟨v, value, rfl⟩ := column_eq_ok_iff.mp read
    exact ⟨r, inside, value, rfl⟩
  have once : (cs.map (·.1)).Nodup := by
    rw [names]
    exact Schema.nodup_names_standard kind
  refine ⟨names, once, typed.imp fun _ _ both => both.2, ?_, ?_⟩
  · intro c mem
    obtain ⟨r, inside, value, -⟩ := value c mem
    rcases type?_value value with ⟨null, -⟩ | ⟨-, storable⟩
    · rw [null]
      trivial
    · exact storable (inRange r inside)
  · intro c mem null
    obtain ⟨r, inside, value, name⟩ := value c mem
    rcases type?_value value with ⟨-, nullable⟩ | ⟨typed, -⟩
    · have declared : r.field ∈ Schema.standard.fieldsOf kind := by
        rw [← fields]
        exact List.mem_map_of_mem inside
      rw [← name]
      exact Schema.name_of_nullable r.field declared nullable
    · rw [null] at typed
      cases typed

/-! ## The four kinds -/

theorem fitsTable_observation {r : RawRecord} {o : Observation} (all : ∀ m ∈ r, m.2.InRange)
    (h : Observation.ofRecord r = .ok o) : FitsTable .observationRecord o.columns := by
  apply fitsTable_of_readings _ (RawRecord.inRange_readings all)
  · rw [← Observation.columns_ofRecord, h]
    rfl
  · rw [RawRecord.readings, List.map_map]
    exact List.map_id _

theorem fitsTable_axis {d : AxisDescription} {a : Axis} (all : ∀ r ∈ d.readings, r.InRange)
    (h : Axis.ofDescription d = .ok a) : FitsTable .axisEntry a.columns := by
  apply fitsTable_of_readings rfl all
  rw [← Axis.columns_ofDescription, h]
  rfl

theorem ProjectionWithAxes.axes_eq_of_ok {d : ProjectionDescription} {p : ProjectionWithAxes}
    (h : ofDescription d = .ok p) :
    d.coordinateSystem.axes.mapM Axis.ofDescription = .ok p.axes := by
  obtain ⟨_, -, h⟩ := Results.bind_eq_ok_iff.mp h
  obtain ⟨_, -, h⟩ := Results.bind_eq_ok_iff.mp h
  obtain ⟨_, -, h⟩ := Results.bind_eq_ok_iff.mp h
  obtain ⟨axes, read, h⟩ := Results.bind_eq_ok_iff.mp h
  obtain rfl := Except.ok.inj h
  exact read

theorem fitsTable_projection {d : ProjectionDescription} {p : ProjectionWithAxes}
    (all : ∀ r ∈ d.readings, r.InRange) (h : ProjectionWithAxes.ofDescription d = .ok p) :
    FitsTable .projectionDefinition p.projection.columns ∧
      ∀ a ∈ p.axes, FitsTable .axisEntry a.columns := by
  obtain ⟨own, others⟩ := List.forall_mem_append.mp all
  constructor
  · apply fitsTable_of_readings rfl own
    have whole : d.readings.mapM column =
        .ok (p.projection.columns ++ p.axes.flatMap Axis.columns) := by
      rw [← ProjectionWithAxes.columns_ofDescription, h]
      rfl
    rw [ProjectionDescription.readings, List.mapM_append] at whole
    obtain ⟨cs, read, whole⟩ := Results.bind_eq_ok_iff.mp whole
    obtain ⟨cs', -, whole⟩ := Results.bind_eq_ok_iff.mp whole
    have lengths : cs.length = p.projection.columns.length :=
      (Results.length_of_mapM_eq_ok read).trans rfl
    rw [read, (List.append_inj (Except.ok.inj whole) lengths).1]
  · intro a mem
    obtain ⟨x, inside, read⟩ :=
      Results.exists_of_mapM_eq_ok (ProjectionWithAxes.axes_eq_of_ok h) mem
    exact fitsTable_axis (fun r mem => others r (List.mem_flatMap.mpr ⟨x, inside, mem⟩)) read

theorem fitsTable_georeference {isFile : String → Bool} {d : GeoreferenceDescription}
    {g : Georeference} (all : ∀ r ∈ d.readings, r.InRange)
    (h : Georeference.ofDescription isFile d = .ok g) : FitsTable .georeferenceFile g.columns := by
  have read := Georeference.columns_ofDescription isFile d
  rw [h] at read
  split at read
  · exact fitsTable_of_readings rfl all read.symm
  · cases read

/-- What a description of a georeference file gives is text and doubles, which are never refused. -/
theorem coerces_georeference (d : GeoreferenceDescription) : ∀ r ∈ d.readings, r.Coerces :=
  mapM_column_eq_ok_iff.mp ⟨_, (Georeference.columns_ofDescription (fun _ => true) d).symm⟩

/-- So only the image decides. -/
theorem decidedBy_georeference (isFile : String → Bool) (d : GeoreferenceDescription) :
    DecidedBy (fun r => r.Coerces ∧ (r.field.name = "jpg" → isFile d.imagePath = true)) d.readings
      (Georeference.ofDescription isFile d) := by
  have order : d.readings = [⟨.required "path" .text, some (.string d.path)⟩] ++
      ⟨.required "jpg" .text, some (.string d.imagePath)⟩ :: d.readings.drop 2 := rfl
  have coerces := coerces_georeference d
  have imageGiven : ⟨.required "jpg" .text, some (.string d.imagePath)⟩ ∈ d.readings :=
    order ▸ List.mem_append_right _ List.mem_cons_self
  have outcome : Georeference.ofDescription isFile d =
      if isFile d.imagePath then .ok ⟨d.path, d.imagePath, d.placement⟩
      else .error (.value "jpg" (.missingImage d.imagePath)) := rfl
  rw [outcome]
  by_cases image : isFile d.imagePath = true
  · rw [if_pos image]
    exact ⟨⟨fun _ r mem => ⟨coerces r mem, fun _ => image⟩, fun _ => ⟨_, rfl⟩⟩,
      fun e refused => by cases refused⟩
  · rw [if_neg image]
    refine ⟨⟨?_, fun sound => absurd ((sound _ imageGiven).2 rfl) image⟩, ?_⟩
    · rintro ⟨_, ⟨⟩⟩
    · rintro _ ⟨⟩
      refine ⟨_, _, _, _, order, ?_, fun sound => image (sound.2 rfl), rfl⟩
      intro b mem
      obtain rfl := List.mem_singleton.mp mem
      have other : "path" ≠ "jpg" := by decide
      exact ⟨⟨_, rfl⟩, fun same => absurd same other⟩

/-- Whatever is accepted fits its table, and every column that is read decides whether it is. The
numbers of a tree that was read from a text are in range. -/
theorem accepted_fits_table :
    (∀ text tree, Json.read? text = some tree → tree.InRange) ∧
    ((∀ r, DecidedBy Coerces (RawRecord.readings r) (Observation.ofRecord r)) ∧
      (∀ d, DecidedBy Coerces (AxisDescription.readings d) (Axis.ofDescription d)) ∧
      (∀ d, DecidedBy Coerces (ProjectionDescription.readings d)
        (ProjectionWithAxes.ofDescription d)) ∧
      ∀ isFile d, DecidedBy
        (fun r => r.Coerces ∧ (r.field.name = "jpg" → isFile d.imagePath = true))
        (GeoreferenceDescription.readings d) (Georeference.ofDescription isFile d)) ∧
    ∀ tree : Json, tree.InRange →
      (∀ r, Decode.map tree = .ok r → ∀ o, Observation.ofRecord r = .ok o →
        FitsTable .observationRecord o.columns) ∧
      (∀ d, AxisDescription.decode tree = .ok d → ∀ a, Axis.ofDescription d = .ok a →
        FitsTable .axisEntry a.columns) ∧
      (∀ d, ProjectionDescription.decode tree = .ok d →
        ∀ p, ProjectionWithAxes.ofDescription d = .ok p →
          FitsTable .projectionDefinition p.projection.columns ∧
            ∀ a ∈ p.axes, FitsTable .axisEntry a.columns) ∧
      ∀ isFile d, GeoreferenceDescription.decode tree = .ok d →
        ∀ g, Georeference.ofDescription isFile d = .ok g →
          FitsTable .georeferenceFile g.columns := by
  refine ⟨fun _ _ => Json.inRange_of_read?,
    ⟨fun r => decidedBy_of_columns (Observation.columns_ofRecord r),
      fun d => decidedBy_of_columns (Axis.columns_ofDescription d),
      fun d => decidedBy_of_columns (ProjectionWithAxes.columns_ofDescription d),
      decidedBy_georeference⟩,
    fun tree inRange => ⟨?_, ?_, ?_, ?_⟩⟩
  · intro r decoded o
    exact fitsTable_observation (Decode.yields_map tree inRange r decoded)
  · intro d decoded a
    exact fitsTable_axis (AxisDescription.yields_readings tree inRange d decoded)
  · intro d decoded p
    exact fitsTable_projection (ProjectionDescription.yields_readings tree inRange d decoded)
  · intro isFile d decoded g
    exact fitsTable_georeference (GeoreferenceDescription.yields_readings tree inRange d decoded)

/-- An axis as it is given. -/
def northingTree : Json :=
  .object [("abbreviation", .string "N"), ("direction", .string "north"),
    ("name", .string "Northing"),
    ("unit", .object [("conversion_factor", .int 1), ("name", .string "metre"),
      ("type", .string "LinearUnit")])]

/-- A projection as it is given. -/
def planeTree : Json :=
  .object [("$schema", .string "projjson"),
    ("coordinate_system", .object [("axis", .array [northingTree]), ("subtype", .string "plane")]),
    ("datum", .object [
      ("ellipsoid", .object [("inverse_flattening", .int 0), ("name", .string "sphere"),
        ("semi_major_axis", .int 6371000)]),
      ("id", .object [("authority", .string "EPSG"), ("code", .int 6047)]),
      ("name", .string "sphere"), ("type", .string "frame")]),
    ("name", .string "plane"), ("type", .string "ProjectedCRS")]

/-- A georeference file as it is given. -/
def imageFileTree : Json :=
  .object [("path", .string "a.jgw"), ("rotation_x", .int 0), ("rotation_y", .int 0),
    ("scale_x", .int 30), ("scale_y", .int (-30)), ("upper_left_x", .int 500000),
    ("upper_left_y", .int 5000000)]

theorem inRange_trees : Json.InRange (.object plainRow) ∧ northingTree.InRange ∧
    planeTree.InRange ∧ imageFileTree.InRange := by
  refine ⟨?_, ?_, ?_, ?_⟩ <;>
    simp only [plainRow, planeTree, northingTree, imageFileTree, Json.int,
      Json.inRange_object_iff, Json.inRange_array_iff, Json.inRange_number_iff, Json.inRange_null,
      Json.inRange_string, List.forall_mem_cons, List.not_mem_nil, false_implies, implies_true,
      true_and, and_true, Number.InRange] <;>
    decide

theorem accepted_fits_table_allKinds :
    (∃ r o, Decode.map (.object plainRow) = .ok r ∧ Observation.ofRecord r = .ok o ∧
      FitsTable .observationRecord o.columns) ∧
    (∃ d a, AxisDescription.decode northingTree = .ok d ∧ Axis.ofDescription d = .ok a ∧
      FitsTable .axisEntry a.columns) ∧
    (∃ d p, ProjectionDescription.decode planeTree = .ok d ∧
      ProjectionWithAxes.ofDescription d = .ok p ∧
      FitsTable .projectionDefinition p.projection.columns ∧ p.axes.length = 1 ∧
        ∀ a ∈ p.axes, FitsTable .axisEntry a.columns) ∧
    ∃ d g, GeoreferenceDescription.decode imageFileTree = .ok d ∧
      Georeference.ofDescription (fun _ => true) d = .ok g ∧
      FitsTable .georeferenceFile g.columns := by
  obtain ⟨row, axis, projection, file⟩ := inRange_trees
  obtain ⟨-, -, fits⟩ := accepted_fits_table
  refine ⟨⟨_, _, rfl, rfl, ?_⟩, ⟨_, _, rfl, rfl, ?_⟩, ⟨_, _, rfl, rfl, ?_⟩, _, _, rfl, rfl, ?_⟩
  · exact (fits _ row).1 _ rfl _ rfl
  · exact (fits _ axis).2.1 _ rfl _ rfl
  · obtain ⟨own, axes⟩ := (fits _ projection).2.2.1 _ rfl _ rfl
    exact ⟨own, rfl, axes⟩
  · exact (fits _ file).2.2.2 (fun _ => true) _ rfl _ rfl

end SceneArchive
