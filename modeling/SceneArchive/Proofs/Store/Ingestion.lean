import SceneArchive.Proofs.Results
import SceneArchive.Proofs.Store.Outcome
import SceneArchive.Proofs.Store.ReadBack

/-!
# The effect of ingesting

What ingesting a manifest adds to each table, whether it succeeds or fails. The stages differ in
what a fault leaves behind: observations are stored one by one, so those before the fault stay; a
projection goes in with all its axes or not at all; georeference files go in only after all of
them are known to be valid.

* `storeObservations_cases`, `storeProjection?_cases`: the effect of the single stages.
* `ingest_effect`: the effect of the whole.
-/

namespace SceneArchive.Store

section

variable {α : Type} {agrees : α → α → Prop} {owner : Int}

/-- Whether a row has an owner, and content that agrees with what was given. -/
def Keeps (agrees : α → α → Prop) (owner : Int) (row : Stored (Owned α)) (given : α) : Prop :=
  row.content.owner = owner ∧ agrees row.content.content given

/-- The contents in their stored form, behind an owner. -/
def ownedBy (owner : Int) (storedForm : α → α) (contents : List α) : List (Owned α) :=
  contents.map fun content => ⟨owner, storedForm content⟩

theorem forall₂_keeps {storedForm : α → α} (agreed : ∀ a, agrees (storedForm a) a)
    {rows : List (Stored (Owned α))} {given : List α}
    (contents : rows.map (·.content) = ownedBy owner storedForm given) :
    List.Forall₂ (Keeps agrees owner) rows given := by
  have kept : List.Forall₂ (fun content new => content.owner = owner ∧ agrees content.content new)
      (rows.map (·.content)) given := by
    rw [contents, ownedBy, List.forall₂_map_left_iff, List.forall₂_same]
    exact fun new _ => ⟨rfl, agreed new⟩
  rw [List.forall₂_map_left_iff] at kept
  exact kept

end

/-- Rows that are added to the tables. -/
structure Added where
  directories : List (Stored Directory) := []
  observations : List (Stored (Owned Observation)) := []
  projections : List (Stored (Owned Projection)) := []
  axes : List (Stored (Owned Axis)) := []
  georeferences : List (Stored (Owned Georeference)) := []

/-- A store has the rows of another one and the added ones behind them. -/
structure Extends (s : Store) (added : Added) (t : Store) : Prop where
  directories : t.directories.rows = s.directories.rows ++ added.directories
  observations : t.observations.rows = s.observations.rows ++ added.observations
  projections : t.projections.rows = s.projections.rows ++ added.projections
  axes : t.axes.rows = s.axes.rows ++ added.axes
  georeferences : t.georeferences.rows = s.georeferences.rows ++ added.georeferences

namespace Added

/-- The directory of a token is the one that is stored, or it is the one added, with a path. -/
def HasDirectory (added : Added) (s : Store) (token path : String) (d : Stored Directory) : Prop :=
  (s.directoryOfToken? token = some d ∧ added.directories = []) ∨
    (s.directoryOfToken? token = none ∧ added.directories = [d] ∧ d.content = ⟨token, path⟩)

/-- The added observations are those of rows of an attribute table, in order. -/
def HasObservations (added : Added) (directory : Int) (records : List RawRecord) : Prop :=
  ∃ news, records.mapM Observation.ofRecord = .ok news ∧
    List.Forall₂ (Keeps Observation.Agrees directory) added.observations news

/-- What is added is a projection with all its axes, in order, or nothing if there is none. -/
def HasProjection (added : Added) (directory : Int) : Option ProjectionDescription → Prop
  | none => added.projections = [] ∧ added.axes = []
  | some description =>
    ∃ new row, ProjectionWithAxes.ofDescription description = .ok new ∧
      added.projections = [row] ∧ Keeps Projection.Agrees directory row new.projection ∧
      List.Forall₂ (Keeps Axis.Agrees row.id) added.axes new.axes

/-- The added georeference files are those of descriptions, in order. -/
def HasGeoreferences (added : Added) (isFile : String → Bool) (directory : Int)
    (descriptions : List GeoreferenceDescription) : Prop :=
  ∃ news, descriptions.mapM (Georeference.ofDescription isFile) = .ok news ∧
    List.Forall₂ (Keeps Georeference.Agrees directory) added.georeferences news

/-- What a manifest adds to a store if all of it is stored. -/
structure IsWhole (added : Added) (isFile : String → Bool) (s : Store) (m : Manifest)
    (summary : IngestSummary) : Prop where
  directory : ∃ d, d.id = summary.directoryId ∧ added.HasDirectory s summary.token m.path d
  token : m.resolvedToken = .ok summary.token
  observations : added.HasObservations summary.directoryId m.observations
  projection : added.HasProjection summary.directoryId m.projection
  georeferences : added.HasGeoreferences isFile summary.directoryId m.georeferences
  /-- The summary counts the rows. -/
  observationCount : summary.observations = added.observations.length
  projectionCount : summary.projections = added.projections.length
  axisCount : summary.axes = added.axes.length
  georeferenceCount : summary.georeferences = added.georeferences.length

/-- What a manifest adds to a store if it is stored up to a fault: nothing at all, or its
directory and the observations of the rows before the fault, and the projection with all axes
only behind the observations of all rows. -/
structure IsPartial (added : Added) (s : Store) (m : Manifest) : Prop where
  stages : added = {} ∨ ∃ token d, m.resolvedToken = .ok token ∧
    added.HasDirectory s token m.path d ∧
    (∃ k, added.HasObservations d.id (m.observations.take k)) ∧
    (added.projections = [] ∧ added.axes = [] ∨
      added.HasObservations d.id m.observations ∧ added.HasProjection d.id m.projection)
  georeferences : added.georeferences = []

theorem HasObservations.length {added : Added} {directory : Int} {records : List RawRecord}
    (h : added.HasObservations directory records) :
    added.observations.length = records.length := by
  obtain ⟨news, valid, kept⟩ := h
  rw [kept.length_eq, Results.length_of_mapM_eq_ok valid]

end Added

/-! ## The stages -/

theorem Resolves.of_resolved {s : Store} {now : String} {directory id : Int}
    {table : RecordTable Directory} (h : Resolves s now (.resolved directory) id table) :
    id = directory ∧ table = s.directories := by
  cases h
  exact ⟨rfl, rfl⟩

theorem getOrCreateDirectory_cases (now token path : String) (s : Store) :
    (∃ e, (getOrCreateDirectory now token path).outcome s = (.error e, s)) ∨
    (∃ d table added, table.rows = s.directories.rows ++ added ∧
      Added.HasDirectory { directories := added } s token path d ∧
      (getOrCreateDirectory now token path).outcome s =
        (.ok d, { s with directories := table })) := by
  rw [outcome_getOrCreateDirectory]
  split
  · exact .inl ⟨_, rfl⟩
  · right
    cases found : s.directoryOfToken? token with
    | some d => exact ⟨d, _, [], by simp [RecordTable.skipId], .inl ⟨found, rfl⟩, rfl⟩
    | none => exact ⟨_, _, [_], rfl, .inr ⟨found, rfl, rfl⟩, rfl⟩

/-- However storing observations ends, those of the rows up to some place are stored, and if it
succeeds that is all of them. -/
theorem storeObservations_cases (now : String) (directory : Int) (records : List RawRecord)
    (s : Store) :
    ∃ k result table added, table.rows = s.observations.rows ++ added ∧
      Added.HasObservations { observations := added } directory (records.take k) ∧
      (storeObservations now (.resolved directory) records).outcome s =
        (result, { s with observations := table }) ∧
      (result = .ok () → records.take k = records) := by
  induction records generalizing s with
  | nil => exact ⟨0, .ok (), s.observations, [], by simp, ⟨[], rfl, .nil⟩, rfl, fun _ => rfl⟩
  | cons record rest ih =>
    simp only [storeObservations, StoreM.outcome_bind]
    rcases storeObservation_cases now (.resolved directory) record s with
      ⟨-, e, h⟩ | ⟨-, new, id, table, valid, resolved, h⟩
    · rw [h]
      exact ⟨0, .error e, s.observations, [], by simp, ⟨[], rfl, .nil⟩, rfl, nofun⟩
    · obtain ⟨rfl, rfl⟩ := resolved.of_resolved
      rw [h]
      let row := (s.observations.insert now ⟨id, new.storedForm⟩).1
      have kept : Keeps Observation.Agrees id row new := ⟨rfl, new.storedForm_agrees⟩
      cases read : readObservation row with
      | error e =>
        have first : (List.take 1 (record :: rest)).mapM Observation.ofRecord = .ok [new] :=
          Results.mapM_cons_eq_ok_iff.mpr ⟨new, [], valid, rfl, rfl⟩
        exact ⟨1, .error e, (s.observations.insert now _).2, [row], rfl,
          ⟨[new], first, .cons kept .nil⟩, rfl, nofun⟩
      | ok _ =>
        obtain ⟨k, result, table, added, rows, ⟨news, front, others⟩, outcome, complete⟩ :=
          ih { s with observations := (s.observations.insert now ⟨id, new.storedForm⟩).2 }
        refine ⟨k + 1, result, table, row :: added, ?_,
          ⟨new :: news, ?_, .cons kept others⟩, outcome, ?_⟩
        · rw [rows]
          exact List.append_assoc s.observations.rows [row] added
        · exact Results.mapM_cons_eq_ok_iff.mpr ⟨new, news, valid, front, rfl⟩
        · intro success
          rw [List.take_succ_cons, complete success]

/-- The projection is not stored, or it is stored with all its axes, or there is none. -/
theorem storeProjection?_cases (now : String) (directory : Int)
    (description : Option ProjectionDescription) (s : Store) :
    (∃ e, (storeProjection? now (.resolved directory) description).outcome s = (.error e, s)) ∨
    (∃ projections axes addedProjections addedAxes,
      projections.rows = s.projections.rows ++ addedProjections ∧
      axes.rows = s.axes.rows ++ addedAxes ∧
      Added.HasProjection { projections := addedProjections, axes := addedAxes } directory
        description ∧
      (storeProjection? now (.resolved directory) description).outcome s =
        ( .ok (addedProjections.length, addedAxes.length),
          { s with projections, axes })) := by
  cases description with
  | none =>
    right
    exact ⟨s.projections, s.axes, [], [], by simp, by simp, ⟨rfl, rfl⟩, rfl⟩
  | some description =>
    simp only [storeProjection?, StoreM.outcome_bind]
    rcases storeProjection_cases now (.resolved directory) description s with
      ⟨-, e, h⟩ | ⟨-, id, table, -, resolved, -, e, h⟩ | ⟨new, id, table, valid, resolved, -, h⟩
    · rw [h]
      exact .inl ⟨e, rfl⟩
    · obtain ⟨rfl, rfl⟩ := resolved.of_resolved
      rw [h]
      exact .inl ⟨e, rfl⟩
    · obtain ⟨rfl, rfl⟩ := resolved.of_resolved
      right
      simp only at h
      rw [h]
      let row := (s.projections.insert now ⟨id, new.projection.storedForm⟩).1
      let contents := ownedBy row.id Axis.storedForm new.axes
      refine ⟨_, _, [row], (s.axes.insertAll now contents).1, rfl,
        RecordTable.insertAll_rows s.axes now contents, ?_, rfl⟩
      exact ⟨new, row, valid, rfl, ⟨rfl, new.projection.storedForm_agrees⟩,
        forall₂_keeps Axis.storedForm_agrees (RecordTable.insertAll_contents s.axes now contents)⟩

/-- The georeference files are stored once all of them are known to be valid. -/
theorem insertGeoreferences_rows (now : String) (directory : Int) (files : List Georeference)
    (s : Store) :
    ∃ table added, table.rows = s.georeferences.rows ++ added ∧
      List.Forall₂ (Keeps Georeference.Agrees directory) added files ∧
      (insertGeoreferences now directory files).outcome s =
        (.ok added, { s with georeferences := table }) := by
  let contents := ownedBy directory Georeference.storedForm files
  refine ⟨_, (s.georeferences.insertAll now contents).1,
    RecordTable.insertAll_rows s.georeferences now contents,
    forall₂_keeps Georeference.storedForm_agrees
      (RecordTable.insertAll_contents s.georeferences now contents), ?_⟩
  rw [outcome_insertGeoreferences]
  rfl

/-! ## The whole -/

/-- Whatever a manifest and a store are: ingesting leaves every row that was there, and adds all
that the manifest holds if it succeeds, and a part of it without georeference files if it
fails. -/
theorem ingest_effect (isFile : String → Bool) (now : String) (m : Manifest) (s : Store) :
    ∃ added, Extends s added ((ingest isFile now m).outcome s).2 ∧
      match ((ingest isFile now m).outcome s).1 with
      | .ok summary => added.IsWhole isFile s m summary
      | .error _ => added.IsPartial s m := by
  have unchanged : Extends s {} s := by constructor <;> simp
  unfold ingest
  simp only [StoreM.outcome_bind, StoreM.outcome_ofExcept]
  cases named : m.resolvedToken with
  | error e => exact ⟨{}, unchanged, .inl rfl, rfl⟩
  | ok token =>
    simp only
    rcases getOrCreateDirectory_cases now token m.path s with
      ⟨e, h⟩ | ⟨d, t₁, directories, rows₁, hasDirectory, h⟩
    · rw [h]
      exact ⟨{}, unchanged, .inl rfl, rfl⟩
    rw [h]
    simp only
    obtain ⟨k, result, t₂, observations, rows₂, hasObservations, h, complete⟩ :=
      storeObservations_cases now d.id m.observations { s with directories := t₁ }
    rw [h]
    -- a fault from here to the projection leaves the directory and some observations
    have added : Extends s { directories, observations }
        { s with directories := t₁, observations := t₂ } :=
      ⟨rows₁, rows₂, by simp, by simp, by simp⟩
    have stopped : Added.IsPartial { directories, observations } s m :=
      ⟨.inr ⟨token, d, named, hasDirectory, ⟨k, hasObservations⟩, .inl ⟨rfl, rfl⟩⟩, rfl⟩
    cases result with
    | error e => exact ⟨{ directories, observations }, added, stopped⟩
    | ok _ =>
      simp only
      have hasAll := hasObservations
      rw [complete rfl] at hasAll
      rcases storeProjection?_cases now d.id m.projection
          { s with directories := t₁, observations := t₂ } with
        ⟨e, h⟩ | ⟨t₃, t₄, projections, axes, rows₃, rows₄, hasProjection, h⟩
      · rw [h]
        exact ⟨{ directories, observations }, added, stopped⟩
      rw [h]
      simp only
      cases valid : m.georeferences.mapM (Georeference.ofDescription isFile) with
      | error e =>
        refine ⟨{ directories, observations, projections, axes },
          ⟨rows₁, rows₂, rows₃, rows₄, ?_⟩,
          .inr ⟨token, d, named, hasDirectory, ⟨k, hasObservations⟩, .inr ⟨hasAll, ?_⟩⟩, rfl⟩
        · simp
        · exact hasProjection
      | ok files =>
        simp only
        obtain ⟨t₅, georeferences, rows₅, kept, h⟩ := insertGeoreferences_rows now d.id files
          { s with directories := t₁, observations := t₂, projections := t₃, axes := t₄ }
        rw [h]
        refine ⟨{ directories, observations, projections, axes, georeferences },
          ⟨rows₁, rows₂, rows₃, rows₄, rows₅⟩, ?_⟩
        exact {
          token := named
          directory := ⟨d, rfl, hasDirectory⟩
          observations := hasAll
          projection := hasProjection
          georeferences := ⟨files, valid, kept⟩
          observationCount := hasAll.length.symm
          projectionCount := rfl
          axisCount := rfl
          georeferenceCount := rfl }

/-! ### A manifest of two passes -/

/-- The row of a pass of a satellite over a scene. -/
def passRow (satellite : String) (orbit : Int) : RawRecord :=
  [ ("acquisitio", .string "2024-01-31"), ("batch", .string "b1"),
    ("cloudperce", .string "12,5"), ("orbitid", .number (.int orbit)),
    ("satellite", .string satellite), ("scenepath", .string "191"), ("scenerow", .string "25.0"),
    ("sensorid", .string "TM"), ("tarsize", .number (.int 1024)) ]

/-- The observation of such a row. -/
def pass (satellite : String) (orbit : Int) : Observation where
  batch := "b1"
  tarSize := 1024
  satellite := satellite
  sensor := "TM"
  acquired := some ⟨2024, 1, 31, by decide⟩
  cloudPercent := 12.5
  orbit := orbit
  scenePath := 191
  sceneRow := 25

/-- An axis as it is described. -/
def northing : AxisDescription :=
  ⟨"Northing", "N", "north", ⟨"LinearUnit", "half metre", .string "0,5"⟩⟩

/-- A projection with two axes as it is described. -/
def plane : ProjectionDescription where
  schema := "projjson"
  type := "ProjectedCRS"
  name := "plane"
  datum := ⟨"GeodeticReferenceFrame", "sphere",
    ⟨"sphere", .number (.int 6371000), .string "-0"⟩, ⟨"EPSG", .string "6047"⟩⟩
  coordinateSystem := ⟨"Cartesian",
    [⟨"Easting", "E", "east", ⟨"LinearUnit", "metre", .number (.int 1)⟩⟩, northing]⟩

/-- The projection that is stored for it, the axes apart. -/
def planeProjection : Projection where
  schema := "projjson"
  type := "ProjectedCRS"
  name := "plane"
  datumType := "GeodeticReferenceFrame"
  datumName := "sphere"
  ellipsoidName := "sphere"
  semiMajorAxis := 6371000
  inverseFlattening := -0
  datumAuthority := "EPSG"
  datumCode := 6047
  subtype := "Cartesian"

/-- The axes that are stored for it. -/
def planeAxes : List Axis :=
  [ ⟨"Easting", "E", "east", "LinearUnit", "metre", 1⟩,
    ⟨"Northing", "N", "north", "LinearUnit", "half metre", 0.5⟩ ]

/-- A georeference file beside its image. -/
def imageFile : GeoreferenceDescription := ⟨"a.jgw", none, 30, -0, 0, -30, 500000, 5000000⟩

/-- A manifest with two passes, a projection and a georeference file. -/
def twoPasses : Manifest where
  path := "a"
  token := some "20240101"
  observations := [passRow "LT5" 1, passRow "LC8" 2]
  projection := some plane
  georeferences := [imageFile]

theorem ofDescription_plane :
    ProjectionWithAxes.ofDescription plane = .ok ⟨planeProjection, planeAxes⟩ := by
  decide +kernel

/-- With the image all of the manifest is stored, and without it all but the georeference file. -/
theorem ingest_effect_twoPasses :
    (∃ (added : Added) (summary : IngestSummary),
      ((ingest (fun _ => true) "2024-02-01T00:00:00Z" twoPasses).outcome empty).1 = .ok summary ∧
        added.IsWhole (fun _ => true) empty twoPasses summary ∧
        summary = ⟨1, "20240101", 2, 1, 2, 1⟩ ∧
        List.Forall₂ (Keeps Observation.Agrees 1) added.observations [pass "LT5" 1, pass "LC8" 2] ∧
        (∃ row, added.projections = [row] ∧ Keeps Projection.Agrees 1 row planeProjection ∧
          List.Forall₂ (Keeps Axis.Agrees row.id) added.axes planeAxes) ∧
        List.Forall₂ (Keeps Georeference.Agrees 1) added.georeferences
          [⟨"a.jgw", "a.jpg", ⟨30, -0, 0, -30, 500000, 5000000⟩⟩]) ∧
    ∃ (added : Added) (e : IndexError),
      ((ingest (fun _ => false) "2024-02-01T00:00:00Z" twoPasses).outcome empty).1 = .error e ∧
        added.IsPartial empty twoPasses ∧
        ((ingest (fun _ => false) "2024-02-01T00:00:00Z" twoPasses).outcome empty).2.counts =
          [1, 2, 1, 2, 0] := by
  constructor
  · have whole := ingest_effect (fun _ => true) "2024-02-01T00:00:00Z" twoPasses empty
    have success :
        ((ingest (fun _ => true) "2024-02-01T00:00:00Z" twoPasses).outcome empty).1 =
          .ok ⟨1, "20240101", 2, 1, 2, 1⟩ := by
      decide +kernel
    rw [success] at whole
    obtain ⟨added, -, effect⟩ := whole
    refine ⟨added, _, success, effect, rfl, ?_, ?_, ?_⟩
    · obtain ⟨news, valid, kept⟩ := effect.observations
      have passes : twoPasses.observations.mapM Observation.ofRecord =
          .ok [pass "LT5" 1, pass "LC8" 2] := by
        decide +kernel
      cases passes.symm.trans valid
      exact kept
    · obtain ⟨new, row, valid, only, kept, axes⟩ := effect.projection
      cases ofDescription_plane.symm.trans valid
      exact ⟨row, only, kept, axes⟩
    · obtain ⟨news, valid, kept⟩ := effect.georeferences
      have files : twoPasses.georeferences.mapM (Georeference.ofDescription fun _ => true) =
          .ok [⟨"a.jgw", "a.jpg", ⟨30, -0, 0, -30, 500000, 5000000⟩⟩] := by
        decide +kernel
      cases files.symm.trans valid
      exact kept
  · have part := ingest_effect (fun _ => false) "2024-02-01T00:00:00Z" twoPasses empty
    have failure :
        ((ingest (fun _ => false) "2024-02-01T00:00:00Z" twoPasses).outcome empty).1 =
          .error (.value "jpg" (.missingImage "a.jpg")) := by
      decide +kernel
    rw [failure] at part
    obtain ⟨added, -, effect⟩ := part
    exact ⟨added, _, failure, effect, by decide +kernel⟩

end SceneArchive.Store
