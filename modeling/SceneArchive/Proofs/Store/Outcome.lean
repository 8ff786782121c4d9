import SceneArchive.Store.Ingest

/-!
# Outcomes of store actions

What each action on a store can do, said once: the result together with the store that is left,
whether the action fails or not. Later modules read these statements and never open an action.

* `outcome_bind` and its companions: actions run one after the other, and a failure keeps what was
  stored before it.
* `Resolves`: the three ways in which a reference to a directory is resolved.
* `RecordTable.insertAll`: rows inserted one after the other, which is what `insertAxes` and
  `insertGeoreferences` do to their tables.
* `storeObservation_cases`, `storeProjection_cases`, `storeAxis_cases`,
  `storeGeoreference_cases`: an action fails before it inserts anything, or it updates the tables
  in the one way that is written out.
-/

namespace SceneArchive

/-! ## Running actions -/

namespace StoreM

variable {α β : Type}

@[simp]
theorem outcome_get (s : Store) : (get : StoreM Store).outcome s = (.ok s, s) := rfl

@[simp]
theorem outcome_set (s t : Store) : (set t : StoreM Unit).outcome s = (.ok (), t) := rfl

@[simp]
theorem outcome_ofExcept (x : Except IndexError α) (s : Store) :
    (ofExcept x).outcome s = (x, s) := rfl

theorem outcome_bind (x : StoreM α) (f : α → StoreM β) (s : Store) :
    (x >>= f).outcome s =
      match x.outcome s with
      | (.ok a, t) => (f a).outcome t
      | (.error e, t) => (.error e, t) := by
  change StateT.bind x (ExceptT.bindCont f) s =
    match x s with
    | (.ok a, t) => (f a).outcome t
    | (.error e, t) => (.error e, t)
  rcases h : x s with ⟨_ | _, t⟩ <;> simp only [StateT.bind, h] <;> rfl

end StoreM

/-! ## Tables -/

namespace RecordTable

variable {α : Type}

theorem isSome_get?_iff {t : RecordTable α} {id : Int} :
    (t.get? id).isSome ↔ ∃ r ∈ t.rows, r.id = id := by
  simp [get?, List.find?_isSome]

/-- Adds records in order, each under the next identifier. -/
def insertAll (t : RecordTable α) (now : String) : List α → List (Stored α) × RecordTable α
  | [] => ([], t)
  | content :: rest =>
    let (record, t) := t.insert now content
    let (records, t) := t.insertAll now rest
    (record :: records, t)

theorem insertAll_rows (t : RecordTable α) (now : String) (contents : List α) :
    (t.insertAll now contents).2.rows = t.rows ++ (t.insertAll now contents).1 := by
  induction contents generalizing t with
  | nil => simp [insertAll]
  | cons content rest ih =>
    simp only [insertAll, ih]
    simp [insert]

theorem insertAll_contents (t : RecordTable α) (now : String) (contents : List α) :
    (t.insertAll now contents).1.map (·.content) = contents := by
  induction contents generalizing t with
  | nil => rfl
  | cons content rest ih => simp [insertAll, ih, insert]

end RecordTable

namespace Store

/-! ## Directories -/

/-- Whether a directory of an identifier is stored. -/
def HasDirectory (s : Store) (id : Int) : Prop := ∃ d ∈ s.directories.rows, d.id = id

/-- Whether a projection of an identifier is stored. -/
def HasProjection (s : Store) (id : Int) : Prop := ∃ p ∈ s.projections.rows, p.id = id

theorem outcome_getOrCreateDirectory (now token path : String) (s : Store) :
    (getOrCreateDirectory now token path).outcome s =
      if Text.allBlank token then (.error (.value "date_str" .emptyToken), s)
      else
        match s.directoryOfToken? token with
        | some d => (.ok d, { s with directories := s.directories.skipId })
        | none =>
          ( .ok (s.directories.insert now ⟨token, path⟩).1,
            { s with directories := (s.directories.insert now ⟨token, path⟩).2 }) := by
  unfold getOrCreateDirectory
  split
  · rfl
  · simp only [StoreM.outcome_bind, StoreM.outcome_get]
    cases s.directoryOfToken? token <;> rfl

/-- How a reference to a directory is resolved: the identifier that it leads to and the table of
directories that is left. -/
inductive Resolves (s : Store) (now : String) : ParentRef → Int → RecordTable Directory → Prop
  | stored {id : Int} (found : s.HasDirectory id) :
      Resolves s now (.resolved id) id s.directories
  | reused {token path : String} {d : Stored Directory} (present : Text.allBlank token = false)
      (found : s.directoryOfToken? token = some d) :
      Resolves s now (.named token path) d.id s.directories.skipId
  | created {token path : String} (present : Text.allBlank token = false)
      (absent : s.directoryOfToken? token = none) :
      Resolves s now (.named token path) (s.directories.insert now ⟨token, path⟩).1.id
        (s.directories.insert now ⟨token, path⟩).2

/-- Whether a reference leads to a directory: to one that is stored, or to the directory of a
token that is not blank, which is created if need be. -/
def LeadsToDirectory (s : Store) : ParentRef → Prop
  | .resolved id => s.HasDirectory id
  | .named token _ => Text.allBlank token = false

theorem resolveDirectory_cases (now : String) (parent : ParentRef) (s : Store) :
    (¬ s.LeadsToDirectory parent ∧
      ∃ e, (resolveDirectory now parent).outcome s = (.error e, s)) ∨
    (s.LeadsToDirectory parent ∧ ∃ id table, Resolves s now parent id table ∧
      (resolveDirectory now parent).outcome s = (.ok id, { s with directories := table })) := by
  cases parent with
  | resolved id =>
    simp only [resolveDirectory, StoreM.outcome_bind, StoreM.outcome_get, LeadsToDirectory]
    cases h : s.directories.get? id with
    | none =>
      left
      refine ⟨?_, _, rfl⟩
      intro found
      have := RecordTable.isSome_get?_iff.mpr found
      simp [h] at this
    | some d =>
      right
      have found : s.HasDirectory id := RecordTable.isSome_get?_iff.mp (by simp [h])
      exact ⟨found, id, s.directories, .stored found, rfl⟩
  | named token path =>
    simp only [resolveDirectory, StoreM.outcome_bind, outcome_getOrCreateDirectory,
      LeadsToDirectory]
    cases blank : Text.allBlank token with
    | true => exact .inl ⟨by simp, _, rfl⟩
    | false =>
      right
      refine ⟨rfl, ?_⟩
      cases h : s.directoryOfToken? token with
      | some d => exact ⟨d.id, _, .reused blank h, rfl⟩
      | none => exact ⟨_, _, .created blank h, rfl⟩

/-- A resolved reference leads to a directory of the table that is left. -/
theorem Resolves.hasDirectory {s : Store} {now : String} {parent : ParentRef} {id : Int}
    {table : RecordTable Directory} (h : Resolves s now parent id table) :
    HasDirectory { s with directories := table } id := by
  cases h with
  | stored found => exact found
  | reused _ found => exact ⟨_, List.mem_of_find?_eq_some found, rfl⟩
  | created => exact ⟨_, by simp [RecordTable.insert], rfl⟩

/-! ## Observations -/

/-- An observation is refused before anything is stored, or its row is inserted behind the
directory that it belongs to; the result is what the row reads back as. -/
theorem storeObservation_cases (now : String) (parent : ParentRef) (record : RawRecord)
    (s : Store) :
    ((¬ s.LeadsToDirectory parent ∨ ∃ e, Observation.ofRecord record = .error e) ∧
      ∃ e, (storeObservation now parent record).outcome s = (.error e, s)) ∨
    (s.LeadsToDirectory parent ∧
      ∃ new id table, Observation.ofRecord record = .ok new ∧ Resolves s now parent id table ∧
        (storeObservation now parent record).outcome s =
          ( readObservation (s.observations.insert now ⟨id, new.storedForm⟩).1,
            { s with
              directories := table
              observations := (s.observations.insert now ⟨id, new.storedForm⟩).2 })) := by
  simp only [storeObservation, StoreM.outcome_bind, StoreM.outcome_ofExcept]
  cases hNew : Observation.ofRecord record with
  | error e => exact .inl ⟨.inr ⟨e, rfl⟩, e, rfl⟩
  | ok new =>
    rcases resolveDirectory_cases now parent s with ⟨lost, e, h⟩ | ⟨found, id, table, hRes, h⟩
    · left
      simp only [h]
      exact ⟨.inl lost, e, rfl⟩
    · right
      simp only [h]
      exact ⟨found, new, id, table, rfl, hRes, rfl⟩

/-! ## Projections and axes -/

theorem outcome_insertAxes (now : String) (projection : Int) (axes : List Axis) (s : Store) :
    (insertAxes now projection axes).outcome s =
      let (records, table) := s.axes.insertAll now (axes.map fun a => ⟨projection, a.storedForm⟩)
      (.ok records, { s with axes := table }) := by
  induction axes generalizing s with
  | nil => rfl
  | cons axis rest ih =>
    simp only [insertAxes, StoreM.outcome_bind, StoreM.outcome_get, StoreM.outcome_set, ih]
    rfl

/-- A projection is refused before anything is stored, or because its directory has one already,
or it is inserted together with all its axes. -/
theorem storeProjection_cases (now : String) (parent : ParentRef)
    (description : ProjectionDescription) (s : Store) :
    ((¬ s.LeadsToDirectory parent ∨ ∃ e, ProjectionWithAxes.ofDescription description = .error e) ∧
      ∃ e, (storeProjection now parent description).outcome s = (.error e, s)) ∨
    (∃ new id table, ProjectionWithAxes.ofDescription description = .ok new ∧
      Resolves s now parent id table ∧ (s.projectionOf? id).isSome ∧
        ∃ e, (storeProjection now parent description).outcome s =
          (.error e, { s with directories := table })) ∨
    (∃ new id table, ProjectionWithAxes.ofDescription description = .ok new ∧
      Resolves s now parent id table ∧ s.projectionOf? id = none ∧
        let (stored, projections) :=
          s.projections.insert now ⟨id, new.projection.storedForm⟩
        let (axisRows, axes) :=
          s.axes.insertAll now (new.axes.map fun a => ⟨stored.id, a.storedForm⟩)
        (storeProjection now parent description).outcome s =
          (.ok (stored, axisRows), { s with directories := table, projections, axes })) := by
  simp only [storeProjection, StoreM.outcome_bind, StoreM.outcome_ofExcept]
  cases hNew : ProjectionWithAxes.ofDescription description with
  | error e => exact .inl ⟨.inr ⟨e, rfl⟩, e, rfl⟩
  | ok new =>
    rcases resolveDirectory_cases now parent s with ⟨lost, e, h⟩ | ⟨-, id, table, hRes, h⟩
    · left
      simp only [h]
      exact ⟨.inl lost, e, rfl⟩
    · right
      simp only [h, StoreM.outcome_get]
      have same : ({ s with directories := table } : Store).projectionOf? id =
        s.projectionOf? id := rfl
      rw [same]
      cases hOld : s.projectionOf? id with
      | some old => exact .inl ⟨new, id, table, rfl, hRes, by simp [hOld], _, rfl⟩
      | none =>
        refine .inr ⟨new, id, table, rfl, hRes, hOld, ?_⟩
        simp only [StoreM.outcome_bind, StoreM.outcome_set, outcome_insertAxes]
        rfl

/-- An axis is refused before anything is stored, or it is inserted behind its projection. -/
theorem storeAxis_cases (now : String) (projection : Int) (description : AxisDescription)
    (s : Store) :
    ((¬ s.HasProjection projection ∨ ∃ e, Axis.ofDescription description = .error e) ∧
      ∃ e, (storeAxis now projection description).outcome s = (.error e, s)) ∨
    (∃ new, Axis.ofDescription description = .ok new ∧ s.HasProjection projection ∧
      let (stored, axes) := s.axes.insert now ⟨projection, new.storedForm⟩
      (storeAxis now projection description).outcome s = (.ok stored, { s with axes })) := by
  simp only [storeAxis, StoreM.outcome_bind, StoreM.outcome_ofExcept]
  cases hNew : Axis.ofDescription description with
  | error e => exact .inl ⟨.inr ⟨e, rfl⟩, e, rfl⟩
  | ok new =>
    simp only [StoreM.outcome_get]
    cases h : s.projections.get? projection with
    | none =>
      have lost : ¬ s.HasProjection projection := by
        intro found
        have := RecordTable.isSome_get?_iff.mpr found
        simp [h] at this
      exact .inl ⟨.inl lost, _, rfl⟩
    | some p => exact .inr ⟨new, rfl, RecordTable.isSome_get?_iff.mp (by simp [h]), rfl⟩

/-! ## Georeference files -/

theorem outcome_insertGeoreferences (now : String) (directory : Int) (files : List Georeference)
    (s : Store) :
    (insertGeoreferences now directory files).outcome s =
      let (records, table) :=
        s.georeferences.insertAll now (files.map fun g => ⟨directory, g.storedForm⟩)
      (.ok records, { s with georeferences := table }) := by
  induction files generalizing s with
  | nil => rfl
  | cons file rest ih =>
    simp only [insertGeoreferences, StoreM.outcome_bind, StoreM.outcome_get, StoreM.outcome_set,
      ih]
    rfl

/-- A georeference file is refused before anything is stored, or it is inserted behind the
directory that it belongs to. -/
theorem storeGeoreference_cases (isFile : String → Bool) (now : String) (parent : ParentRef)
    (description : GeoreferenceDescription) (s : Store) :
    ((¬ s.LeadsToDirectory parent ∨
        ∃ e, Georeference.ofDescription isFile description = .error e) ∧
      ∃ e, (storeGeoreference isFile now parent description).outcome s = (.error e, s)) ∨
    (∃ new id table, Georeference.ofDescription isFile description = .ok new ∧
      Resolves s now parent id table ∧
        let (stored, georeferences) := s.georeferences.insert now ⟨id, new.storedForm⟩
        (storeGeoreference isFile now parent description).outcome s =
          (.ok stored, { s with directories := table, georeferences })) := by
  simp only [storeGeoreference, StoreM.outcome_bind, StoreM.outcome_ofExcept]
  cases hNew : Georeference.ofDescription isFile description with
  | error e => exact .inl ⟨.inr ⟨e, rfl⟩, e, rfl⟩
  | ok new =>
    rcases resolveDirectory_cases now parent s with ⟨lost, e, h⟩ | ⟨-, id, table, hRes, h⟩
    · left
      simp only [h]
      exact ⟨.inl lost, e, rfl⟩
    · right
      simp only [h]
      exact ⟨new, id, table, rfl, hRes, rfl⟩

end Store

end SceneArchive
