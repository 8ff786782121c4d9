import SceneArchive.Proofs.Store.Directories
import SceneArchive.Proofs.Store.Ingestion

/-!
# Storing projections, axes and georeference files

Each of the three actions does all or nothing, although the directory of a token is created before
the rest and is not taken back. Nothing can fail behind a directory that was just created: what is
stored is validated before the directory is looked for, and the one fault that may come after it is
that the directory has a projection already, which a new one has not.

* `Resolves.projectionOf?_eq`: whether there is a projection already does not depend on what was
  created.
* `storeProjection_allOrNothing` and its companions: the effect of each action, and when it
  succeeds.
* `dependents_allOrNothing`: all three together, for every store that calls lead to.
-/

namespace SceneArchive.Store

variable {isFile : String → Bool} {s : Store} {now : String} {parent : ParentRef} {id : Int}
  {table : RecordTable Directory}

/-- All or nothing: an error leaves every table as it was, and a result comes with the added rows
that `adds` tells. -/
def AllOrNothing {α : Type} (s : Store) (adds : α → Added → Prop) :
    Except IndexError α × Store → Prop
  | (.error _, t) => ∀ kind, t.rows kind = s.rows kind
  | (.ok result, t) => ∃ added, Extends s added t ∧ adds result added

section AllOrNothing

variable {α : Type} {adds : α → Added → Prop} {x : Except IndexError α × Store}

theorem AllOrNothing.rows_eq (h : s.AllOrNothing adds x) (failed : x.1.isOk = false) (kind : Kind) :
    x.2.rows kind = s.rows kind := by
  obtain ⟨_ | _, t⟩ := x
  · exact h kind
  · cases failed

theorem AllOrNothing.exists_added (h : s.AllOrNothing adds x) (success : x.1.isOk = true) :
    ∃ result added, x.1 = .ok result ∧ Extends s added x.2 ∧ adds result added := by
  obtain ⟨_ | result, t⟩ := x
  · cases success
  · obtain ⟨added, grown, holds⟩ := h
    exact ⟨result, added, rfl, grown, holds⟩

end AllOrNothing

/-- The directory that a reference leads to, as far as it is stored. -/
def directoryOf? (s : Store) : ParentRef → Option Int
  | .resolved id => some id
  | .named token _ => (s.directoryOfToken? token).map (·.id)

/-- The projection that the directory of a reference has already. -/
def projectionUnder? (s : Store) (parent : ParentRef) : Option (Stored (Owned Projection)) :=
  (s.directoryOf? parent).bind s.projectionOf?

namespace Added

/-- The directory of a reference is the stored one of its identifier or of its token; only the
directory of a token that has none is added. -/
def HasParent (added : Added) (s : Store) : ParentRef → Int → Prop
  | .resolved id, owner => owner = id ∧ s.HasDirectory id ∧ added.directories = []
  | .named token path, owner => ∃ d, d.id = owner ∧ added.HasDirectory s token path d

/-- Just a projection and its axes, in order, and what there was not yet of its directory. -/
structure IsProjection (added : Added) (s : Store) (parent : ParentRef)
    (description : ProjectionDescription)
    (result : Stored (Owned Projection) × List (Stored (Owned Axis))) : Prop where
  rows : added =
    { directories := added.directories, projections := [result.1], axes := result.2 }
  parent : added.HasParent s parent result.1.content.owner
  content : added.HasProjection result.1.content.owner (some description)

/-- Just an axis of a stored projection. -/
structure IsAxis (added : Added) (s : Store) (projection : Int) (description : AxisDescription)
    (result : Stored (Owned Axis)) : Prop where
  rows : added = { axes := [result] }
  owner : s.HasProjection projection
  content : ∃ new, Axis.ofDescription description = .ok new ∧
    Keeps Axis.Agrees projection result new

/-- Just a georeference file, and what there was not yet of its directory. -/
structure IsGeoreference (added : Added) (isFile : String → Bool) (s : Store) (parent : ParentRef)
    (description : GeoreferenceDescription) (result : Stored (Owned Georeference)) : Prop where
  rows : added = { directories := added.directories, georeferences := [result] }
  parent : added.HasParent s parent result.content.owner
  content : ∃ new, Georeference.ofDescription isFile description = .ok new ∧
    result.content.content.Agrees new

end Added

/-! ## Directories -/

theorem Resolves.leadsToDirectory (h : Resolves s now parent id table) :
    s.LeadsToDirectory parent := by
  cases h with
  | stored found => exact found
  | reused present => exact present
  | created present => exact present

theorem Resolves.exists_added (h : Resolves s now parent id table) :
    ∃ directories, table.rows = s.directories.rows ++ directories ∧
      Added.HasParent { directories } s parent id := by
  cases h with
  | stored found => exact ⟨[], by simp, rfl, found, rfl⟩
  | reused _ found => exact ⟨[], by simp [RecordTable.skipId], _, rfl, .inl ⟨found, rfl⟩⟩
  | created _ absent => exact ⟨_, rfl, _, rfl, .inr ⟨absent, rfl, rfl⟩⟩

/-- The identifier that comes next belongs to no projection yet. -/
theorem WellFormed.projectionOf?_next (h : s.WellFormed isFile) :
    s.projectionOf? (s.directories.lastId + 1) = none := by
  refine List.find?_eq_none.mpr ?_
  intro p hp same
  obtain ⟨d, hd, owner⟩ := h.projection_owner p hp
  have := h.directories.bounded d hd
  rw [beq_iff_eq] at same
  omega

theorem Resolves.projectionOf?_eq (h : Resolves s now parent id table)
    (wellFormed : s.WellFormed isFile) : s.projectionOf? id = s.projectionUnder? parent := by
  cases h with
  | stored => rfl
  | reused _ found =>
    rw [projectionUnder?, directoryOf?, found]
    rfl
  | created _ absent =>
    rw [projectionUnder?, directoryOf?, absent]
    exact wellFormed.projectionOf?_next

/-- Where there is a projection already, no directory was created. -/
theorem Resolves.rows_eq (h : Resolves s now parent id table) (wellFormed : s.WellFormed isFile)
    (existing : (s.projectionOf? id).isSome) : table.rows = s.directories.rows := by
  cases h with
  | stored => rfl
  | reused => rfl
  | created =>
    have fresh := wellFormed.projectionOf?_next
    change (s.projectionOf? (s.directories.lastId + 1)).isSome = true at existing
    rw [fresh] at existing
    cases existing

theorem rows_of_directories_eq (same : table.rows = s.directories.rows) (kind : Kind) :
    rows { s with directories := table } kind = s.rows kind := by
  cases kind with
  | metadataDirectory => exact congrArg (List.map Entity.directory) same
  | _ => rfl

/-! ## The three actions -/

theorem not_isOk_error {α : Type} {e : IndexError} :
    ¬ (Except.error e : Except IndexError α).isOk = true := by
  simp [Except.isOk, Except.toBool]

theorem not_accepted {α : Type} {found : Prop} {validated : Except IndexError α}
    (refused : ¬ found ∨ ∃ e, validated = .error e) :
    ¬ ((∃ new, validated = .ok new) ∧ found) := by
  rintro ⟨⟨new, valid⟩, isFound⟩
  rcases refused with lost | ⟨e, invalid⟩
  · exact lost isFound
  · rw [valid] at invalid
    cases invalid

/-- Storing a projection succeeds exactly for a valid description under a directory without one. -/
theorem storeProjection_allOrNothing (wellFormed : s.WellFormed isFile) (now : String)
    (parent : ParentRef) (description : ProjectionDescription) :
    s.AllOrNothing (fun result added => added.IsProjection s parent description result)
        ((storeProjection now parent description).outcome s) ∧
      (((storeProjection now parent description).outcome s).1.isOk ↔
        (∃ new, ProjectionWithAxes.ofDescription description = .ok new) ∧
          s.LeadsToDirectory parent ∧ s.projectionUnder? parent = none) := by
  rcases storeProjection_cases now parent description s with
    ⟨refused, e, h⟩ | ⟨new, id, table, valid, resolved, existing, e, h⟩ |
    ⟨new, id, table, valid, resolved, first, h⟩
  · rw [h]
    refine ⟨fun kind => rfl, fun success => absurd success not_isOk_error, ?_⟩
    rintro ⟨valid, found, -⟩
    exact absurd ⟨valid, found⟩ (not_accepted refused)
  · rw [h]
    refine ⟨rows_of_directories_eq (resolved.rows_eq wellFormed existing),
      fun success => absurd success not_isOk_error, ?_⟩
    rintro ⟨-, -, first⟩
    rw [resolved.projectionOf?_eq wellFormed, first] at existing
    cases existing
  · obtain ⟨directories, rows, hasParent⟩ := resolved.exists_added
    let row := (s.projections.insert now ⟨id, new.projection.storedForm⟩).1
    let contents := ownedBy row.id Axis.storedForm new.axes
    simp only at h
    rw [h]
    refine ⟨⟨{ directories, projections := [row], axes := (s.axes.insertAll now contents).1 },
      ⟨rows, by simp, rfl, RecordTable.insertAll_rows s.axes now contents, by simp⟩,
      rfl, hasParent, new, row, valid, rfl, ⟨rfl, new.projection.storedForm_agrees⟩,
      forall₂_keeps Axis.storedForm_agrees
        (RecordTable.insertAll_contents s.axes now contents)⟩, ?_⟩
    refine ⟨fun _ => ⟨⟨new, valid⟩, resolved.leadsToDirectory, ?_⟩, fun _ => rfl⟩
    rw [← resolved.projectionOf?_eq wellFormed, first]

/-- Storing an axis succeeds exactly for a valid description of an axis of a stored projection. -/
theorem storeAxis_allOrNothing (now : String) (projection : Int) (description : AxisDescription)
    (s : Store) :
    s.AllOrNothing (fun result added => added.IsAxis s projection description result)
        ((storeAxis now projection description).outcome s) ∧
      (((storeAxis now projection description).outcome s).1.isOk ↔
        (∃ new, Axis.ofDescription description = .ok new) ∧ s.HasProjection projection) := by
  rcases storeAxis_cases now projection description s with
    ⟨refused, e, h⟩ | ⟨new, valid, owner, h⟩
  · rw [h]
    exact ⟨fun kind => rfl, fun success => absurd success not_isOk_error,
      fun accepted => absurd accepted (not_accepted refused)⟩
  · simp only at h
    rw [h]
    exact ⟨⟨_, ⟨by simp, by simp, by simp, rfl, by simp⟩, rfl, owner, new, valid, rfl,
        new.storedForm_agrees⟩,
      fun _ => ⟨⟨new, valid⟩, owner⟩, fun _ => rfl⟩

/-- Storing a georeference file succeeds exactly for a valid description under a directory. -/
theorem storeGeoreference_allOrNothing (isFile : String → Bool) (now : String)
    (parent : ParentRef) (description : GeoreferenceDescription) (s : Store) :
    s.AllOrNothing (fun result added => added.IsGeoreference isFile s parent description result)
        ((storeGeoreference isFile now parent description).outcome s) ∧
      (((storeGeoreference isFile now parent description).outcome s).1.isOk ↔
        (∃ new, Georeference.ofDescription isFile description = .ok new) ∧
          s.LeadsToDirectory parent) := by
  rcases storeGeoreference_cases isFile now parent description s with
    ⟨refused, e, h⟩ | ⟨new, id, table, valid, resolved, h⟩
  · rw [h]
    exact ⟨fun kind => rfl, fun success => absurd success not_isOk_error,
      fun accepted => absurd accepted (not_accepted refused)⟩
  · obtain ⟨directories, rows, hasParent⟩ := resolved.exists_added
    let row := (s.georeferences.insert now ⟨id, new.storedForm⟩).1
    simp only at h
    rw [h]
    exact ⟨⟨{ directories, georeferences := [row] }, ⟨rows, by simp, by simp, by simp, rfl⟩,
      rfl, hasParent, new, valid, new.storedForm_agrees⟩,
      fun _ => ⟨⟨new, valid⟩, resolved.leadsToDirectory⟩, fun _ => rfl⟩

/-- Of every store that calls lead to: storing a projection, an axis or a georeference file leaves
no trace if it fails, and adds and returns just the rows of what is stored if it succeeds; and it
fails only for a description that is not valid, a reference that leads nowhere, or a second
projection. -/
theorem dependents_allOrNothing (calls : List Call) (isFile : String → Bool) (now : String) :
    (∀ parent description,
      (afterCalls calls).AllOrNothing
          (fun result added => added.IsProjection (afterCalls calls) parent description result)
          ((storeProjection now parent description).outcome (afterCalls calls)) ∧
        (((storeProjection now parent description).outcome (afterCalls calls)).1.isOk ↔
          (∃ new, ProjectionWithAxes.ofDescription description = .ok new) ∧
            (afterCalls calls).LeadsToDirectory parent ∧
              (afterCalls calls).projectionUnder? parent = none)) ∧
    (∀ projection description,
      (afterCalls calls).AllOrNothing
          (fun result added => added.IsAxis (afterCalls calls) projection description result)
          ((storeAxis now projection description).outcome (afterCalls calls)) ∧
        (((storeAxis now projection description).outcome (afterCalls calls)).1.isOk ↔
          (∃ new, Axis.ofDescription description = .ok new) ∧
            (afterCalls calls).HasProjection projection)) ∧
    ∀ parent description,
      (afterCalls calls).AllOrNothing
          (fun result added =>
            added.IsGeoreference isFile (afterCalls calls) parent description result)
          ((storeGeoreference isFile now parent description).outcome (afterCalls calls)) ∧
        (((storeGeoreference isFile now parent description).outcome (afterCalls calls)).1.isOk ↔
          (∃ new, Georeference.ofDescription isFile description = .ok new) ∧
            (afterCalls calls).LeadsToDirectory parent) :=
  ⟨storeProjection_allOrNothing (wellFormed_afterCalls calls) now,
    fun projection description => storeAxis_allOrNothing now projection description _,
    fun parent description => storeGeoreference_allOrNothing isFile now parent description _⟩

/-- A call that stores a projection under a directory that it creates. -/
def onePlane : List Call :=
  [⟨⟨"2024-01-01T00:00:00Z", .storeProjection (.named "20240101" "a") plane⟩, fun _ => true⟩]

/-- A second projection under the directory is refused and leaves no trace; one under another
directory, another axis and a georeference file are stored as they are described. -/
theorem dependents_allOrNothing_onePlane :
    let s := afterCalls onePlane
    let refused := (storeProjection "2024-01-02" (.named "20240101" "b") plane).outcome s
    let projection := (storeProjection "2024-01-02" (.named "20240102" "b") plane).outcome s
    let axis := (storeAxis "2024-01-02" 1 northing).outcome s
    let file := (storeGeoreference (fun _ => true) "2024-01-02" (.resolved 1) imageFile).outcome s
    s.counts = [1, 0, 1, 2, 0] ∧
    (∀ kind, refused.2.rows kind = s.rows kind) ∧
    (∃ d row axes, projection.1 = .ok (row, axes) ∧
      Extends s { directories := [d], projections := [row], axes } projection.2 ∧
      d.content = ⟨"20240102", "b"⟩ ∧ Keeps Projection.Agrees d.id row planeProjection ∧
      List.Forall₂ (Keeps Axis.Agrees row.id) axes planeAxes) ∧
    (∃ row, axis.1 = .ok row ∧ Extends s { axes := [row] } axis.2 ∧
      Keeps Axis.Agrees 1 row ⟨"Northing", "N", "north", "LinearUnit", "half metre", 0.5⟩) ∧
    ∃ row, file.1 = .ok row ∧ Extends s { georeferences := [row] } file.2 ∧
      Keeps Georeference.Agrees 1 row
        ⟨"a.jgw", "a.jpg", ⟨30, -0, 0, -30, 500000, 5000000⟩⟩ := by
  intro s refused projection axis file
  obtain ⟨forProjections, forAxes, forFiles⟩ :=
    dependents_allOrNothing onePlane (fun _ => true) "2024-01-02"
  have second : s.AllOrNothing _ refused ∧ _ := forProjections (.named "20240101" "b") plane
  have whole : s.AllOrNothing _ projection ∧ _ := forProjections (.named "20240102" "b") plane
  have single : s.AllOrNothing _ axis ∧ _ := forAxes 1 northing
  have image : s.AllOrNothing _ file ∧ _ := forFiles (.resolved 1) imageFile
  have fails : refused.1.isOk = false := by decide +kernel
  have stores : projection.1.isOk = true ∧ axis.1.isOk = true ∧ file.1.isOk = true := by
    decide +kernel
  have counts : s.counts = [1, 0, 1, 2, 0] := by decide +kernel
  have absent : (afterCalls onePlane).directoryOfToken? "20240102" = none := by decide +kernel
  clear_value refused projection axis file s
  refine ⟨counts, second.1.rows_eq fails, ?_, ?_, ?_⟩
  · obtain ⟨⟨row, axes⟩, added, stored, grown, rows, ⟨d, owner, created⟩, content⟩ :=
      whole.1.exists_added stores.1
    obtain ⟨new, row', valid, only, kept, others⟩ := content
    rcases created with ⟨found, -⟩ | ⟨-, created, named⟩
    · rw [absent] at found
      cases found
    · cases ofDescription_plane.symm.trans valid
      rw [rows] at only others
      obtain rfl := List.singleton_inj.mp only
      rw [created] at rows
      exact ⟨d, row, axes, stored, rows ▸ grown, named, ⟨owner.symm, kept.2⟩, others⟩
  · obtain ⟨row, added, stored, grown, rows, -, new, valid, kept⟩ :=
      single.1.exists_added stores.2.1
    have described : Axis.ofDescription northing =
        .ok ⟨"Northing", "N", "north", "LinearUnit", "half metre", 0.5⟩ := by
      decide +kernel
    cases described.symm.trans valid
    exact ⟨row, stored, rows ▸ grown, kept⟩
  · obtain ⟨row, added, stored, grown, rows, ⟨owner, -, none⟩, new, valid, kept⟩ :=
      image.1.exists_added stores.2.2
    have described : Georeference.ofDescription (fun _ => true) imageFile =
        .ok ⟨"a.jgw", "a.jpg", ⟨30, -0, 0, -30, 500000, 5000000⟩⟩ := by
      decide +kernel
    cases described.symm.trans valid
    rw [none] at rows
    exact ⟨row, stored, rows ▸ grown, owner, kept⟩

end SceneArchive.Store
