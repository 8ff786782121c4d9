import SceneArchive.Proofs.Results
import SceneArchive.Proofs.Store.Invariant

/-!
# Histories of a store

A history is a list of operations, each with the time at which it is made. Operations may fail;
what they have stored by then stays, so a failed one is part of the history like any other.

* `changes_storeObservation` and its companions: each operation is a run of changes, whatever it
  ends in.
* `Reachable.wellFormed`: the invariant holds of every store that a history makes of the empty
  one.
* `history_invariant`: the invariant holds at the end of every history, and the rows of every
  earlier moment are still there, unchanged and in their order.
-/

namespace SceneArchive

variable {α β : Type} {isFile : String → Bool} {s t : Store}

/-- The image of a georeference file that validation lets through is a file. -/
theorem Georeference.isFile_of_ofDescription {d : GeoreferenceDescription} {g : Georeference}
    (h : ofDescription isFile d = .ok g) : isFile g.image = true := by
  unfold ofDescription at h
  split at h
  · next found =>
    injection h with h
    rw [← h]
    exact found
  · nomatch h

namespace Store

/-! ## What changes keep -/

theorem Changes.hasDirectory (c : Changes isFile s t) {id : Int} (h : s.HasDirectory id) :
    t.HasDirectory id := by
  obtain ⟨d, hd, rfl⟩ := h
  have kept := (c.rows_isPrefix .metadataDirectory).subset (List.mem_map_of_mem hd)
  obtain ⟨d', hd', same⟩ := List.mem_map.mp kept
  injection same with same
  exact ⟨d', hd', by rw [same]⟩

/-! ## Operations as runs of changes -/

theorem changes_bind {x : StoreM α} {f : α → StoreM β} (first : Changes isFile s (x.outcome s).2)
    (next : ∀ a t, x.outcome s = (.ok a, t) → Changes isFile t ((f a).outcome t).2) :
    Changes isFile s ((x >>= f).outcome s).2 := by
  rw [StoreM.outcome_bind]
  rcases h : x.outcome s with ⟨_ | a, t⟩
  · simpa only [h] using first
  · have := next a t h
    rw [h] at first
    exact first.trans this

theorem changes_getOrCreateDirectory (now token path : String) (s : Store) :
    Changes isFile s ((getOrCreateDirectory now token path).outcome s).2 := by
  rw [outcome_getOrCreateDirectory]
  split
  · exact .refl
  · next present =>
    cases absent : s.directoryOfToken? token with
    | some d => exact .single (.reuse s)
    | none => exact .single (.directory s now ⟨token, path⟩ (by simpa using present) absent)

theorem Resolves.changes {now : String} {parent : ParentRef} {id : Int}
    {table : RecordTable Directory} (h : Resolves s now parent id table) :
    Changes isFile s { s with directories := table } := by
  cases h with
  | stored => exact .refl
  | reused => exact .single (.reuse s)
  | created present absent => exact .single (.directory s now _ present absent)

theorem changes_storeObservation (now : String) (parent : ParentRef) (record : RawRecord)
    (s : Store) : Changes isFile s ((storeObservation now parent record).outcome s).2 := by
  rcases storeObservation_cases now parent record s with
    ⟨-, e, h⟩ | ⟨-, new, id, table, -, resolved, h⟩
  · rw [h]
  · rw [h]
    exact resolved.changes.tail (.observation _ now ⟨id, new.storedForm⟩ resolved.hasDirectory)

theorem changes_insertAxes (now : String) {projection : Int} (axes : List Axis)
    (owner : s.HasProjection projection) :
    Changes isFile s ((insertAxes now projection axes).outcome s).2 := by
  rw [outcome_insertAxes]
  induction axes generalizing s with
  | nil => exact .refl
  | cons axis rest ih =>
    exact .head (.axis s now ⟨projection, axis.storedForm⟩ owner)
      (ih (s := { s with axes := (s.axes.insert now ⟨projection, axis.storedForm⟩).2 }) owner)

theorem changes_storeProjection (now : String) (parent : ParentRef)
    (description : ProjectionDescription) (s : Store) :
    Changes isFile s ((storeProjection now parent description).outcome s).2 := by
  rcases storeProjection_cases now parent description s with
    ⟨-, e, h⟩ | ⟨-, id, table, -, resolved, -, e, h⟩ | ⟨new, id, table, -, resolved, first, h⟩
  · rw [h]
  · rw [h]
    exact resolved.changes
  · simp only at h
    rw [h]
    let row : Owned Projection := ⟨id, new.projection.storedForm⟩
    let placed : Store :=
      { s with directories := table, projections := (s.projections.insert now row).2 }
    have inserted : Changes isFile s placed :=
      resolved.changes.tail (.projection _ now row resolved.hasDirectory first)
    have owner : placed.HasProjection (s.projections.insert now row).1.id :=
      ⟨_, RecordTable.mem_insert.mpr (.inr rfl), rfl⟩
    have axes : Changes isFile placed _ := changes_insertAxes now new.axes owner
    rw [outcome_insertAxes] at axes
    exact inserted.trans axes

theorem changes_storeAxis (now : String) (projection : Int) (description : AxisDescription)
    (s : Store) : Changes isFile s ((storeAxis now projection description).outcome s).2 := by
  rcases storeAxis_cases now projection description s with ⟨-, e, h⟩ | ⟨new, -, owner, h⟩
  · rw [h]
  · simp only at h
    rw [h]
    exact .single (.axis s now ⟨projection, new.storedForm⟩ owner)

theorem changes_storeGeoreference (now : String) (parent : ParentRef)
    (description : GeoreferenceDescription) (s : Store) :
    Changes isFile s ((storeGeoreference isFile now parent description).outcome s).2 := by
  rcases storeGeoreference_cases isFile now parent description s with
    ⟨-, e, h⟩ | ⟨new, id, table, valid, resolved, h⟩
  · rw [h]
  · simp only at h
    rw [h]
    have image : isFile new.image = true := Georeference.isFile_of_ofDescription valid
    exact resolved.changes.tail
      (.georeference _ now ⟨id, new.storedForm⟩ resolved.hasDirectory image)

theorem changes_insertGeoreferences (now : String) {directory : Int} (files : List Georeference)
    (owner : s.HasDirectory directory) (images : ∀ g ∈ files, isFile g.image = true) :
    Changes isFile s ((insertGeoreferences now directory files).outcome s).2 := by
  rw [outcome_insertGeoreferences]
  induction files generalizing s with
  | nil => exact .refl
  | cons file rest ih =>
    rw [List.forall_mem_cons] at images
    have inserted :=
      ih (s := { s with
        georeferences := (s.georeferences.insert now ⟨directory, file.storedForm⟩).2 })
        owner images.2
    exact .head (.georeference s now ⟨directory, file.storedForm⟩ owner images.1) inserted

/-! ## Ingesting -/

theorem changes_storeObservations (now : String) (parent : ParentRef) (records : List RawRecord)
    (s : Store) : Changes isFile s ((storeObservations now parent records).outcome s).2 := by
  induction records generalizing s with
  | nil => exact .refl
  | cons record rest ih =>
    exact changes_bind (changes_storeObservation now parent record s) fun _ t _ => ih t

theorem changes_storeProjection? (now : String) (parent : ParentRef)
    (description : Option ProjectionDescription) (s : Store) :
    Changes isFile s ((storeProjection? now parent description).outcome s).2 := by
  cases description with
  | none => exact .refl
  | some d => exact changes_bind (changes_storeProjection now parent d s) fun _ _ _ => .refl

/-- A directory that is asked for by its token is stored afterwards. -/
theorem hasDirectory_getOrCreateDirectory {now token path : String} {d : Stored Directory}
    (h : (getOrCreateDirectory now token path).outcome s = (.ok d, t)) : t.HasDirectory d.id := by
  rw [outcome_getOrCreateDirectory] at h
  split at h
  · cases h
  · cases found : s.directoryOfToken? token with
    | some old =>
      rw [found] at h
      cases h
      exact ⟨d, List.mem_of_find?_eq_some found, rfl⟩
    | none =>
      rw [found] at h
      cases h
      exact ⟨_, RecordTable.mem_insert.mpr (.inr rfl), rfl⟩

theorem changes_ingest (now : String) (m : Manifest) (s : Store) :
    Changes isFile s ((ingest isFile now m).outcome s).2 := by
  unfold ingest
  refine changes_bind (by exact .refl) ?_
  rintro token s hToken
  refine changes_bind (changes_getOrCreateDirectory now token m.path s) ?_
  intro directory t hDirectory
  have owner := hasDirectory_getOrCreateDirectory hDirectory
  have observations : Changes isFile t _ :=
    changes_storeObservations now (.resolved directory.id) m.observations t
  refine changes_bind observations ?_
  intro _ u hObservations
  rw [hObservations] at observations
  have projection : Changes isFile u _ :=
    changes_storeProjection? now (.resolved directory.id) m.projection u
  refine changes_bind projection ?_
  intro counts v hProjection
  rw [hProjection] at projection
  refine changes_bind (by exact .refl) ?_
  intro files w hFiles
  rw [StoreM.outcome_ofExcept] at hFiles
  obtain ⟨valid, rfl⟩ := Prod.mk.inj hFiles
  have images : ∀ g ∈ files, isFile g.image = true := by
    intro g hg
    obtain ⟨_, _, hd⟩ := Results.exists_of_mapM_eq_ok valid hg
    exact Georeference.isFile_of_ofDescription hd
  refine changes_bind ?_ fun _ _ _ => .refl
  exact changes_insertGeoreferences now files
    (Changes.hasDirectory (observations.trans projection) owner) images

/-! ## Histories -/

/-- What a store is asked to do. -/
inductive Operation where
  | getOrCreateDirectory (token path : String)
  | storeObservation (parent : ParentRef) (record : RawRecord)
  | storeProjection (parent : ParentRef) (description : ProjectionDescription)
  | storeAxis (projection : Int) (description : AxisDescription)
  | storeGeoreference (parent : ParentRef) (description : GeoreferenceDescription)
  | ingest (manifest : Manifest)

/-- The store that an operation leaves, whether it succeeds or fails. -/
def Operation.next (isFile : String → Bool) (now : String) (s : Store) : Operation → Store
  | getOrCreateDirectory token path => ((Store.getOrCreateDirectory now token path).outcome s).2
  | storeObservation parent record => ((Store.storeObservation now parent record).outcome s).2
  | storeProjection parent description =>
    ((Store.storeProjection now parent description).outcome s).2
  | storeAxis projection description => ((Store.storeAxis now projection description).outcome s).2
  | storeGeoreference parent description =>
    ((Store.storeGeoreference isFile now parent description).outcome s).2
  | ingest manifest => ((Store.ingest isFile now manifest).outcome s).2

/-- An operation and the time at which it is made. -/
structure Step where
  now : String
  operation : Operation

/-- The store that a history makes of the empty one. -/
def after (isFile : String → Bool) (history : List Step) : Store :=
  history.foldl (fun s step => step.operation.next isFile step.now s) empty

/-- The stores that histories lead to. -/
def Reachable (isFile : String → Bool) (s : Store) : Prop := ∃ history, s = after isFile history

theorem Operation.changes (now : String) (s : Store) (operation : Operation) :
    Changes isFile s (operation.next isFile now s) := by
  cases operation with
  | getOrCreateDirectory token path => exact changes_getOrCreateDirectory now token path s
  | storeObservation parent record => exact changes_storeObservation now parent record s
  | storeProjection parent d => exact changes_storeProjection now parent d s
  | storeAxis projection d => exact changes_storeAxis now projection d s
  | storeGeoreference parent d => exact changes_storeGeoreference now parent d s
  | ingest manifest => exact changes_ingest now manifest s

theorem changes_foldl (history : List Step) (s : Store) :
    Changes isFile s
      (history.foldl (fun s step => step.operation.next isFile step.now s) s) := by
  induction history generalizing s with
  | nil => exact .refl
  | cons step rest ih => exact (step.operation.changes step.now s).trans (ih _)

theorem changes_after_append (earlier later : List Step) :
    Changes isFile (after isFile earlier) (after isFile (earlier ++ later)) := by
  unfold after
  rw [List.foldl_append]
  exact changes_foldl later _

theorem Reachable.wellFormed (h : Reachable isFile s) : s.WellFormed isFile := by
  obtain ⟨history, rfl⟩ := h
  exact (changes_foldl history empty).wellFormed (wellFormed_empty isFile)

/-- At the end of every history the invariant holds, and what was stored at any earlier moment
stands at the front of its table, unchanged. -/
theorem history_invariant (isFile : String → Bool) (history : List Step) :
    (after isFile history).WellFormed isFile ∧
      ∀ earlier later, history = earlier ++ later →
        ∀ kind, (after isFile earlier).rows kind <+: (after isFile history).rows kind := by
  refine ⟨Reachable.wellFormed ⟨history, rfl⟩, ?_⟩
  rintro earlier later rfl kind
  exact (changes_after_append earlier later).rows_isPrefix kind

end Store

end SceneArchive
