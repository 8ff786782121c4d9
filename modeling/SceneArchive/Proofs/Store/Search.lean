import SceneArchive.Proofs.Statement.Distinct
import SceneArchive.Proofs.Statement.Limits
import SceneArchive.Proofs.Store.Answers
import SceneArchive.Proofs.Store.History
import SceneArchive.Proofs.Store.Ingestion

/-!
# What searches find

A search gives the georeference files that answer the query, each of them once and by increasing
identifier, or it is refused because the statement of the query is too large.

* `execute_ok`, `execute_error`: the same for predicates, of which a query is a special case.
* `search_exact`: searches of every store that a history leads to.
-/

namespace SceneArchive

/-- Whether an action failed because a statement is too large. -/
def IndexError.IsLimit (e : IndexError) : Prop := ∃ fault, e = .storage fault ∧ fault.IsLimit

namespace Store

open Statement

variable {isFile : String → Bool} {s : Store} {p : Predicate}

theorem mem_ids_run (hs : s.WellFormed isFile) (hp : p.WellTyped .standard) {id : Int} :
    id ∈ ids (Select.run ⟨standardJoins p, p.conditions.map Clause.ofCondition⟩ s.tables) ↔
      ∃ g ∈ s.georeferences.rows, g.id = id ∧ s.Answers p g := by
  rw [Select.run, mem_ids_distinctById]
  simp only [ids, Select.candidates, List.mem_map, List.mem_flatMap, List.mem_filter]
  constructor
  · rintro ⟨_, ⟨_, hRow, b, ⟨hb, hSat⟩, rfl⟩, rfl⟩
    obtain ⟨e, he, rfl⟩ := List.mem_map.mp hRow
    obtain ⟨g, hg, rfl⟩ := List.mem_map.mp he
    exact ⟨g, hg, rfl, answers_of_binding hs hp hg hb hSat⟩
  · rintro ⟨g, hg, rfl, h⟩
    obtain ⟨b, hb, hSat⟩ := exists_binding hp h
    have row : (Entity.georeference g).row ∈ s.tables resultKind :=
      List.mem_map_of_mem (List.mem_map_of_mem hg)
    exact ⟨_, ⟨_, row, b, ⟨hb, hSat⟩, rfl⟩, rfl⟩

theorem execute_eq (s : Store) (p : Predicate) :
    s.execute p =
      match Select.check ⟨standardJoins p, p.conditions.map Clause.ofCondition⟩ with
      | .ok _ =>
        .ok ((Select.run ⟨standardJoins p, p.conditions.map Clause.ofCondition⟩ s.tables).filterMap
          fun row => s.georeferences.get? row.id)
      | .error fault => .error (.storage fault) := by
  simp only [execute, ofPredicate_standard, bind, Except.bind]
  cases Select.check ⟨standardJoins p, p.conditions.map Clause.ofCondition⟩ <;> rfl

/-- A predicate that is executed gives the files that answer it, by increasing identifier. -/
theorem execute_ok (hs : s.WellFormed isFile) (hp : p.WellTyped .standard)
    {files : List (Stored (Owned Georeference))} (h : s.execute p = .ok files) :
    (files.Pairwise fun a b => a.id < b.id) ∧
      ∀ g, g ∈ files ↔ g ∈ s.georeferences.rows ∧ s.Answers p g := by
  rw [execute_eq] at h
  split at h
  · cases h
    constructor
    · rw [List.pairwise_filterMap]
      refine (increasing_distinctById _).imp ?_
      intro a b less f hf g hg
      rw [(hs.georeferences.get?_eq_some_iff.mp hf).2, (hs.georeferences.get?_eq_some_iff.mp hg).2]
      exact less
    · intro g
      simp only [List.mem_filterMap, hs.georeferences.get?_eq_some_iff]
      constructor
      · rintro ⟨row, hRow, hg, same⟩
        obtain ⟨f, hf, hId, answers⟩ := (mem_ids_run hs hp).mp (List.mem_map_of_mem hRow)
        have get := hs.georeferences.get?_eq_some_iff.mpr ⟨hg, same⟩
        rw [hs.georeferences.get?_eq_some_iff.mpr ⟨hf, hId⟩] at get
        cases get
        exact ⟨hg, answers⟩
      · rintro ⟨hg, answers⟩
        obtain ⟨row, hRow, same⟩ := List.mem_map.mp ((mem_ids_run hs hp).mpr ⟨g, hg, rfl, answers⟩)
        exact ⟨row, hRow, hg, same.symm⟩
  · cases h

/-- A predicate that is not executed is too large. -/
theorem execute_error (hp : p.WellTyped .standard) {e : IndexError}
    (h : s.execute p = .error e) : e.IsLimit ∧ ¬ p.WithinLimits := by
  rw [execute_eq] at h
  split at h
  · cases h
  · next refused =>
    cases h
    refine ⟨⟨_, rfl, check_error hp refused⟩, ?_⟩
    intro within
    rw [check_ok hp within] at refused
    cases refused

theorem search_of_compile {query : String} (h : Predicate.compile .standard query = .ok p) :
    s.search query = s.execute p := by
  simp only [search, h]
  rfl

/-- A search of a store that a history leads to finds exactly the files that answer the query,
each once and by increasing identifier; it fails for nothing but the size of its statement. -/
theorem search_exact (hs : Reachable isFile s) {query : String}
    (hp : Predicate.compile .standard query = .ok p) :
    (∀ files, s.search query = .ok files →
      (files.Pairwise fun a b => a.id < b.id) ∧
        ∀ g, g ∈ files ↔ g ∈ s.georeferences.rows ∧ s.Answers p g) ∧
      ∀ e, s.search query = .error e → e.IsLimit ∧ ¬ p.WithinLimits := by
  have typed := Predicate.compile_wellTyped hp
  rw [search_of_compile hp]
  refine ⟨?_, ?_⟩
  · intro files h
    exact execute_ok hs.wellFormed typed h
  · intro e h
    exact execute_error typed h

/-- A manifest with one of two passes. -/
def onePass : Manifest where
  path := "b"
  token := some "20240102"
  observations := [passRow "LT5" 2]
  projection := some plane
  georeferences := [{ imageFile with path := "b.jgw" }]

/-- A history that stores two directories. The pass of the second one shares its satellite with one
pass of the first and its orbit with the other. -/
def twoDirectories : List Step :=
  [ ⟨"2024-02-01T00:00:00Z", .ingest twoPasses⟩, ⟨"2024-02-02T00:00:00Z", .ingest onePass⟩ ]

/-- The kinds that a query tests, and what the search for it finds in two directories. -/
def searched (query : String) : Option (List Kind × List Int) := do
  let p ← (Predicate.compile .standard query).toOption
  let files ← ((after (fun _ => true) twoDirectories).search query).toOption
  return (p.conditions.map (·.field.kind), files.map (·.id))

theorem exists_of_searched {query : String} {kinds : List Kind} {ids : List Int}
    (h : searched query = some (kinds, ids)) :
    ∃ p files, Predicate.compile .standard query = .ok p ∧
      p.conditions.map (·.field.kind) = kinds ∧
      (after (fun _ => true) twoDirectories).search query = .ok files ∧
        files.map (·.id) = ids := by
  unfold searched at h
  cases compiled : Predicate.compile .standard query with
  | error e => simp [compiled, Except.toOption] at h
  | ok p =>
    cases found : (after (fun _ => true) twoDirectories).search query with
    | error e => simp [compiled, found, Except.toOption] at h
    | ok files =>
      simp only [compiled, found, Except.toOption] at h
      cases h
      exact ⟨p, files, rfl, rfl, rfl, rfl⟩

/-- A query with conditions on an observation, the projection, an axis and the file itself. -/
def passQuery : String :=
  "satellite = LT5 & orbitid = 2 & datum_id_code = 6047 & abbreviation = N & scale_x = 30"

/-- Only the second directory has one pass with both the satellite and the orbit. -/
theorem search_exact_passQuery :
    let s := after (fun _ => true) twoDirectories
    ∃ p files, Predicate.compile .standard passQuery = .ok p ∧
      p.conditions.map (·.field.kind) = [.observationRecord, .observationRecord,
        .projectionDefinition, .axisEntry, .georeferenceFile] ∧
      s.search passQuery = .ok files ∧ files.map (·.id) = [2] ∧
      (files.Pairwise fun a b => a.id < b.id) ∧
        ∀ g, g ∈ files ↔ g ∈ s.georeferences.rows ∧ s.Answers p g := by
  intro s
  have read : searched passQuery = some ([.observationRecord, .observationRecord,
      .projectionDefinition, .axisEntry, .georeferenceFile], [2]) := by
    decide +kernel
  obtain ⟨p, files, compiled, kinds, found, ids⟩ := exists_of_searched read
  have reachable : Reachable (fun _ => true) s := ⟨twoDirectories, rfl⟩
  obtain ⟨increasing, members⟩ := (search_exact reachable compiled).1 files found
  exact ⟨p, files, compiled, kinds, found, ids, increasing, members⟩

end Store

end SceneArchive
