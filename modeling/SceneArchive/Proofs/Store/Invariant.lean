import Mathlib.Logic.Relation
import SceneArchive.Proofs.Store.Outcome

/-!
# The invariant of a store

What holds of every store that actions have made, and why: every action is a run of changes, each
of which is made by one statement under a check that goes before it (`Change`). The invariant
`WellFormed` and the growth of the tables are proved of a single change, one case for each kind of
change, and from there of every run.

* `Change.wellFormed`, `Changes.wellFormed`: a change keeps the invariant.
* `Change.rows_isPrefix`, `Changes.rows_isPrefix`: a change leaves the rows that are there as they
  are and in their order.
-/

namespace SceneArchive

/-- The identifiers of a table increase from row to row, and none is beyond the last one given
out. -/
structure RecordTable.Ordered {α : Type} (t : RecordTable α) : Prop where
  increasing : t.rows.Pairwise fun a b => a.id < b.id
  bounded : ∀ r ∈ t.rows, r.id ≤ t.lastId

namespace RecordTable

variable {α : Type}

theorem ordered_empty : (empty : RecordTable α).Ordered :=
  ⟨List.Pairwise.nil, by simp [empty]⟩

theorem mem_insert {t : RecordTable α} {now : String} {content : α} {r : Stored α} :
    r ∈ (t.insert now content).2.rows ↔ r ∈ t.rows ∨ r = (t.insert now content).1 := by
  simp [insert]

theorem forall_mem_insert {t : RecordTable α} {P : Stored α → Prop} (old : ∀ r ∈ t.rows, P r)
    (now : String) (content : α) (new : P (t.insert now content).1) :
    ∀ r ∈ (t.insert now content).2.rows, P r := by
  intro r hr
  rcases mem_insert.mp hr with hr | rfl
  · exact old r hr
  · exact new

theorem pairwise_insert {t : RecordTable α} {R : Stored α → Stored α → Prop}
    (old : t.rows.Pairwise R) (now : String) (content : α)
    (new : ∀ r ∈ t.rows, R r (t.insert now content).1) :
    (t.insert now content).2.rows.Pairwise R := by
  refine List.pairwise_append.mpr ⟨old, List.pairwise_singleton R _, ?_⟩
  intro a ha b hb
  rw [List.mem_singleton.mp hb]
  exact new a ha

theorem Ordered.insert {t : RecordTable α} (h : t.Ordered) (now : String) (content : α) :
    (t.insert now content).2.Ordered := by
  have next : ∀ r ∈ t.rows, r.id < t.lastId + 1 := by
    intro r hr
    have := h.bounded r hr
    omega
  refine ⟨pairwise_insert h.increasing now content next, ?_⟩
  refine forall_mem_insert ?_ now content (Int.le_refl _)
  intro r hr
  exact Int.le_of_lt (next r hr)

theorem Ordered.skipId {t : RecordTable α} (h : t.Ordered) : t.skipId.Ordered := by
  refine ⟨h.increasing, ?_⟩
  intro r hr
  have := h.bounded r hr
  simp only [RecordTable.skipId]
  omega

/-- An identifier is that of one record at most. -/
theorem Ordered.get?_eq_some_iff {t : RecordTable α} (h : t.Ordered) {id : Int} {r : Stored α} :
    t.get? id = some r ↔ r ∈ t.rows ∧ r.id = id := by
  obtain ⟨increasing, -⟩ := h
  unfold get?
  generalize t.rows = rows at increasing
  induction rows with
  | nil => simp
  | cons first rest ih =>
    obtain ⟨below, others⟩ := List.pairwise_cons.mp increasing
    rw [List.find?_cons]
    by_cases same : first.id = id
    · simp only [same, beq_self_eq_true, Option.some.injEq, List.mem_cons]
      constructor
      · rintro rfl
        exact ⟨.inl rfl, same⟩
      · rintro ⟨rfl | mem, hr⟩
        · rfl
        · have := below r mem
          omega
    · have other : (first.id == id) = false := by simpa using same
      simp only [other, ih others, List.mem_cons]
      constructor
      · rintro ⟨mem, hr⟩
        exact ⟨.inr mem, hr⟩
      · rintro ⟨rfl | mem, hr⟩
        · exact absurd hr same
        · exact ⟨mem, hr⟩

end RecordTable

namespace Store

/-- The invariant of a store whose images are files of `isFile`. -/
structure WellFormed (isFile : String → Bool) (s : Store) : Prop where
  /-- In every table the identifiers are distinct and increase in the order of insertion. -/
  directories : s.directories.Ordered
  observations : s.observations.Ordered
  projections : s.projections.Ordered
  axes : s.axes.Ordered
  georeferences : s.georeferences.Ordered
  /-- No two directories share a token. -/
  tokens_distinct :
    s.directories.rows.Pairwise fun a b => a.content.token ≠ b.content.token
  /-- No token is blank. -/
  tokens_present : ∀ d ∈ s.directories.rows, Text.allBlank d.content.token = false
  /-- Every record belongs to one that is stored. -/
  observation_owner : ∀ o ∈ s.observations.rows, s.HasDirectory o.content.owner
  projection_owner : ∀ p ∈ s.projections.rows, s.HasDirectory p.content.owner
  axis_owner : ∀ a ∈ s.axes.rows, s.HasProjection a.content.owner
  georeference_owner : ∀ g ∈ s.georeferences.rows, s.HasDirectory g.content.owner
  /-- No directory has two projections. -/
  projections_distinct :
    s.projections.rows.Pairwise fun a b => a.content.owner ≠ b.content.owner
  /-- Every image is a file. -/
  images_exist : ∀ g ∈ s.georeferences.rows, isFile g.content.content.image = true

theorem wellFormed_empty (isFile : String → Bool) : empty.WellFormed isFile where
  directories := RecordTable.ordered_empty
  observations := RecordTable.ordered_empty
  projections := RecordTable.ordered_empty
  axes := RecordTable.ordered_empty
  georeferences := RecordTable.ordered_empty
  tokens_distinct := List.Pairwise.nil
  tokens_present := by simp [empty, RecordTable.empty]
  observation_owner := by simp [empty, RecordTable.empty]
  projection_owner := by simp [empty, RecordTable.empty]
  axis_owner := by simp [empty, RecordTable.empty]
  georeference_owner := by simp [empty, RecordTable.empty]
  projections_distinct := List.Pairwise.nil
  images_exist := by simp [empty, RecordTable.empty]

/-! ## Single changes -/

/-- A change that one statement makes to a store, with what was checked before it. -/
inductive Change (isFile : String → Bool) : Store → Store → Prop
  /-- A directory that is there is asked for again. -/
  | reuse (s : Store) : Change isFile s { s with directories := s.directories.skipId }
  | directory (s : Store) (now : String) (d : Directory)
      (present : Text.allBlank d.token = false) (absent : s.directoryOfToken? d.token = none) :
      Change isFile s { s with directories := (s.directories.insert now d).2 }
  | observation (s : Store) (now : String) (o : Owned Observation)
      (owner : s.HasDirectory o.owner) :
      Change isFile s { s with observations := (s.observations.insert now o).2 }
  | projection (s : Store) (now : String) (p : Owned Projection)
      (owner : s.HasDirectory p.owner) (first : s.projectionOf? p.owner = none) :
      Change isFile s { s with projections := (s.projections.insert now p).2 }
  | axis (s : Store) (now : String) (a : Owned Axis) (owner : s.HasProjection a.owner) :
      Change isFile s { s with axes := (s.axes.insert now a).2 }
  | georeference (s : Store) (now : String) (g : Owned Georeference)
      (owner : s.HasDirectory g.owner) (image : isFile g.content.image = true) :
      Change isFile s { s with georeferences := (s.georeferences.insert now g).2 }

variable {isFile : String → Bool} {s t : Store}

theorem HasDirectory.insert {id : Int} (h : s.HasDirectory id) (now : String) (d : Directory) :
    HasDirectory { s with directories := (s.directories.insert now d).2 } id := by
  obtain ⟨r, hr, rfl⟩ := h
  exact ⟨r, RecordTable.mem_insert.mpr (.inl hr), rfl⟩

theorem HasProjection.insert {id : Int} (h : s.HasProjection id) (now : String)
    (p : Owned Projection) :
    HasProjection { s with projections := (s.projections.insert now p).2 } id := by
  obtain ⟨r, hr, rfl⟩ := h
  exact ⟨r, RecordTable.mem_insert.mpr (.inl hr), rfl⟩

theorem WellFormed.insertDirectory (h : s.WellFormed isFile) (now : String) {d : Directory}
    (present : Text.allBlank d.token = false) (absent : s.directoryOfToken? d.token = none) :
    WellFormed isFile { s with directories := (s.directories.insert now d).2 } where
  directories := h.directories.insert now d
  observations := h.observations
  projections := h.projections
  axes := h.axes
  georeferences := h.georeferences
  tokens_distinct := by
    refine RecordTable.pairwise_insert h.tokens_distinct now d ?_
    intro r hr
    have other : r.content.token ≠ d.token := by
      simpa using List.find?_eq_none.mp absent r hr
    exact other
  tokens_present := RecordTable.forall_mem_insert h.tokens_present now d present
  observation_owner o ho := (h.observation_owner o ho).insert now d
  projection_owner p hp := (h.projection_owner p hp).insert now d
  axis_owner := h.axis_owner
  georeference_owner g hg := (h.georeference_owner g hg).insert now d
  projections_distinct := h.projections_distinct
  images_exist := h.images_exist

theorem WellFormed.insertProjection (h : s.WellFormed isFile) (now : String)
    {p : Owned Projection} (owner : s.HasDirectory p.owner)
    (first : s.projectionOf? p.owner = none) :
    WellFormed isFile { s with projections := (s.projections.insert now p).2 } where
  directories := h.directories
  observations := h.observations
  projections := h.projections.insert now p
  axes := h.axes
  georeferences := h.georeferences
  tokens_distinct := h.tokens_distinct
  tokens_present := h.tokens_present
  observation_owner := h.observation_owner
  projection_owner := RecordTable.forall_mem_insert h.projection_owner now p owner
  axis_owner a ha := (h.axis_owner a ha).insert now p
  georeference_owner := h.georeference_owner
  projections_distinct := by
    refine RecordTable.pairwise_insert h.projections_distinct now p ?_
    intro r hr
    have other : r.content.owner ≠ p.owner := by
      simpa using List.find?_eq_none.mp first r hr
    exact other
  images_exist := h.images_exist

/-- A change keeps the invariant: what was checked before the insertion is what the invariant
asks of the new row. -/
theorem Change.wellFormed (c : Change isFile s t) (h : s.WellFormed isFile) :
    t.WellFormed isFile := by
  cases c with
  | reuse => exact { h with directories := h.directories.skipId }
  | directory now d present absent => exact h.insertDirectory now present absent
  | observation now o owner =>
    exact { h with
      observations := h.observations.insert now o
      observation_owner := RecordTable.forall_mem_insert h.observation_owner now o owner }
  | projection now p owner first => exact h.insertProjection now owner first
  | axis now a owner =>
    exact { h with
      axes := h.axes.insert now a
      axis_owner := RecordTable.forall_mem_insert h.axis_owner now a owner }
  | georeference now g owner image =>
    exact { h with
      georeferences := h.georeferences.insert now g
      georeference_owner := RecordTable.forall_mem_insert h.georeference_owner now g owner
      images_exist := RecordTable.forall_mem_insert h.images_exist now g image }

/-- A change adds at most one row, behind those that are there. -/
theorem Change.rows_isPrefix (c : Change isFile s t) (kind : Kind) :
    s.rows kind <+: t.rows kind := by
  cases c <;> cases kind <;> simp [rows, RecordTable.insert, RecordTable.skipId]

/-! ## Runs of changes -/

/-- One store is made of another by any number of changes. -/
abbrev Changes (isFile : String → Bool) : Store → Store → Prop :=
  Relation.ReflTransGen (Change isFile)

theorem Changes.wellFormed (c : Changes isFile s t) (h : s.WellFormed isFile) :
    t.WellFormed isFile := by
  induction c with
  | refl => exact h
  | tail _ last ih => exact last.wellFormed ih

theorem Changes.rows_isPrefix (c : Changes isFile s t) (kind : Kind) :
    s.rows kind <+: t.rows kind := by
  induction c with
  | refl => exact List.prefix_refl _
  | tail _ last ih => exact ih.trans (last.rows_isPrefix kind)

end Store

end SceneArchive
