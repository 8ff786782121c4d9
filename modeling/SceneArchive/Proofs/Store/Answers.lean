import SceneArchive.Proofs.Statement.Standard
import SceneArchive.Proofs.Store.Invariant
import SceneArchive.Proofs.Store.Rows

/-!
# Bindings and answers

The statement of a predicate looks for a binding of joined rows that satisfies all clauses. Over
the tables of a store that keeps the invariant there is one exactly if the file answers the
predicate.

* `answers_of_binding`: the rows of such a binding are the records to choose.
* `exists_binding`: chosen records are joined to each other, and make such a binding.
-/

namespace SceneArchive.Store

open Statement

variable {isFile : String → Bool} {s : Store} {p : Predicate} {g : Stored (Owned Georeference)}
  {b : Binding}

/-! ## Fitting rows -/

theorem matches?_integer {m n : Int} : matches? (.integer m) (.integer n) = true ↔ m = n := by
  simp [matches?, Cell.order?_integer]

theorem fits_directory {d : Stored Directory} :
    (standardJoin .metadataDirectory).Fits (some (Entity.georeference g).row)
      (Entity.directory d).row ↔ d.id = g.content.owner := by
  have owner : (Entity.georeference g).row.cell "directory_id" = .integer g.content.owner :=
    Entity.cell_owner (e := .georeference g) rfl rfl
  simp only [standardJoin, Join.Fits, Option.map_some, Option.getD_some, owner]
  exact matches?_integer

theorem fits_children {child parent : Entity} {kind other : Kind} {column : String} {owner : Int}
    (cell : child.row.cell column = .integer owner) :
    (Join.children kind column other).Fits (some parent.row) child.row ↔ owner = parent.id := by
  simp only [Join.Fits, Option.map_some, Option.getD_some, cell]
  exact matches?_integer

theorem fits_observation {d : Stored Directory} {o : Stored (Owned Observation)} :
    (standardJoin .observationRecord).Fits (some (Entity.directory d).row)
      (Entity.observation o).row ↔ o.content.owner = d.id :=
  fits_children (Entity.cell_owner (e := .observation o) rfl rfl)

theorem fits_projection {d : Stored Directory} {r : Stored (Owned Projection)} :
    (standardJoin .projectionDefinition).Fits (some (Entity.directory d).row)
      (Entity.projection r).row ↔ r.content.owner = d.id :=
  fits_children (Entity.cell_owner (e := .projection r) rfl rfl)

theorem fits_axis {r : Stored (Owned Projection)} {a : Stored (Owned Axis)} :
    (standardJoin .axisEntry).Fits (some (Entity.projection r).row) (Entity.axis a).row ↔
      a.content.owner = r.id :=
  fits_children (Entity.cell_owner (e := .axis a) rfl rfl)

/-- A row of a child fits no missing parent: null is equal to nothing. -/
theorem not_fits_none (kind other : Kind) (column : String) (row : Row) :
    ¬ (Join.children kind column other).Fits none row := by
  simp only [Join.Fits, Option.map_none, Option.getD_none]
  cases row.cell column <;> simp [matches?, Cell.order?]

/-! ## From a binding to the records -/

/-- What is known of a binding that the chain of joins has made for a file and that satisfies all
clauses. -/
structure Satisfying (s : Store) (p : Predicate) (g : Stored (Owned Georeference)) (b : Binding) :
    Prop where
  file : boundRow b .georeferenceFile = some (Entity.georeference g).row
  joined : ∀ kind, p.Needs kind → (standardJoin kind).HoldsIn s.tables b
  tested : ∀ kind, p.Tests kind → ∃ row, boundRow b kind = some row
  holds : ∀ e : Entity, boundRow b e.kind = some e.row → p.HoldsOn e

theorem satisfying_of_mem (hp : p.WellTyped .standard)
    (hb : b ∈ extendAll s.tables (standardJoins p)
      [(resultKind, some (Entity.georeference g).row)])
    (hSat : satisfies (p.conditions.map Clause.ofCondition) b = true) : s.Satisfying p g b := by
  have truth : ∀ c ∈ p.conditions, (Clause.ofCondition c).truth b = some true := by
    simpa [satisfies] using hSat
  obtain ⟨kept, joined⟩ := extendAll_sound (ready_standardJoins p) hb
  refine ⟨?_, ?_, ?_, ?_⟩
  · have file := kept resultKind (List.mem_singleton_self _)
    rw [boundRow_cons, if_pos rfl] at file
    exact file
  · intro kind needs
    exact joined _ (mem_standardJoins.mpr ⟨kind, needs, rfl⟩)
  · rintro _ ⟨c, hc, rfl⟩
    exact exists_boundRow_of_truth (hp c hc) (truth c hc)
  · intro e bound c hc kind
    rw [← kind] at bound
    exact (truth_iff_holdsOn (hp c hc) kind.symm bound).mp (truth c hc)

/-- A row that is bound is the row of a record, and fits what its join starts from. -/
theorem Satisfying.row (h : s.Satisfying p g b) {kind : Kind} (needs : p.Needs kind)
    {source : Option Row} (start : boundRow b (standardJoin kind).source = source) {row : Row}
    (bound : boundRow b kind = some row) :
    (∃ e ∈ s.rows kind, e.row = row) ∧ (standardJoin kind).Fits source row := by
  have other : kind ≠ .georeferenceFile := by
    rintro rfl
    exact needs
  have joined := h.joined kind needs
  unfold Join.HoldsIn at joined
  rw [kind_standardJoin other, bound, start] at joined
  exact ⟨List.mem_map.mp joined.1, joined.2⟩

theorem Satisfying.directory (h : s.Satisfying p g b) (needs : p.Needs .metadataDirectory) :
    ∃ d ∈ s.directories.rows, d.id = g.content.owner ∧
      boundRow b .metadataDirectory = some (Entity.directory d).row := by
  cases bound : boundRow b .metadataDirectory with
  | none =>
    -- the join of the directory is an inner one
    have outer : (standardJoin .metadataDirectory).isOuter = true := by
      simpa only [Join.HoldsIn, standardJoin, Join.kind, bound] using h.joined _ needs
    cases outer
  | some row =>
    obtain ⟨⟨e, he, rfl⟩, fits⟩ := h.row needs h.file bound
    obtain ⟨d, hd, rfl⟩ := List.mem_map.mp he
    exact ⟨d, hd, fits_directory.mp fits, rfl⟩

theorem Satisfying.observation (h : s.Satisfying p g b) :
    s.ChoosesObservation p g.content.owner := by
  intro tests
  have needs := Predicate.Needs.of_tests tests (by decide)
  obtain ⟨d, -, owner, start⟩ := h.directory needs.directory
  obtain ⟨row, bound⟩ := h.tested _ tests
  obtain ⟨⟨e, he, rfl⟩, fits⟩ := h.row needs start bound
  obtain ⟨o, ho, rfl⟩ := List.mem_map.mp he
  exact ⟨o, ho, (fits_observation.mp fits).trans owner, h.holds (.observation o) bound⟩

/-- Where axes are tested an axis is bound, and so is the projection that it belongs to. -/
theorem Satisfying.exists_projection (h : s.Satisfying p g b)
    (needs : p.Needs .projectionDefinition) :
    ∃ row, boundRow b .projectionDefinition = some row := by
  rcases needs with tests | tests
  · exact h.tested _ tests
  · obtain ⟨row, bound⟩ := h.tested _ tests
    cases start : boundRow b .projectionDefinition with
    | some parent => exact ⟨parent, rfl⟩
    | none =>
      have fits := (h.row (Predicate.Needs.of_tests tests (by decide)) start bound).2
      exact absurd fits (not_fits_none _ _ _ _)

theorem Satisfying.axis (h : s.Satisfying p g b) {r : Stored (Owned Projection)}
    (start : boundRow b .projectionDefinition = some (Entity.projection r).row) :
    s.ChoosesAxis p r.id := by
  intro tests
  have needs := Predicate.Needs.of_tests tests (by decide)
  obtain ⟨row, bound⟩ := h.tested _ tests
  obtain ⟨⟨e, he, rfl⟩, fits⟩ := h.row needs start bound
  obtain ⟨a, ha, rfl⟩ := List.mem_map.mp he
  exact ⟨a, ha, fits_axis.mp fits, h.holds (.axis a) bound⟩

theorem Satisfying.projection (h : s.Satisfying p g b) :
    s.ChoosesProjection p g.content.owner := by
  intro tests
  have needs : p.Needs .projectionDefinition := tests
  obtain ⟨d, -, owner, start⟩ := h.directory needs.directory
  obtain ⟨row, bound⟩ := h.exists_projection needs
  obtain ⟨⟨e, he, rfl⟩, fits⟩ := h.row needs start bound
  obtain ⟨r, hr, rfl⟩ := List.mem_map.mp he
  exact ⟨r, hr, (fits_projection.mp fits).trans owner, h.holds (.projection r) bound, h.axis bound⟩

theorem answers_of_binding (hs : s.WellFormed isFile) (hp : p.WellTyped .standard)
    (hg : g ∈ s.georeferences.rows)
    (hb : b ∈ extendAll s.tables (standardJoins p)
      [(resultKind, some (Entity.georeference g).row)])
    (hSat : satisfies (p.conditions.map Clause.ofCondition) b = true) : s.Answers p g := by
  have h := satisfying_of_mem hp hb hSat
  refine ⟨h.holds (.georeference g) h.file, ?_, h.observation, h.projection⟩
  by_cases needs : p.Needs .metadataDirectory
  · obtain ⟨d, hd, owner, bound⟩ := h.directory needs
    exact ⟨d, hd, owner, h.holds (.directory d) bound⟩
  · -- the directory is not joined, but it is there, and nothing is asked of it
    obtain ⟨d, hd, owner⟩ := hs.georeference_owner g hg
    refine ⟨d, hd, owner, ?_⟩
    intro c hc kind
    have tests : p.Tests .metadataDirectory := ⟨c, hc, kind⟩
    exact absurd (Predicate.Needs.of_tests tests (by decide)) needs

/-! ## From the records to a binding -/

/-- Whether the rows picked for the kinds that a predicate needs are those of records on which it
holds, and fit each other. -/
def Picks (s : Store) (p : Predicate) (pick : Kind → Row) : Prop :=
  ∀ kind, p.Needs kind → ∃ e ∈ s.rows kind, pick kind = e.row ∧ p.HoldsOn e ∧
    (standardJoin kind).Fits (some (pick (standardJoin kind).source)) (pick kind)

theorem kind_of_mem_rows {kind : Kind} {e : Entity} (h : e ∈ s.rows kind) : e.kind = kind := by
  cases kind <;> obtain ⟨r, -, rfl⟩ := List.mem_map.mp h <;> rfl

/-- Rows that are picked rightly make a binding that satisfies all clauses. -/
theorem exists_binding_of_picks (hp : p.WellTyped .standard)
    (file : p.HoldsOn (.georeference g)) {pick : Kind → Row}
    (start : pick .georeferenceFile = (Entity.georeference g).row) (picks : s.Picks p pick) :
    ∃ b ∈ extendAll s.tables (standardJoins p) [(resultKind, some (Entity.georeference g).row)],
      satisfies (p.conditions.map Clause.ofCondition) b = true := by
  have fits : ∀ j ∈ standardJoins p, pick j.kind ∈ s.tables j.kind ∧
      j.Fits (some (pick j.source)) (pick j.kind) := by
    intro j hj
    obtain ⟨kind, needs, rfl⟩ := mem_standardJoins.mp hj
    have other : kind ≠ .georeferenceFile := by
      rintro rfl
      exact needs
    obtain ⟨e, he, same, -, fits⟩ := picks kind needs
    rw [kind_standardJoin other]
    exact ⟨List.mem_map.mpr ⟨e, he, same.symm⟩, fits⟩
  have begin : ∀ kind ∈ [resultKind],
      boundRow [(resultKind, some (Entity.georeference g).row)] kind = some (pick kind) := by
    intro kind hKind
    rw [List.mem_singleton.mp hKind, boundRow_cons, if_pos rfl]
    exact congrArg some start.symm
  obtain ⟨b, hb, found⟩ := extendAll_complete (ready_standardJoins p) begin fits
  refine ⟨b, hb, ?_⟩
  simp only [satisfies, List.all_eq_true, List.mem_map, beq_iff_eq]
  rintro _ ⟨c, hc, rfl⟩
  have tests : p.Tests c.field.kind := ⟨c, hc, rfl⟩
  by_cases result : c.field.kind = .georeferenceFile
  · have bound : boundRow b c.field.kind = some (Entity.georeference g).row := by
      rw [result, ← start]
      exact found _ (.inl (List.mem_singleton_self _))
    have kind : (Entity.georeference g).kind = c.field.kind := result.symm
    exact (truth_iff_holdsOn (hp c hc) kind bound).mpr (file c hc result)
  · have needs := Predicate.Needs.of_tests tests result
    obtain ⟨e, he, same, holds, -⟩ := picks c.field.kind needs
    have joined : c.field.kind ∈ (standardJoins p).map Join.kind :=
      List.mem_map.mpr ⟨_, mem_standardJoins.mpr ⟨_, needs, rfl⟩, kind_standardJoin result⟩
    have bound : boundRow b c.field.kind = some e.row := by
      rw [found _ (.inr joined), same]
    have kind := kind_of_mem_rows he
    exact (truth_iff_holdsOn (hp c hc) kind bound).mpr (holds c hc kind.symm)

/-- One row for each kind, in declaration order. -/
def rowsByKind (directory observation projection axis georeference : Row) : Kind → Row
  | .metadataDirectory => directory
  | .observationRecord => observation
  | .projectionDefinition => projection
  | .axisEntry => axis
  | .georeferenceFile => georeference

theorem Answers.exists_picks (h : s.Answers p g) :
    ∃ pick, pick .georeferenceFile = (Entity.georeference g).row ∧ s.Picks p pick := by
  obtain ⟨d, hd, owner, dHolds⟩ := h.directory
  have obs := h.observation
  have proj := h.projection
  rw [← owner] at obs proj
  -- where nothing is tested, the row of the file stands for the one that is not needed
  obtain ⟨o, ho⟩ : ∃ row, p.Tests .observationRecord → ∃ o ∈ s.observations.rows,
      row = (Entity.observation o).row ∧ o.content.owner = d.id ∧ p.HoldsOn (.observation o) := by
    by_cases tests : p.Tests .observationRecord
    · obtain ⟨o, ho, oOwner, oHolds⟩ := obs tests
      exact ⟨_, fun _ => ⟨o, ho, rfl, oOwner, oHolds⟩⟩
    · exact ⟨(Entity.georeference g).row, fun h => absurd h tests⟩
  obtain ⟨r, ar, hr⟩ : ∃ row axisRow, p.Needs .projectionDefinition → ∃ r ∈ s.projections.rows,
      row = (Entity.projection r).row ∧ r.content.owner = d.id ∧ p.HoldsOn (.projection r) ∧
        (p.Tests .axisEntry → ∃ a ∈ s.axes.rows, axisRow = (Entity.axis a).row ∧
          a.content.owner = r.id ∧ p.HoldsOn (.axis a)) := by
    by_cases needs : p.Needs .projectionDefinition
    · obtain ⟨r, hr, rOwner, rHolds, axis⟩ := proj needs
      by_cases tests : p.Tests .axisEntry
      · obtain ⟨a, ha, aOwner, aHolds⟩ := axis tests
        exact ⟨_, _, fun _ => ⟨r, hr, rfl, rOwner, rHolds, fun _ => ⟨a, ha, rfl, aOwner, aHolds⟩⟩⟩
      · exact ⟨_, (Entity.georeference g).row, fun _ =>
          ⟨r, hr, rfl, rOwner, rHolds, fun h => absurd h tests⟩⟩
    · exact ⟨(Entity.georeference g).row, (Entity.georeference g).row, fun h => absurd h needs⟩
  refine ⟨rowsByKind (Entity.directory d).row o r ar (Entity.georeference g).row, rfl, ?_⟩
  intro kind needs
  cases kind with
  | metadataDirectory =>
    exact ⟨_, List.mem_map_of_mem hd, rfl, dHolds, fits_directory.mpr owner⟩
  | observationRecord =>
    obtain ⟨e, he, rfl, eOwner, holds⟩ := ho needs
    exact ⟨_, List.mem_map_of_mem he, rfl, holds, fits_observation.mpr eOwner⟩
  | projectionDefinition =>
    obtain ⟨e, he, rfl, eOwner, holds, -⟩ := hr needs
    exact ⟨_, List.mem_map_of_mem he, rfl, holds, fits_projection.mpr eOwner⟩
  | axisEntry =>
    obtain ⟨e, -, rfl, -, -, axis⟩ := hr (.inr needs)
    obtain ⟨a, ha, rfl, aOwner, holds⟩ := axis needs
    exact ⟨_, List.mem_map_of_mem ha, rfl, holds, fits_axis.mpr aOwner⟩
  | georeferenceFile => exact needs.elim

theorem exists_binding (hp : p.WellTyped .standard) (h : s.Answers p g) :
    ∃ b ∈ extendAll s.tables (standardJoins p) [(resultKind, some (Entity.georeference g).row)],
      satisfies (p.conditions.map Clause.ofCondition) b = true := by
  obtain ⟨pick, start, picks⟩ := h.exists_picks
  exact exists_binding_of_picks hp h.file start picks

end SceneArchive.Store
