import Mathlib.Data.List.Nodup
import SceneArchive.Proofs.Query.Conjunction
import SceneArchive.Proofs.Query.Meaning
import SceneArchive.Proofs.Store.Invariant

/-!
# Choices of joined records

A file answers a predicate if records that are joined to it can be chosen on which all conditions
hold. In this form conditions are taken one by one: what is chosen for some of them and satisfies
others as well satisfies all.

* `answers_iff_exists_choice`: the answers of a predicate in terms of choices.
* `Answers.conjoin`: choices for two predicates are put together where they share no kind that a
  directory or projection may own several records of.
-/

namespace SceneArchive

namespace Store

/-- Records chosen for a file: its directory, and perhaps an observation of the directory, its
projection, and an axis of the projection. -/
structure Choice where
  directory : Stored Directory
  observation? : Option (Stored (Owned Observation))
  projection? : Option (Stored (Owned Projection))
  axis? : Option (Stored (Owned Axis))

variable {isFile : String → Bool} {s : Store} {p q : Predicate} {g : Stored (Owned Georeference)}
  {c : Choice}

namespace Choice

/-- The record of a kind that is chosen. -/
def record? (c : Choice) (g : Stored (Owned Georeference)) : Kind → Option Entity
  | .metadataDirectory => some (.directory c.directory)
  | .observationRecord => c.observation?.map .observation
  | .projectionDefinition => c.projection?.map .projection
  | .axisEntry => c.axis?.map .axis
  | .georeferenceFile => some (.georeference g)

/-- Whether chosen records are stored and belong to each other and to the file. -/
structure Joined (s : Store) (g : Stored (Owned Georeference)) (c : Choice) : Prop where
  directory : c.directory ∈ s.directories.rows ∧ c.directory.id = g.content.owner
  observation : ∀ o ∈ c.observation?,
    o ∈ s.observations.rows ∧ o.content.owner = c.directory.id
  projection : ∀ r ∈ c.projection?, r ∈ s.projections.rows ∧ r.content.owner = c.directory.id
  axis : ∀ a ∈ c.axis?, a ∈ s.axes.rows ∧ ∃ r ∈ c.projection?, a.content.owner = r.id

/-- Whether every condition has a record that is chosen, and holds on it. -/
def Satisfies (c : Choice) (g : Stored (Owned Georeference)) (conditions : List BoundCondition) :
    Prop :=
  ∀ b ∈ conditions, ∃ e ∈ c.record? g b.field.kind, b.HoldsOn e

theorem satisfies_append {as bs : List BoundCondition} :
    c.Satisfies g (as ++ bs) ↔ c.Satisfies g as ∧ c.Satisfies g bs :=
  List.forall_mem_append

theorem satisfies_singleton {b : BoundCondition} :
    c.Satisfies g [b] ↔ ∃ e ∈ c.record? g b.field.kind, b.HoldsOn e :=
  List.forall_mem_singleton

theorem kind_of_mem_record? {kind : Kind} {e : Entity} (h : e ∈ c.record? g kind) :
    e.kind = kind := by
  cases kind with
  | metadataDirectory => cases h; rfl
  | observationRecord =>
    obtain ⟨o, -, rfl⟩ := Option.map_eq_some_iff.mp h
    rfl
  | projectionDefinition =>
    obtain ⟨r, -, rfl⟩ := Option.map_eq_some_iff.mp h
    rfl
  | axisEntry =>
    obtain ⟨a, -, rfl⟩ := Option.map_eq_some_iff.mp h
    rfl
  | georeferenceFile => cases h; rfl

/-- All conditions on the kind of a chosen record hold on it. -/
theorem Satisfies.holdsOn (h : c.Satisfies g p.conditions) {kind : Kind} {e : Entity}
    (chosen : e ∈ c.record? g kind) : p.HoldsOn e := by
  intro b hb same
  obtain ⟨e', chosen', holds⟩ := h b hb
  rw [same, kind_of_mem_record? chosen] at chosen'
  rw [Option.mem_unique chosen chosen']
  exact holds

theorem Satisfies.exists_record (h : c.Satisfies g p.conditions) {kind : Kind}
    (tests : p.Tests kind) : ∃ e ∈ c.record? g kind, p.HoldsOn e := by
  obtain ⟨b, hb, rfl⟩ := tests
  obtain ⟨e, chosen, -⟩ := h b hb
  exact ⟨e, chosen, h.holdsOn chosen⟩

end Choice

theorem answers_of_choice (joined : c.Joined s g) (h : c.Satisfies g p.conditions) :
    s.Answers p g := by
  obtain ⟨hDirectory, owner⟩ := joined.directory
  have file : .georeference g ∈ c.record? g .georeferenceFile := rfl
  have directory : .directory c.directory ∈ c.record? g .metadataDirectory := rfl
  refine ⟨h.holdsOn file, ⟨c.directory, hDirectory, owner, h.holdsOn directory⟩, ?_, ?_⟩
  · intro tests
    obtain ⟨e, chosen, holds⟩ := h.exists_record tests
    obtain ⟨o, ho, rfl⟩ := Option.map_eq_some_iff.mp chosen
    obtain ⟨mem, belongs⟩ := joined.observation o ho
    exact ⟨o, mem, belongs.trans owner, holds⟩
  · intro needs
    obtain ⟨r, hr⟩ : ∃ r, r ∈ c.projection? := by
      rcases needs with tests | tests
      · obtain ⟨e, chosen, -⟩ := h.exists_record tests
        obtain ⟨r, hr, -⟩ := Option.map_eq_some_iff.mp chosen
        exact ⟨r, hr⟩
      · obtain ⟨e, chosen, -⟩ := h.exists_record tests
        obtain ⟨a, ha, -⟩ := Option.map_eq_some_iff.mp chosen
        obtain ⟨-, r, hr, -⟩ := joined.axis a ha
        exact ⟨r, hr⟩
    obtain ⟨mem, belongs⟩ := joined.projection r hr
    have chosen : .projection r ∈ c.record? g .projectionDefinition :=
      Option.map_eq_some_iff.mpr ⟨r, hr, rfl⟩
    refine ⟨r, mem, belongs.trans owner, h.holdsOn chosen, ?_⟩
    intro tests
    obtain ⟨e, chosen, holds⟩ := h.exists_record tests
    obtain ⟨a, ha, rfl⟩ := Option.map_eq_some_iff.mp chosen
    obtain ⟨mem, r', hr', belongs⟩ := joined.axis a ha
    rw [Option.mem_unique hr' hr] at belongs
    exact ⟨a, mem, belongs, holds⟩

theorem Answers.exists_choice (h : s.Answers p g) :
    ∃ c : Choice, c.Joined s g ∧ c.Satisfies g p.conditions := by
  obtain ⟨d, hd, owner, dHolds⟩ := h.directory
  obtain ⟨o?, hObservation, observed⟩ : ∃ o? : Option (Stored (Owned Observation)),
      (∀ o ∈ o?, o ∈ s.observations.rows ∧ o.content.owner = d.id) ∧
        (p.Tests .observationRecord → ∃ o ∈ o?, p.HoldsOn (.observation o)) := by
    by_cases tests : p.Tests .observationRecord
    · obtain ⟨o, ho, belongs, holds⟩ := h.observation tests
      refine ⟨some o, ?_, fun _ => ⟨o, rfl, holds⟩⟩
      rintro _ ⟨⟩
      exact ⟨ho, belongs.trans owner.symm⟩
    · exact ⟨none, by simp, fun h => absurd h tests⟩
  obtain ⟨r?, a?, hProjection, hAxis, projected, measured⟩ :
      ∃ (r? : Option (Stored (Owned Projection))) (a? : Option (Stored (Owned Axis))),
        (∀ r ∈ r?, r ∈ s.projections.rows ∧ r.content.owner = d.id) ∧
        (∀ a ∈ a?, a ∈ s.axes.rows ∧ ∃ r ∈ r?, a.content.owner = r.id) ∧
        (p.Tests .projectionDefinition → ∃ r ∈ r?, p.HoldsOn (.projection r)) ∧
        (p.Tests .axisEntry → ∃ a ∈ a?, p.HoldsOn (.axis a)) := by
    by_cases needs : p.Tests .projectionDefinition ∨ p.Tests .axisEntry
    · obtain ⟨r, hr, belongs, holds, axis⟩ := h.projection needs
      have stored : ∀ r' ∈ some r, r' ∈ s.projections.rows ∧ r'.content.owner = d.id := by
        rintro _ ⟨⟩
        exact ⟨hr, belongs.trans owner.symm⟩
      by_cases tests : p.Tests .axisEntry
      · obtain ⟨a, ha, aBelongs, aHolds⟩ := axis tests
        refine ⟨some r, some a, stored, ?_, fun _ => ⟨r, rfl, holds⟩, fun _ => ⟨a, rfl, aHolds⟩⟩
        rintro _ ⟨⟩
        exact ⟨ha, r, rfl, aBelongs⟩
      · exact ⟨some r, none, stored, by simp, fun _ => ⟨r, rfl, holds⟩, fun h => absurd h tests⟩
    · rw [not_or] at needs
      exact ⟨none, none, by simp, by simp, fun h => absurd h needs.1, fun h => absurd h needs.2⟩
  refine ⟨⟨d, o?, r?, a?⟩, ⟨⟨hd, owner⟩, hObservation, hProjection, hAxis⟩, ?_⟩
  have holds : ∀ kind, p.Tests kind →
      ∃ e ∈ Choice.record? ⟨d, o?, r?, a?⟩ g kind, p.HoldsOn e := by
    intro kind tests
    cases kind with
    | metadataDirectory => exact ⟨_, rfl, dHolds⟩
    | observationRecord =>
      obtain ⟨o, ho, holds⟩ := observed tests
      exact ⟨_, Option.mem_map_of_mem _ ho, holds⟩
    | projectionDefinition =>
      obtain ⟨r, hr, holds⟩ := projected tests
      exact ⟨_, Option.mem_map_of_mem _ hr, holds⟩
    | axisEntry =>
      obtain ⟨a, ha, holds⟩ := measured tests
      exact ⟨_, Option.mem_map_of_mem _ ha, holds⟩
    | georeferenceFile => exact ⟨_, rfl, h.file⟩
  intro b hb
  obtain ⟨e, chosen, holds⟩ := holds b.field.kind ⟨b, hb, rfl⟩
  exact ⟨e, chosen, holds b hb (Choice.kind_of_mem_record? chosen).symm⟩

/-- A file answers a predicate exactly if records joined to it can be chosen so that all
conditions hold on them. -/
theorem answers_iff_exists_choice :
    s.Answers p g ↔ ∃ c : Choice, c.Joined s g ∧ c.Satisfies g p.conditions :=
  ⟨Answers.exists_choice, fun ⟨_, joined, satisfies⟩ => answers_of_choice joined satisfies⟩

/-! ## Two predicates -/

theorem Answers.of_conjoin (h : s.Answers (p.conjoin q) g) : s.Answers p g ∧ s.Answers q g := by
  obtain ⟨c, joined, satisfies⟩ := h.exists_choice
  obtain ⟨first, second⟩ := Choice.satisfies_append.mp satisfies
  exact ⟨answers_of_choice joined first, answers_of_choice joined second⟩

theorem Answers.symm (h : s.Answers (p.conjoin q) g) : s.Answers (q.conjoin p) g := by
  obtain ⟨c, joined, satisfies⟩ := h.exists_choice
  obtain ⟨first, second⟩ := Choice.satisfies_append.mp satisfies
  exact answers_of_choice joined (Choice.satisfies_append.mpr ⟨second, first⟩)

theorem holdsOn_conjoin {e : Entity} :
    (p.conjoin q).HoldsOn e ↔ p.HoldsOn e ∧ q.HoldsOn e :=
  List.forall_mem_append

theorem tests_conjoin {kind : Kind} :
    (p.conjoin q).Tests kind ↔ p.Tests kind ∨ q.Tests kind := by
  simp only [Predicate.Tests, Predicate.conjoin, List.mem_append, or_and_right, exists_or]

theorem holdsOn_of_not_tests {e : Entity} (h : ¬ p.Tests e.kind) : p.HoldsOn e :=
  fun b hb same => absurd ⟨b, hb, same⟩ h

/-- What is chosen of a kind that only one of two predicates tests does for both. -/
theorem exists_conjoin {α : Type} {stored : α → Prop} {entity : α → Entity} {kind : Kind}
    (ofKind : ∀ a, (entity a).kind = kind)
    (hp : p.Tests kind → ∃ a, stored a ∧ p.HoldsOn (entity a))
    (hq : q.Tests kind → ∃ a, stored a ∧ q.HoldsOn (entity a))
    (apart : ¬ (p.Tests kind ∧ q.Tests kind)) (tests : (p.conjoin q).Tests kind) :
    ∃ a, stored a ∧ (p.conjoin q).HoldsOn (entity a) := by
  rcases tests_conjoin.mp tests with first | second
  · obtain ⟨a, ha, holds⟩ := hp first
    have other : ¬ q.Tests (entity a).kind := by
      rw [ofKind a]
      exact fun h => apart ⟨first, h⟩
    exact ⟨a, ha, holdsOn_conjoin.mpr ⟨holds, holdsOn_of_not_tests other⟩⟩
  · obtain ⟨a, ha, holds⟩ := hq second
    have other : ¬ p.Tests (entity a).kind := by
      rw [ofKind a]
      exact fun h => apart ⟨h, second⟩
    exact ⟨a, ha, holdsOn_conjoin.mpr ⟨holdsOn_of_not_tests other, holds⟩⟩

theorem ChoosesObservation.conjoin {directory : Int} (hp : s.ChoosesObservation p directory)
    (hq : s.ChoosesObservation q directory)
    (apart : ¬ (p.Tests .observationRecord ∧ q.Tests .observationRecord)) :
    s.ChoosesObservation (p.conjoin q) directory := by
  unfold ChoosesObservation at hp hq ⊢
  simp only [← and_assoc] at hp hq ⊢
  exact exists_conjoin (fun _ => rfl) hp hq apart

theorem ChoosesAxis.conjoin {projection : Int} (hp : s.ChoosesAxis p projection)
    (hq : s.ChoosesAxis q projection)
    (apart : ¬ (p.Tests .axisEntry ∧ q.Tests .axisEntry)) :
    s.ChoosesAxis (p.conjoin q) projection := by
  unfold ChoosesAxis at hp hq ⊢
  simp only [← and_assoc] at hp hq ⊢
  exact exists_conjoin (fun _ => rfl) hp hq apart

/-- The projection of a directory, as a predicate that tests nothing of it or its axes has it. -/
theorem chooses_of_not_tests {r : Stored (Owned Projection)}
    (h : ¬ (p.Tests .projectionDefinition ∨ p.Tests .axisEntry)) :
    p.HoldsOn (.projection r) ∧ s.ChoosesAxis p r.id := by
  rw [not_or] at h
  exact ⟨holdsOn_of_not_tests h.1, fun tests => absurd tests h.2⟩

theorem WellFormed.projection_unique (hs : s.WellFormed isFile)
    {r r' : Stored (Owned Projection)} (hr : r ∈ s.projections.rows)
    (hr' : r' ∈ s.projections.rows) (same : r.content.owner = r'.content.owner) : r = r' := by
  have distinct : (s.projections.rows.map (·.content.owner)).Nodup :=
    List.pairwise_map.mpr hs.projections_distinct
  exact List.inj_on_of_nodup_map distinct hr hr' same

theorem ChoosesProjection.conjoin (hs : s.WellFormed isFile) {directory : Int}
    (hp : s.ChoosesProjection p directory) (hq : s.ChoosesProjection q directory)
    (apart : ¬ (p.Tests .axisEntry ∧ q.Tests .axisEntry)) :
    s.ChoosesProjection (p.conjoin q) directory := by
  intro tests
  obtain ⟨r, hr, belongs, first, second⟩ : ∃ r ∈ s.projections.rows,
      r.content.owner = directory ∧ (p.HoldsOn (.projection r) ∧ s.ChoosesAxis p r.id) ∧
        (q.HoldsOn (.projection r) ∧ s.ChoosesAxis q r.id) := by
    by_cases first : p.Tests .projectionDefinition ∨ p.Tests .axisEntry
    · obtain ⟨r, hr, belongs, holds⟩ := hp first
      by_cases second : q.Tests .projectionDefinition ∨ q.Tests .axisEntry
      · obtain ⟨r', hr', belongs', holds'⟩ := hq second
        rw [hs.projection_unique hr' hr (belongs'.trans belongs.symm)] at holds'
        exact ⟨r, hr, belongs, holds, holds'⟩
      · exact ⟨r, hr, belongs, holds, chooses_of_not_tests second⟩
    · have second : q.Tests .projectionDefinition ∨ q.Tests .axisEntry := by
        rw [tests_conjoin, tests_conjoin, or_or_or_comm] at tests
        exact tests.resolve_left first
      obtain ⟨r, hr, belongs, holds⟩ := hq second
      exact ⟨r, hr, belongs, chooses_of_not_tests first, holds⟩
  exact ⟨r, hr, belongs, holdsOn_conjoin.mpr ⟨first.1, second.1⟩,
    first.2.conjoin second.2 apart⟩

/-- A file that answers two predicates answers both at once, unless they may have chosen different
records: the directory and its projection are the same for both. -/
theorem Answers.conjoin (hs : s.WellFormed isFile) (hp : s.Answers p g) (hq : s.Answers q g)
    (observations : ¬ (p.Tests .observationRecord ∧ q.Tests .observationRecord))
    (axes : ¬ (p.Tests .axisEntry ∧ q.Tests .axisEntry)) : s.Answers (p.conjoin q) g := by
  obtain ⟨d, hd, owner, holds⟩ := hp.directory
  obtain ⟨d', hd', owner', holds'⟩ := hq.directory
  have found := hs.directories.get?_eq_some_iff.mpr ⟨hd, owner⟩
  rw [hs.directories.get?_eq_some_iff.mpr ⟨hd', owner'⟩] at found
  cases found
  exact
    { file := holdsOn_conjoin.mpr ⟨hp.file, hq.file⟩
      directory := ⟨d, hd, owner, holdsOn_conjoin.mpr ⟨holds, holds'⟩⟩
      observation := hp.observation.conjoin hq.observation observations
      projection := hp.projection.conjoin hs hq.projection axes }

end Store

end SceneArchive
