import SceneArchive.Proofs.Query.Meaning
import SceneArchive.Proofs.Results
import SceneArchive.Proofs.Statement.Joins

/-!
# The statements of the standard schema

Which tables the statement of a predicate joins, and how: the directory of a file by an inner
join, everything else by outer joins behind it, and a projection also where only its axes are
tested.

* `ofPredicate_standard`: the statement of a predicate.
* `ready_standardJoins`: every join starts from a kind that is bound by then.
-/

namespace SceneArchive

/-- The kinds that a predicate needs beside that of the files: those that it tests, and the ones
that lead to them. -/
def Predicate.Needs (p : Predicate) : Kind → Prop
  | .metadataDirectory => ∃ kind, kind ≠ .georeferenceFile ∧ p.Tests kind
  | .observationRecord => p.Tests .observationRecord
  | .projectionDefinition => p.Tests .projectionDefinition ∨ p.Tests .axisEntry
  | .axisEntry => p.Tests .axisEntry
  | .georeferenceFile => False

namespace Predicate

theorem Needs.of_tests {p : Predicate} {kind : Kind} (h : p.Tests kind)
    (other : kind ≠ .georeferenceFile) : p.Needs kind := by
  cases kind with
  | metadataDirectory => exact ⟨_, other, h⟩
  | observationRecord => exact h
  | projectionDefinition => exact .inl h
  | axisEntry => exact h
  | georeferenceFile => exact absurd rfl other

theorem Needs.directory {p : Predicate} {kind : Kind} (h : p.Needs kind) :
    p.Needs .metadataDirectory := by
  cases kind with
  | metadataDirectory => exact h
  | observationRecord => exact ⟨_, by decide, h⟩
  | projectionDefinition =>
    rcases h with h | h
    · exact ⟨_, by decide, h⟩
    · exact ⟨_, by decide, h⟩
  | axisEntry => exact ⟨_, by decide, h⟩
  | georeferenceFile => exact h.elim

theorem Needs.projection {p : Predicate} (h : p.Needs .axisEntry) :
    p.Needs .projectionDefinition :=
  .inr h

end Predicate

namespace Statement

/-- How a kind is joined. -/
def standardJoin : Kind → Join
  | .observationRecord => .children .observationRecord "directory_id" .metadataDirectory
  | .projectionDefinition => .children .projectionDefinition "directory_id" .metadataDirectory
  | .axisEntry => .children .axisEntry "projection_id" .projectionDefinition
  | .metadataDirectory | .georeferenceFile => .parent .metadataDirectory "directory_id"

/-- The joins of the statement of a predicate. -/
def standardJoins (p : Predicate) : List Join :=
  (joinOrder.filter (neededKinds .standard p).contains).map standardJoin

theorem mem_neededKinds {p : Predicate} {kind : Kind} :
    kind ∈ neededKinds .standard p ↔ p.Needs kind := by
  simp only [neededKinds, List.mem_flatMap, List.mem_filter, Predicate.mem_kinds, bne_iff_ne]
  constructor
  · rintro ⟨tested, ⟨h, other⟩, mem⟩
    have needs := Predicate.Needs.of_tests h other
    cases tested with
    | georeferenceFile => exact absurd rfl other
    | axisEntry =>
      have : kind ∈ [Kind.axisEntry, .projectionDefinition, .metadataDirectory] := mem
      simp only [List.mem_cons, List.not_mem_nil, or_false] at this
      rcases this with rfl | rfl | rfl
      · exact needs
      · exact needs.projection
      · exact needs.directory
    | metadataDirectory =>
      have : kind ∈ [Kind.metadataDirectory] := mem
      rw [List.mem_singleton.mp this]
      exact needs
    | observationRecord =>
      have : kind ∈ [Kind.observationRecord, .metadataDirectory] := mem
      simp only [List.mem_cons, List.not_mem_nil, or_false] at this
      rcases this with rfl | rfl
      · exact needs
      · exact needs.directory
    | projectionDefinition =>
      have : kind ∈ [Kind.projectionDefinition, .metadataDirectory] := mem
      simp only [List.mem_cons, List.not_mem_nil, or_false] at this
      rcases this with rfl | rfl
      · exact needs
      · exact needs.directory
  · intro needs
    cases kind with
    | metadataDirectory =>
      obtain ⟨tested, other, h⟩ := needs
      refine ⟨tested, ⟨h, other⟩, ?_⟩
      cases tested with
      | georeferenceFile => exact absurd rfl other
      | _ => decide
    | observationRecord => exact ⟨_, ⟨needs, by decide⟩, List.mem_cons_self⟩
    | projectionDefinition =>
      rcases needs with h | h
      · exact ⟨_, ⟨h, by decide⟩, List.mem_cons_self⟩
      · exact ⟨_, ⟨h, by decide⟩, by decide⟩
    | axisEntry => exact ⟨_, ⟨needs, by decide⟩, List.mem_cons_self⟩
    | georeferenceFile => exact needs.elim

theorem contains_neededKinds {p : Predicate} {kind : Kind} :
    (neededKinds .standard p).contains kind = true ↔ p.Needs kind := by
  rw [List.contains_iff_mem, mem_neededKinds]

theorem joinOf_standard {p : Predicate} {kind : Kind} (h : p.Needs kind) :
    joinOf .standard (neededKinds .standard p) kind = .ok (standardJoin kind) := by
  have directory := contains_neededKinds.mpr h.directory
  cases kind with
  | metadataDirectory => rfl
  | observationRecord => exact if_pos directory
  | projectionDefinition => exact if_pos directory
  | axisEntry => exact if_pos (contains_neededKinds.mpr h.projection)
  | georeferenceFile => exact h.elim

theorem ofPredicate_standard (p : Predicate) :
    Select.ofPredicate .standard p =
      .ok ⟨standardJoins p, p.conditions.map Clause.ofCondition⟩ := by
  have joins : (joinOrder.filter (neededKinds .standard p).contains).mapM
      (joinOf .standard (neededKinds .standard p)) = .ok (standardJoins p) := by
    rw [Results.mapM_eq_ok_iff, standardJoins, List.forall₂_map_right_iff, List.forall₂_same]
    intro kind hKind
    exact joinOf_standard (contains_neededKinds.mp (List.mem_filter.mp hKind).2)
  simp only [Select.ofPredicate, joins]
  rfl

/-- The statement that the standard schema has for a predicate. -/
def standardSelect (p : Predicate) : Select :=
  ⟨standardJoins p, p.conditions.map Clause.ofCondition⟩

theorem kind_standardJoin {kind : Kind} (h : kind ≠ .georeferenceFile) :
    (standardJoin kind).kind = kind := by
  cases kind with
  | georeferenceFile => exact absurd rfl h
  | _ => rfl

theorem mem_standardJoins {p : Predicate} {j : Join} :
    j ∈ standardJoins p ↔ ∃ kind, p.Needs kind ∧ j = standardJoin kind := by
  simp only [standardJoins, List.mem_map, List.mem_filter, contains_neededKinds]
  constructor
  · rintro ⟨kind, ⟨-, needs⟩, rfl⟩
    exact ⟨kind, needs, rfl⟩
  · rintro ⟨kind, needs, rfl⟩
    refine ⟨kind, ⟨?_, needs⟩, rfl⟩
    cases kind with
    | georeferenceFile => exact needs.elim
    | _ => decide

/-- Every join starts from the files or from a kind that is joined before. -/
theorem ready_standardJoins (p : Predicate) : Join.Ready [resultKind] (standardJoins p) := by
  unfold standardJoins
  by_cases any : p.Needs .metadataDirectory
  · have directory := contains_neededKinds.mpr any
    by_cases axis : p.Needs .axisEntry
    · have axes := contains_neededKinds.mpr axis
      have projections := contains_neededKinds.mpr axis.projection
      simp only [joinOrder, List.filter_cons, directory, projections, axes, if_true]
      split <;> simp [Join.Ready, standardJoin, Join.kind, Join.source, resultKind]
    · have axes : (neededKinds .standard p).contains .axisEntry = false := by
        rw [← Bool.not_eq_true, contains_neededKinds]
        exact axis
      simp only [joinOrder, List.filter_cons, directory, axes, if_true]
      split <;> split <;>
        simp [Join.Ready, standardJoin, Join.kind, Join.source, resultKind]
  · have none : joinOrder.filter (neededKinds .standard p).contains = [] := by
      rw [List.filter_eq_nil_iff]
      intro kind _ needed
      exact any (contains_neededKinds.mp needed).directory
    rw [none]
    trivial

end Statement

end SceneArchive
