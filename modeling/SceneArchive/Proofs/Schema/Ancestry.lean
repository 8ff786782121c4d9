import Mathlib.Data.List.Perm.Subperm
import Mathlib.Logic.Relation
import Mathlib.Data.Fintype.Card
import Mathlib.Data.Fintype.EquivFin
import SceneArchive.Proofs.Schema.Checks

/-!
# The forest of kinds

The kinds of a schema that was built without faults form a forest: each belongs to one other kind
at most, and none belongs to itself, not even through others.

* `isForest_of_build`: the checks of a registry see to it.
* `IsForest.induction_below`, `IsForest.induction_above`: a property of kinds may be shown from
  the children of a kind, or from its parent.
-/

namespace SceneArchive

namespace Schema

variable {s : Schema} {kind parent : Kind}

/-- Whether a kind belongs to another one. -/
def Wired (s : Schema) (kind parent : Kind) : Prop :=
  ∃ relation, s.parentOf kind = some relation ∧ relation.parent = parent

/-- Whether a kind belongs to another one, directly or through others. -/
def Below (s : Schema) : Kind → Kind → Prop := Relation.TransGen s.Wired

/-- Kinds declared once each, none of which is its own ancestor. -/
structure IsForest (s : Schema) : Prop where
  distinct : (s.entities.map (·.kind)).Nodup
  acyclic : ∀ kind, ¬ s.Below kind kind

theorem Wired.unique {other : Kind} (h : s.Wired kind parent) (h' : s.Wired kind other) :
    parent = other := by
  obtain ⟨relation, declared, rfl⟩ := h
  obtain ⟨relation', declared', rfl⟩ := h'
  rw [declared] at declared'
  cases declared'
  rfl

theorem Wired.below (h : s.Wired kind parent) : s.Below kind parent := Relation.TransGen.single h

/-- What a kind is below is its parent or above that. -/
theorem Below.cases_parent {ancestor : Kind} (h : s.Below kind ancestor)
    (wired : s.Wired kind parent) : ancestor = parent ∨ s.Below parent ancestor := by
  obtain ⟨other, first, rest⟩ := Relation.TransGen.head'_iff.mp h
  rw [← wired.unique first] at rest
  rcases Relation.reflTransGen_iff_eq_or_transGen.mp rest with same | below
  · exact .inl same
  · exact .inr below

theorem Below.exists_wired {ancestor : Kind} (h : s.Below kind ancestor) :
    ∃ parent, s.Wired kind parent := by
  obtain ⟨parent, first, -⟩ := Relation.TransGen.head'_iff.mp h
  exact ⟨parent, first⟩

/-! ## Kinds and their children -/

theorem mem_entities_of_wired (h : s.Wired kind parent) :
    ∃ d ∈ s.entities, d.kind = kind ∧ d.parent? = some parent := by
  obtain ⟨relation, related, rfl⟩ := h
  obtain ⟨d, found, relates⟩ := Option.bind_eq_some_iff.mp related
  refine ⟨d, List.mem_of_find?_eq_some found, by simpa using List.find?_some found, ?_⟩
  rw [Declaration.parent?, relates, Option.map_some]

namespace IsForest

variable (h : s.IsForest)

include h

theorem declaration?_of_mem {d : Declaration} (mem : d ∈ s.entities) :
    s.declaration? d.kind = some d :=
  (Keys.find?_eq_some_iff h.distinct).mpr ⟨mem, rfl⟩

theorem mem_childrenOf {child : Kind} :
    child ∈ (s.childrenOf kind).map (·.kind) ↔ s.Wired child kind := by
  constructor
  · intro mem
    obtain ⟨d, child, rfl⟩ := List.mem_map.mp mem
    obtain ⟨declared, belongs⟩ := List.mem_filter.mp child
    obtain ⟨relation, relates, same⟩ := Option.map_eq_some_iff.mp (beq_iff_eq.mp belongs)
    refine ⟨relation, ?_, same⟩
    rw [parentOf, h.declaration?_of_mem declared]
    exact relates
  · intro wired
    obtain ⟨d, mem, rfl, belongs⟩ := mem_entities_of_wired wired
    exact List.mem_map_of_mem (List.mem_filter.mpr ⟨mem, beq_iff_eq.mpr belongs⟩)

theorem nodup_childrenOf : ((s.childrenOf kind).map (·.kind)).Nodup :=
  h.distinct.sublist (List.filter_sublist.map _)

end IsForest

/-! ## Induction -/

instance : Fintype Kind := Fintype.ofList Kind.all Kind.mem_all

namespace IsForest

variable (h : s.IsForest) {motive : Kind → Prop}

include h

theorem induction_below (step : ∀ kind, (∀ child, s.Wired child kind → motive child) → motive kind)
    (kind : Kind) : motive kind := by
  have : IsTrans Kind s.Below := ⟨fun _ _ _ => Relation.TransGen.trans⟩
  have : Std.Irrefl s.Below := ⟨h.acyclic⟩
  have wellFounded : WellFounded s.Below := Finite.wellFounded_of_trans_of_irrefl _
  induction kind using wellFounded.induction with
  | _ kind ih => exact step kind fun child wired => ih child wired.below

theorem induction_above
    (step : ∀ kind, (∀ parent, s.Wired kind parent → motive parent) → motive kind)
    (kind : Kind) : motive kind := by
  have : IsTrans Kind (Function.swap s.Below) :=
    ⟨fun _ _ _ low high => Relation.TransGen.trans high low⟩
  have : Std.Irrefl (Function.swap s.Below) := ⟨h.acyclic⟩
  have wellFounded : WellFounded (Function.swap s.Below) :=
    Finite.wellFounded_of_trans_of_irrefl _
  induction kind using wellFounded.induction with
  | _ kind ih => exact step kind fun parent wired => ih parent wired.below

end IsForest

/-! ## The checks of a registry -/

/-- On a cycle, a walk to the parents never ends and stays on the cycle. -/
theorem ancestors_of_cycle (cycle : s.Below kind kind) (steps : Nat) :
    (s.ancestors steps kind).length = steps ∧
      ∀ x ∈ s.ancestors steps kind, s.Below x x := by
  induction steps generalizing kind with
  | zero => exact ⟨rfl, by simp [ancestors]⟩
  | succ steps ih =>
    obtain ⟨parent, wired⟩ := cycle.exists_wired
    have turned : s.Below parent parent := by
      rcases cycle.cases_parent wired with rfl | back
      · exact cycle
      · exact Relation.TransGen.tail back wired
    obtain ⟨relation, related, rfl⟩ := wired
    obtain ⟨length, cyclic⟩ := ih turned
    have walk : s.ancestors (steps + 1) kind =
        relation.parent :: s.ancestors steps relation.parent := by
      rw [ancestors, related]
    rw [walk]
    refine ⟨by rw [List.length_cons, length], ?_⟩
    intro x mem
    rcases List.mem_cons.mp mem with rfl | mem
    · exact turned
    · exact cyclic x mem

theorem isCyclic_of_below (cycle : s.Below kind kind) : s.isCyclic kind = true := by
  by_contra acyclic
  have distinct : (kind :: s.ancestors (s.entities.length + 1) kind).Nodup := by
    simpa [isCyclic] using acyclic
  obtain ⟨length, cyclic⟩ := ancestors_of_cycle cycle (s.entities.length + 1)
  have declared : kind :: s.ancestors (s.entities.length + 1) kind ⊆ s.entities.map (·.kind) := by
    intro x mem
    have cyclicX : s.Below x x := by
      rcases List.mem_cons.mp mem with rfl | mem
      · exact cycle
      · exact cyclic x mem
    obtain ⟨parent, wired⟩ := cyclicX.exists_wired
    obtain ⟨d, declared, rfl, -⟩ := mem_entities_of_wired wired
    exact List.mem_map_of_mem declared
  have short := (List.subperm_of_subset distinct declared).length_le
  rw [List.length_cons, length, List.length_map] at short
  omega

end Schema

namespace Registry

/-- The kinds of a registry without faults form a forest. -/
theorem isForest_of_build {r : Registry} {s : Schema} (h : r.build = .ok s) : s.IsForest := by
  obtain ⟨descriptors, -, -, acyclic, rfl⟩ := build_eq_ok_iff.mp h
  constructor
  · have kinds : r.schema.entities.map (·.kind) = r.descriptors.map (·.kind) := by
      simp [schema, Function.comp_def]
    rw [kinds]
    exact (checkDescriptors_eq_ok_iff.mp descriptors).1.1
  · intro kind cycle
    obtain ⟨parent, wired⟩ := cycle.exists_wired
    obtain ⟨d, mem, rfl, -⟩ := Schema.mem_entities_of_wired wired
    have none := checkAcyclic_eq_ok_iff.mp acyclic d mem
    rw [Schema.isCyclic_of_below cycle] at none
    cases none

end Registry

end SceneArchive
