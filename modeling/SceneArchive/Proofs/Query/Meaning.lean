import Mathlib.Data.String.Basic
import SceneArchive.Query.Predicate
import SceneArchive.Store.Basic

/-!
# What a predicate says

The meaning of a predicate in terms of records alone, without statements, joins or cells: which
values an operator accepts, when a condition holds on a record, and which georeference files of a
store answer a predicate.

* `Store.Answers`: the conditions on one kind are tested on one record of that kind, chosen among
  the records that belong to the directory of the file.
* `Operator.Accepts.isPresent`: a missing value is accepted by no operator.
* `Comparison.holds_compare`: the comparisons of the library are those of the order.
-/

namespace SceneArchive

/-! ## Comparisons -/

/-- What a comparison says of two members of an order. -/
def Comparison.Relates {α : Type} [LT α] (c : Comparison) (a b : α) : Prop :=
  match c with
  | eq => a = b
  | ne => a ≠ b
  | lt => a < b
  | le => ¬ b < a
  | gt => b < a
  | ge => ¬ a < b

theorem Comparison.holds_compare {α : Type} [LinearOrder α] (c : Comparison) (a b : α) :
    c.holds (compare a b) = true ↔ c.Relates a b := by
  rcases lt_trichotomy a b with h | h | h
  · rw [compare_lt_iff_lt.mpr h]
    cases c <;> simp [holds, Relates, h, h.ne, h.le]
  · rw [compare_eq_iff_eq.mpr h]
    cases c <;> simp [holds, Relates, h]
  · rw [compare_gt_iff_gt.mpr h]
    cases c <;> simp [holds, Relates, h, h.ne', h.le]

namespace Value

/-- Whether there is a value that can be compared: neither the missing one nor the one that is
not a number. -/
def IsPresent : Value → Prop
  | null => False
  | float x => Binary64.isNaN x = false
  | _ => True

/-- What a comparison says of two values of one type: text is compared by code points, a date by
its text, a number by its exact value. -/
def Compares (c : Comparison) : Value → Value → Prop
  | text a, text b => c.Relates a b
  | date a, date b => c.Relates a.text b.text
  | integer a, integer b => c.Relates a b
  | float x, float y =>
    IsPresent (float x) ∧ IsPresent (float y) ∧ c.Relates (Binary64.scaled x) (Binary64.scaled y)
  | _, _ => False

end Value

/-- Whether an operator accepts a value beside its operand. -/
def Operator.Accepts (v : Value) : Operator → Operand → Prop
  | comparison c, .scalar w => v.Compares c w
  | membership false, .list ws => ∃ w ∈ ws, v.Compares .eq w
  | membership true, .list ws => v.IsPresent ∧ ∀ w ∈ ws, ¬ v.Compares .eq w
  | _, _ => False

theorem Value.Compares.isPresent {c : Comparison} {v w : Value} (h : v.Compares c w) :
    v.IsPresent := by
  unfold Compares at h
  split at h
  · trivial
  · trivial
  · trivial
  · exact h.1
  · exact h.elim

/-- No operator accepts a missing value. -/
theorem Operator.Accepts.isPresent {v : Value} {operator : Operator} {operand : Operand}
    (h : operator.Accepts v operand) : v.IsPresent := by
  unfold Accepts at h
  split at h
  · exact h.isPresent
  · obtain ⟨w, -, equal⟩ := h
    exact equal.isPresent
  · exact h.1
  · exact h.elim

/-! ## Conditions -/

/-- Whether a condition holds on a record of its kind: its operator accepts the attribute. -/
def BoundCondition.HoldsOn (c : BoundCondition) (e : Entity) : Prop :=
  ∃ v, (c.field.name, v) ∈ e.attributes ∧ c.operator.Accepts v c.operand

namespace Predicate

/-- Whether all conditions on the kind of a record hold on it. -/
def HoldsOn (p : Predicate) (e : Entity) : Prop :=
  ∀ c ∈ p.conditions, c.field.kind = e.kind → c.HoldsOn e

/-- Whether some condition is on a kind. -/
def Tests (p : Predicate) (kind : Kind) : Prop := ∃ c ∈ p.conditions, c.field.kind = kind

theorem mem_kinds {p : Predicate} {kind : Kind} : kind ∈ p.kinds ↔ p.Tests kind := by
  simp [kinds, Tests, Kind.mem_all]

end Predicate

/-! ## Answers -/

namespace Store

/-- Whether an axis of a projection can be chosen for a predicate, if it tests axes. -/
def ChoosesAxis (s : Store) (p : Predicate) (projection : Int) : Prop :=
  p.Tests .axisEntry →
    ∃ a ∈ s.axes.rows, a.content.owner = projection ∧ p.HoldsOn (.axis a)

/-- Whether the projection of a directory and one of its axes can be chosen for a predicate, if it
tests projections or axes. -/
def ChoosesProjection (s : Store) (p : Predicate) (directory : Int) : Prop :=
  p.Tests .projectionDefinition ∨ p.Tests .axisEntry →
    ∃ r ∈ s.projections.rows, r.content.owner = directory ∧ p.HoldsOn (.projection r) ∧
      s.ChoosesAxis p r.id

/-- Whether an observation of a directory can be chosen for a predicate, if it tests
observations. -/
def ChoosesObservation (s : Store) (p : Predicate) (directory : Int) : Prop :=
  p.Tests .observationRecord →
    ∃ o ∈ s.observations.rows, o.content.owner = directory ∧ p.HoldsOn (.observation o)

/-- Whether a georeference file answers a predicate: every condition holds on the file, on its
directory, and on records chosen among those of the directory. -/
structure Answers (s : Store) (p : Predicate) (g : Stored (Owned Georeference)) : Prop where
  file : p.HoldsOn (.georeference g)
  directory : ∃ d ∈ s.directories.rows, d.id = g.content.owner ∧ p.HoldsOn (.directory d)
  observation : s.ChoosesObservation p g.content.owner
  projection : s.ChoosesProjection p g.content.owner

end Store

end SceneArchive
