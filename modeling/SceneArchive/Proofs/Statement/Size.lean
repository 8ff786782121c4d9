import Mathlib.Data.List.Forall2
import SceneArchive.Proofs.Statement.Limits
import SceneArchive.Proofs.Statement.Standard

/-!
# Sizes of statements

How the limits of statements compare from one predicate to another. A clause that no row satisfies
takes the depth of all clauses before it away, so nothing can be said of statements that have one.
Of the others the smaller ones pass where the larger ones do, and a conjunction is no deeper than
the limit only if it has no more clauses.

* `check_of_smaller`: clauses may be left out, or replaced by ones that are no larger.
* `check_tooDeep`: too many clauses are refused.
-/

namespace SceneArchive.Statement

/-- Whether a clause is nested no deeper than another and has no more marks. -/
def Clause.NoLarger (a b : Clause) : Prop :=
  a.depth ≤ b.depth ∧ a.parameters.length ≤ b.parameters.length

/-- Whether less has been seen, of clauses that rows can satisfy. -/
structure Checked.NoLarger (a b : Checked) : Prop where
  possible : b.hasNever = false
  depth : a.depth ≤ b.depth
  marks : a.marks ≤ b.marks

variable {seen seen' : Checked} {clause clause' : Clause} {clauses clauses' : List Clause}

theorem depth_pos (clause : Clause) : 0 < clause.depth := by
  unfold Clause.depth
  split <;> omega

/-- Without an impossible clause every clause adds to the depth. -/
theorem depth_after (possible : seen.hasNever = false) (hClause : clause.isNever = false) :
    (seen.after clause).depth =
      if seen.depth = 0 then clause.depth else max seen.depth clause.depth + 1 := by
  simp [Checked.after, conjoinedDepth, possible, hClause]

theorem depth_after_le (seen : Checked) (clause : Clause) :
    (seen.after clause).depth ≤
      if seen.depth = 0 then clause.depth else max seen.depth clause.depth + 1 := by
  have := conjoinedDepth_le (seen.after clause).hasNever seen.depth clause
  by_cases first : seen.depth = 0
  · simp [Checked.after, first]
  · have same : (seen.after clause).depth =
        conjoinedDepth (seen.after clause).hasNever seen.depth clause := by
      simp [Checked.after, first]
    rw [same, if_neg first]
    exact this

theorem hasNever_after (possible : seen.hasNever = false) (hClause : clause.isNever = false) :
    (seen.after clause).hasNever = false := by
  simp [Checked.after, possible, hClause]

theorem Checked.NoLarger.skip (h : seen'.NoLarger seen) (hClause : clause.isNever = false) :
    seen'.NoLarger (seen.after clause) := by
  obtain ⟨possible, depth, marks⟩ := h
  have deeper := depth_after possible hClause
  refine ⟨hasNever_after possible hClause, ?_, ?_⟩
  · split at deeper <;> omega
  · simp only [Checked.after]
    omega

theorem Checked.NoLarger.after (h : seen'.NoLarger seen) (smaller : clause'.NoLarger clause)
    (hClause : clause.isNever = false) :
    (seen'.after clause').NoLarger (seen.after clause) := by
  obtain ⟨possible, depth, marks⟩ := h
  obtain ⟨clauseDepth, clauseMarks⟩ := smaller
  have deeper := depth_after possible hClause
  have shallow := depth_after_le seen' clause'
  refine ⟨hasNever_after possible hClause, ?_, ?_⟩
  · split at deeper <;> split at shallow <;> omega
  · simp only [Checked.after]
    omega

/-- What is checked of clauses that pass. -/
theorem checkForm_cons_ok {statement : String} {offset : Nat}
    (ok : checkForm statement seen offset (clause :: clauses) = .ok ()) :
    (seen.after clause).marks ≤ mostMarks ∧ (seen.after clause).depth ≤ greatestDepth ∧
      ∃ offset', checkForm statement (seen.after clause) offset' clauses = .ok () := by
  simp only [checkForm] at ok
  split at ok
  · cases ok
  · split at ok
    · cases ok
    · split at ok
      · cases ok
      · exact ⟨by omega, by omega, _, ok⟩

theorem checkForm_of_smaller {statement statement' : String} {offset offset' : Nat}
    (smaller : List.SublistForall₂ Clause.NoLarger clauses' clauses)
    (inOrder : ∀ c ∈ clauses', c.InOrder) (possible : ∀ c ∈ clauses, c.isNever = false)
    (less : seen'.NoLarger seen) (ok : checkForm statement seen offset clauses = .ok ()) :
    checkForm statement' seen' offset' clauses' = .ok () := by
  induction smaller generalizing seen seen' offset offset' with
  | nil => rfl
  | cons related _ ih =>
    obtain ⟨first, others⟩ := List.forall_mem_cons.mp inOrder
    obtain ⟨firstPossible, othersPossible⟩ := List.forall_mem_cons.mp possible
    obtain ⟨marks, depth, _, rest⟩ := checkForm_cons_ok ok
    have after := less.after related firstPossible
    have fewMarks := after.marks
    have shallow := after.depth
    simp only [checkForm, first.form]
    rw [if_neg (by omega), if_neg (by omega)]
    exact ih others othersPossible after rest
  | cons_right _ ih =>
    obtain ⟨firstPossible, othersPossible⟩ := List.forall_mem_cons.mp possible
    obtain ⟨-, -, _, rest⟩ := checkForm_cons_ok ok
    exact ih inOrder othersPossible (less.skip firstPossible) rest

/-- Clauses that pass are no more than the depth that is allowed. -/
theorem length_le_of_checkForm {statement : String} {offset : Nat}
    (possible : ∀ c ∈ clauses, c.isNever = false) (hSeen : seen.hasNever = false)
    (begin : seen.depth ≤ greatestDepth)
    (ok : checkForm statement seen offset clauses = .ok ()) :
    seen.depth + clauses.length ≤ greatestDepth := by
  induction clauses generalizing seen offset with
  | nil => exact begin
  | cons clause rest ih =>
    obtain ⟨firstPossible, othersPossible⟩ := List.forall_mem_cons.mp possible
    obtain ⟨-, depth, _, ok⟩ := checkForm_cons_ok ok
    have deeper := depth_after hSeen firstPossible
    have bound := ih othersPossible (hasNever_after hSeen firstPossible) depth ok
    have positive := depth_pos clause
    rw [List.length_cons]
    split at deeper <;> omega

/-! ## Statements of predicates -/

variable {catalog : Catalog} {p q : Predicate}

theorem checkForm_of_check {s : Select} (ok : s.check = .ok ()) :
    checkForm s.text {} (s.head.utf8ByteSize + 7) s.clauses = .ok () := by
  simp only [Select.check] at ok
  cases form : checkForm s.text {} (s.head.utf8ByteSize + 7) s.clauses with
  | error fault =>
    rw [form] at ok
    cases ok
  | ok done => rfl

theorem check_of_checkForm {s : Select} (inOrder : ∀ c ∈ s.clauses, c.InOrder)
    (ok : checkForm s.text {} (s.head.utf8ByteSize + 7) s.clauses = .ok ()) :
    s.check = .ok () := by
  simp only [Select.check, severalOffset?_eq_none inOrder]
  rw [ok]
  simp only [bind, Except.bind, pure, Except.pure, ite_self]

/-- Where the statement of a predicate passes, so do those with fewer and smaller clauses. -/
theorem check_of_smaller (hq : q.WellTyped catalog)
    (smaller : List.SublistForall₂ Clause.NoLarger (standardSelect q).clauses
      (standardSelect p).clauses)
    (possible : ∀ c ∈ (standardSelect p).clauses, c.isNever = false)
    (ok : (standardSelect p).check = .ok ()) : (standardSelect q).check = .ok () := by
  have inOrder := inOrder_clauses hq
  have start : Checked.NoLarger {} {} := ⟨rfl, le_rfl, le_rfl⟩
  apply check_of_checkForm inOrder
  exact checkForm_of_smaller smaller inOrder possible start (checkForm_of_check ok)

/-- A statement does not pass if it has more clauses than the depth that is allowed. -/
theorem check_tooDeep (possible : ∀ c ∈ (standardSelect p).clauses, c.isNever = false)
    (many : greatestDepth < p.conditions.length) : (standardSelect p).check ≠ .ok () := by
  intro ok
  have bound := length_le_of_checkForm possible rfl (Nat.zero_le _) (checkForm_of_check ok)
  rw [standardSelect, List.length_map] at bound
  simp only at bound
  omega

end SceneArchive.Statement
