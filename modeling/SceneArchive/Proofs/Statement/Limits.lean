import SceneArchive.Proofs.Query.WellTyped
import SceneArchive.Statement.Check

/-!
# Limits of statements

The check of a statement refuses the statement of a well-typed predicate for its size alone: it
has too many marks, or its conjunction is too deep. A predicate within the limits passes.

* `checkForm_error`, `checkForm_ok`: the check of clauses that are in order.
* `check_error`, `check_ok`: the check of the statement of a predicate.
-/

namespace SceneArchive

/-- Whether a fault is that a statement is too large. -/
def StorageFault.IsLimit : StorageFault → Prop
  | .refused .tooManyMarks _ _ => True
  | .tooDeep => True
  | _ => False

/-- The number of values in the conditions of a predicate. -/
def Predicate.valueCount (p : Predicate) : Nat :=
  (p.conditions.flatMap (·.operand.values)).length

/-- Whether a predicate is small enough for any statement: three clauses fewer than the greatest
depth, since a single clause has a depth of four at most, and no more values than marks. -/
def Predicate.WithinLimits (p : Predicate) : Prop :=
  p.conditions.length + 3 ≤ Statement.greatestDepth ∧ p.valueCount ≤ Statement.mostMarks

namespace Statement

/-! ## Clauses in order -/

/-- Whether a clause has an operand that its operator takes. -/
structure Clause.InOrder (clause : Clause) : Prop where
  form : clause.wrongMark? = none
  sense : clause.comparesSeveral = false

theorem inOrder_ofCondition {catalog : Catalog} {c : BoundCondition} (hc : c.WellTyped catalog) :
    (Clause.ofCondition c).InOrder := by
  have shape := hc.shape
  obtain ⟨field, operator, operand⟩ := c
  cases operator with
  | comparison comparison =>
    cases operand with
    | scalar w => exact ⟨rfl, rfl⟩
    | list ws => cases shape
  | membership negated =>
    cases operand with
    | scalar w => cases shape
    | list ws =>
      cases ws with
      | nil => cases negated <;> exact ⟨rfl, rfl⟩
      | cons w rest => exact ⟨rfl, rfl⟩

theorem parameters_ofCondition (c : BoundCondition) :
    (Clause.ofCondition c).parameters = c.operand.values := by
  obtain ⟨field, operator, operand⟩ := c
  cases operator with
  | comparison comparison => rfl
  | membership negated =>
    cases operand with
    | scalar w => rfl
    | list ws =>
      cases ws with
      | nil => cases negated <;> rfl
      | cons w rest => rfl

theorem severalOffset?_eq_none {clauses : List Clause} (h : ∀ c ∈ clauses, c.InOrder)
    (offset : Nat) : severalOffset? offset clauses = none := by
  induction clauses generalizing offset with
  | nil => rfl
  | cons clause rest ih =>
    obtain ⟨first, others⟩ := List.forall_mem_cons.mp h
    simp only [severalOffset?, first.sense, Bool.false_eq_true, if_false]
    exact ih others _

/-! ## Depth and marks -/

theorem depth_le (clause : Clause) : clause.depth ≤ 4 := by
  unfold Clause.depth
  split <;> omega

theorem conjoinedDepth_le (isNever : Bool) (depth : Nat) (clause : Clause) :
    conjoinedDepth isNever depth clause ≤ max depth clause.depth + 1 := by
  unfold conjoinedDepth
  split <;> omega

/-- A bound for the depth of clauses that grows by one at most with every clause. -/
def Checked.depthBound (seen : Checked) : Nat := if seen.depth = 0 then 3 else max seen.depth 4

theorem depthBound_after_le (seen : Checked) (clause : Clause) :
    (seen.after clause).depthBound ≤ seen.depthBound + 1 := by
  have := depth_le clause
  by_cases first : seen.depth = 0
  · have same : (seen.after clause).depth = clause.depth := by simp [Checked.after, first]
    simp only [Checked.depthBound, same, first, if_true]
    split <;> omega
  · have same : (seen.after clause).depth =
        conjoinedDepth (seen.after clause).hasNever seen.depth clause := by
      simp [Checked.after, first]
    have deeper := conjoinedDepth_le (seen.after clause).hasNever seen.depth clause
    simp only [Checked.depthBound, same, first, if_false]
    split <;> omega

theorem depth_le_depthBound (seen : Checked) : seen.depth ≤ seen.depthBound := by
  unfold Checked.depthBound
  split <;> omega

theorem checkForm_error {clauses : List Clause} (h : ∀ c ∈ clauses, c.InOrder)
    {statement : String} {seen : Checked} {offset : Nat} {fault : StorageFault}
    (refused : checkForm statement seen offset clauses = .error fault) : fault.IsLimit := by
  induction clauses generalizing seen offset with
  | nil => cases refused
  | cons clause rest ih =>
    obtain ⟨first, others⟩ := List.forall_mem_cons.mp h
    simp only [checkForm, first.form] at refused
    split at refused
    · cases refused
      trivial
    · split at refused
      · cases refused
        trivial
      · exact ih others refused

theorem checkForm_ok {clauses : List Clause} (h : ∀ c ∈ clauses, c.InOrder) (statement : String)
    {seen : Checked} (offset : Nat) (depth : seen.depthBound + clauses.length ≤ greatestDepth)
    (marks : seen.marks + (clauses.flatMap (·.parameters)).length ≤ mostMarks) :
    checkForm statement seen offset clauses = .ok () := by
  induction clauses generalizing seen offset with
  | nil => rfl
  | cons clause rest ih =>
    obtain ⟨first, others⟩ := List.forall_mem_cons.mp h
    have deeper := depthBound_after_le seen clause
    have bounded := depth_le_depthBound (seen.after clause)
    simp only [List.length_cons, List.flatMap_cons, List.length_append] at depth marks
    have fewMarks : (seen.after clause).marks + (rest.flatMap (·.parameters)).length ≤
        mostMarks := by
      simp only [Checked.after]
      omega
    simp only [checkForm, first.form]
    rw [if_neg (by omega), if_neg (by omega)]
    exact ih others _ (by omega) fewMarks

/-! ## Statements of predicates -/

variable {catalog : Catalog} {p : Predicate}

theorem inOrder_clauses (hp : p.WellTyped catalog) :
    ∀ clause ∈ p.conditions.map Clause.ofCondition, clause.InOrder := by
  intro clause hClause
  obtain ⟨c, hc, rfl⟩ := List.mem_map.mp hClause
  exact inOrder_ofCondition (hp c hc)

theorem check_error (hp : p.WellTyped catalog) {joins : List Join} {fault : StorageFault}
    (refused : Select.check ⟨joins, p.conditions.map Clause.ofCondition⟩ = .error fault) :
    fault.IsLimit := by
  have inOrder := inOrder_clauses hp
  simp only [Select.check, severalOffset?_eq_none inOrder] at refused
  cases form : checkForm (Select.text ⟨joins, p.conditions.map Clause.ofCondition⟩) {}
      ((Select.head ⟨joins, p.conditions.map Clause.ofCondition⟩).utf8ByteSize + 7)
      (p.conditions.map Clause.ofCondition) with
  | error other =>
    rw [form] at refused
    cases refused
    exact checkForm_error inOrder form
  | ok done =>
    rw [form] at refused
    simp only [bind, Except.bind, pure, Except.pure, ite_self] at refused
    cases refused

theorem check_ok (hp : p.WellTyped catalog) (within : p.WithinLimits) (joins : List Join) :
    Select.check ⟨joins, p.conditions.map Clause.ofCondition⟩ = .ok () := by
  have inOrder := inOrder_clauses hp
  obtain ⟨depth, values⟩ := within
  have marks : ((p.conditions.map Clause.ofCondition).flatMap (·.parameters)).length =
      p.valueCount := by
    simp only [Predicate.valueCount, List.flatMap_map, parameters_ofCondition]
  have start : Checked.depthBound {} + (p.conditions.map Clause.ofCondition).length ≤
      greatestDepth := by
    rw [List.length_map]
    change 3 + p.conditions.length ≤ greatestDepth
    omega
  have form := checkForm_ok inOrder
    (Select.text ⟨joins, p.conditions.map Clause.ofCondition⟩)
    ((Select.head ⟨joins, p.conditions.map Clause.ofCondition⟩).utf8ByteSize + 7) start
    (by simpa only [marks, Nat.zero_add] using values)
  simp only [Select.check, severalOffset?_eq_none inOrder]
  rw [form]
  simp only [bind, Except.bind, pure, Except.pure, ite_self]

end Statement

end SceneArchive
