import SceneArchive.Proofs.Decimal.Binary64
import SceneArchive.Proofs.Query.WellTyped
import SceneArchive.Statement.Evaluation

/-!
# Clauses and values

A clause compares cells where a condition speaks of values. For values of the type of the field
the two agree: a clause is true of the cell of a value exactly if the operator accepts the value.
The three truth values come in only here; a clause that is unknown is not true.

* `order?_ofValue`: the order of two cells decides every comparison of their values.
* `truth_ofCondition_iff`: what the clause of a condition says of a value.
-/

namespace SceneArchive

/-- A value of a column of a type: one of the type, or the missing one. -/
def Value.HasType (type : ValueType) (v : Value) : Prop := v = .null ∨ v.type? = some type

namespace Statement

namespace Cell

theorem isNull_ofValue_iff (v : Value) : (ofValue v).isNull = false ↔ v.IsPresent := by
  cases v with
  | float x => cases h : Binary64.isNaN x <;> simp [ofValue, isNull, Value.IsPresent, h]
  | null => simp [ofValue, isNull, Value.IsPresent]
  | _ => simp [ofValue, isNull, Value.IsPresent]

theorem order?_integer (a b : Int) : order? (integer a) (integer b) = some (compare a b) := by
  have positive : (0 : Int) < Binary64.unitsPerOne := by
    have := Binary64.unitsPerOne_pos
    omega
  change some (compare (a * (Binary64.unitsPerOne : Int)) (b * (Binary64.unitsPerOne : Int))) = _
  rcases lt_trichotomy a b with h | h | h
  · rw [compare_lt_iff_lt.mpr h,
      compare_lt_iff_lt.mpr (Int.mul_lt_mul_of_pos_right h positive)]
  · rw [h, compare_eq_iff_eq.mpr rfl, compare_eq_iff_eq.mpr rfl]
  · rw [compare_gt_iff_gt.mpr h,
      compare_gt_iff_gt.mpr (Int.mul_lt_mul_of_pos_right h positive)]

theorem order?_real (x y : Float) :
    order? (real (Binary64.withoutNegativeZero x)) (real (Binary64.withoutNegativeZero y)) =
      some (compare (Binary64.scaled x) (Binary64.scaled y)) := by
  change some (compare (Binary64.scaled _) (Binary64.scaled _)) = _
  rw [Binary64.scaled_withoutNegativeZero, Binary64.scaled_withoutNegativeZero]

/-- The order of two cells decides every comparison of their values. -/
theorem order?_ofValue {type : ValueType} {v w : Value} (hv : v.HasType type)
    (hw : w.type? = some type) (present : w.IsPresent) (c : Comparison) :
    ((ofValue v).order? (ofValue w)).map c.holds = some true ↔ v.Compares c w := by
  rcases hv with rfl | hv
  · simp [ofValue, order?, Value.Compares]
  · have same : v.type? = w.type? := hv.trans hw.symm
    cases v <;> cases w <;> simp only [Value.type?, reduceCtorEq, Option.some.injEq] at same
    case null.null => cases present
    case integer.integer a b =>
      simp only [ofValue, order?_integer, Option.map_some, Option.some.injEq]
      exact c.holds_compare a b
    case float.float x y =>
      have hy : Binary64.isNaN y = false := present
      cases hx : Binary64.isNaN x with
      | true => simp [ofValue, hx, order?, Value.Compares, Value.IsPresent]
      | false =>
        simp only [ofValue, hx, hy, Bool.false_eq_true, if_false, order?_real, Option.map_some,
          Option.some.injEq, c.holds_compare]
        simp [Value.Compares, Value.IsPresent, hx, hy]
    case text.text a b =>
      simp only [ofValue, order?, Option.map_some, Option.some.injEq]
      exact c.holds_compare a b
    case date.date a b =>
      simp only [ofValue, order?, Option.map_some, Option.some.injEq]
      exact c.holds_compare a.text b.text

/-- A value of the type of a column is compared as it stands. -/
theorem beside_ofValue {type : ValueType} {v : Value} (h : v.type? = some type) :
    (ofValue v).beside type = ofValue v := by
  cases v with
  | null => cases h
  | integer n => cases h; rfl
  | float x =>
    cases h
    cases hx : Binary64.isNaN x <;> simp [ofValue, hx, beside, ValueType.isNumeric]
  | text s => cases h; rfl
  | date d => cases h; rfl

end Cell

theorem matches?_ofValue {type : ValueType} {v w : Value} (hv : v.HasType type)
    (hw : w.type? = some type) (present : w.IsPresent) :
    matches? (.ofValue v) (.ofValue w) = true ↔ v.Compares .eq w := by
  rw [← Cell.order?_ofValue hv hw present .eq]
  cases h : (Cell.ofValue v).order? (Cell.ofValue w) <;>
    simp [matches?, h, Comparison.holds]

/-- Among values that are all there, a test of membership is never unknown for a value that is
there. -/
theorem memberTruth_ofValue {type : ValueType} {v : Value} {ws : List Value}
    (hv : v.HasType type) (hw : ∀ w ∈ ws, w.type? = some type) (present : ∀ w ∈ ws, w.IsPresent)
    (negated : Bool) :
    (memberTruth (.ofValue v) (ws.map .ofValue)).map (xor negated) = some true ↔
      (Operator.membership negated).Accepts v (.list ws) := by
  have anyMatch : (ws.map Cell.ofValue).any (matches? (.ofValue v)) = true ↔
      ∃ w ∈ ws, v.Compares .eq w := by
    rw [List.any_map, List.any_eq_true]
    constructor
    · rintro ⟨w, hMem, h⟩
      exact ⟨w, hMem, (matches?_ofValue hv (hw w hMem) (present w hMem)).mp h⟩
    · rintro ⟨w, hMem, h⟩
      exact ⟨w, hMem, (matches?_ofValue hv (hw w hMem) (present w hMem)).mpr h⟩
  have noNull : (ws.map Cell.ofValue).any (·.isNull) = false := by
    rw [List.any_map, List.any_eq_false]
    intro w hMem
    simpa using (Cell.isNull_ofValue_iff w).mpr (present w hMem)
  unfold memberTruth
  cases hNull : (Cell.ofValue v).isNull with
  | true =>
    have missing : ¬ (Operator.membership negated).Accepts v (.list ws) := by
      intro accepts
      have := (Cell.isNull_ofValue_iff v).mpr accepts.isPresent
      simp [hNull] at this
    simp [missing]
  | false =>
    have there : v.IsPresent := (Cell.isNull_ofValue_iff v).mp hNull
    cases hAny : (ws.map Cell.ofValue).any (matches? (.ofValue v)) with
    | true =>
      obtain ⟨w, hMem, equal⟩ := anyMatch.mp hAny
      cases negated with
      | false => simpa [Operator.Accepts] using ⟨w, hMem, equal⟩
      | true => simpa [Operator.Accepts, there] using ⟨w, hMem, equal⟩
    | false =>
      have noMember : ¬ ∃ w ∈ ws, v.Compares .eq w := by
        rw [← anyMatch, hAny]
        simp
      cases negated with
      | false => simpa [Operator.Accepts, noNull] using noMember
      | true => simpa [Operator.Accepts, noNull, there] using noMember

/-! ## Clauses -/

/-- The values of a well-typed condition are compared as they stand. -/
theorem map_beside_values {catalog : Catalog} {c : BoundCondition} (hc : c.WellTyped catalog) :
    (c.operand.values.map fun w => (Cell.ofValue w).beside c.field.type) =
      c.operand.values.map .ofValue :=
  List.map_congr_left fun w hw => Cell.beside_ofValue (hc.types w hw)

/-- The clause of a condition is true of the cell of a value exactly if the operator accepts the
value. -/
theorem truth_ofCondition_iff {catalog : Catalog} {c : BoundCondition} (hc : c.WellTyped catalog)
    {b : Binding} {v : Value} (hv : v.HasType c.field.type)
    (cell : boundCell b ⟨c.field.kind, c.field.name⟩ = .ofValue v) :
    (Clause.ofCondition c).truth b = some true ↔ c.operator.Accepts v c.operand := by
  have values := map_beside_values hc
  obtain ⟨field, operator, operand⟩ := c
  simp only at hv cell values
  cases operator with
  | comparison comparison =>
    cases operand with
    | list ws => cases hc.shape
    | scalar w =>
      have hw : w ∈ (Operand.scalar w).values := List.mem_singleton_self w
      simp only [Clause.ofCondition, Clause.truth, cell, values]
      exact Cell.order?_ofValue hv (hc.types w hw) (hc.present w hw) comparison
  | membership negated =>
    cases operand with
    | scalar w => cases hc.shape
    | list ws =>
      cases ws with
      | nil =>
        have there := Cell.isNull_ofValue_iff v
        cases negated with
        | false => simp [Clause.ofCondition, Clause.truth, Operator.Accepts]
        | true => simp [Clause.ofCondition, Clause.truth, Operator.Accepts, cell, there]
      | cons w rest =>
        simp only [Clause.ofCondition, Clause.truth, cell, values]
        exact memberTruth_ofValue hv hc.types hc.present negated

/-- No clause of a condition is true where its kind is bound to no row. -/
theorem exists_boundRow_of_truth {catalog : Catalog} {c : BoundCondition}
    (hc : c.WellTyped catalog) {b : Binding} (h : (Clause.ofCondition c).truth b = some true) :
    ∃ row, boundRow b c.field.kind = some row := by
  cases bound : boundRow b c.field.kind with
  | some row => exact ⟨row, rfl⟩
  | none =>
    have cell : boundCell b ⟨c.field.kind, c.field.name⟩ = .ofValue .null := by
      simp only [boundCell, bound]
      rfl
    have accepts := (truth_ofCondition_iff hc (.inl rfl) cell).mp h
    exact accepts.isPresent.elim

end Statement

end SceneArchive
