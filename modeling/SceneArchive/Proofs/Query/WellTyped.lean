import SceneArchive.Proofs.Coercion
import SceneArchive.Proofs.Query.Meaning
import SceneArchive.Proofs.Schema.Names

/-!
# Compiled predicates are well typed

What can be relied on once a query is compiled: every field is one of the catalog, a test of
membership has a list and a comparison a single value, and every value is one of the type of the
field.

* `parse_isList`: the operand that is read is the one that its operator takes.
* `ofText_type`: coercion gives values of the type that is asked for.
* `compile_wellTyped`: both together, for whole queries.
-/

namespace SceneArchive

/-- Whether an operand as it is written is a list. -/
def RawOperand.isList : RawOperand → Bool
  | scalar _ => false
  | list _ => true

/-- Whether an operand is a list. -/
def Operand.isList : Operand → Bool
  | scalar _ => false
  | list _ => true

/-- A condition on a field of a catalog whose operand is one for the operator and the field. -/
structure BoundCondition.WellTyped (catalog : Catalog) (c : BoundCondition) : Prop where
  declared : c.field ∈ catalog.fields
  shape : c.operand.isList = c.operator.isMembership
  types : ∀ v ∈ c.operand.values, v.type? = some c.field.type
  present : ∀ v ∈ c.operand.values, v.IsPresent

/-- A conjunction of well-typed conditions. -/
def Predicate.WellTyped (catalog : Catalog) (p : Predicate) : Prop :=
  ∀ c ∈ p.conditions, c.WellTyped catalog

/-! ## Reading -/

namespace Query

theorem operand_isList {op : Operator} {s : List Char} {raw : RawOperand}
    (h : operand op s = .ok raw) : raw.isList = op.isMembership := by
  unfold operand at h
  split at h
  · cases h
  · cases op with
    | membership negated =>
      obtain ⟨items, -, given⟩ := Results.bind_eq_ok_iff.mp h
      cases given
      rfl
    | comparison c =>
      cases h
      rfl

theorem conditionParts_isList {s : List Char} {field : FieldPath} {op : Operator}
    {raw : RawOperand} (h : conditionParts s = .ok (field, op, raw)) :
    raw.isList = op.isMembership := by
  unfold conditionParts at h
  split at h
  · cases h
  · split at h
    · cases h
    · obtain ⟨⟨op', rest⟩, -, h⟩ := Results.bind_eq_ok_iff.mp h
      obtain ⟨raw', hRaw, given⟩ := Results.bind_eq_ok_iff.mp h
      cases given
      exact operand_isList hRaw

theorem parseConditionChars_isList {s : List Char} {c : Condition}
    (h : parseConditionChars s = .ok c) : c.operand.isList = c.operator.isMembership := by
  simp only [parseConditionChars] at h
  split at h
  · next parts =>
    cases h
    exact conditionParts_isList parts
  · cases h

theorem parse_isList {query : String} {conditions : List Condition}
    (h : parse query = .ok conditions) {c : Condition} (hc : c ∈ conditions) :
    c.operand.isList = c.operator.isMembership := by
  unfold parse at h
  split at h
  · cases h
  · split at h
    · cases h
    · obtain ⟨s, -, hs⟩ := Results.exists_of_mapM_eq_ok h hc
      exact parseConditionChars_isList hs

end Query

/-! ## Coercion -/

namespace Coercion

theorem isFinite_of_readFloat? {s : List Char} {x : Float} (h : readFloat? s = some x) :
    Binary64.isFinite x = true := by
  unfold readFloat? at h
  exact (Option.filter_eq_some_iff.mp h).2

theorem ofText_type {field : String} {type : ValueType} {raw : String} {v : Value}
    (h : ofText field type raw = .ok v) : v.type? = some type := by
  cases type with
  | text =>
    cases h
    rfl
  | integer =>
    simp only [ofText] at h
    obtain ⟨n, -, rfl⟩ := Results.map_eq_ok_iff.mp h
    rfl
  | float =>
    simp only [ofText] at h
    obtain ⟨x, -, rfl⟩ := Results.map_eq_ok_iff.mp h
    rfl
  | date =>
    simp only [ofText] at h
    obtain ⟨d, -, rfl⟩ := Results.map_eq_ok_iff.mp h
    rfl

/-- A number that is read from text is finite, and therefore a number. -/
theorem ofText_present {field : String} {type : ValueType} {raw : String} {v : Value}
    (h : ofText field type raw = .ok v) : v.IsPresent := by
  cases type with
  | text =>
    cases h
    trivial
  | integer =>
    simp only [ofText] at h
    obtain ⟨n, -, rfl⟩ := Results.map_eq_ok_iff.mp h
    trivial
  | float =>
    simp only [ofText] at h
    obtain ⟨x, hx, rfl⟩ := Results.map_eq_ok_iff.mp h
    have finite := isFinite_of_readFloat? (orRefuse_eq_ok_iff.mp hx)
    simp only [Binary64.isFinite, Bool.not_eq_true'] at finite
    simp [Value.IsPresent, Binary64.isNaN, finite]
  | date =>
    simp only [ofText] at h
    obtain ⟨d, -, rfl⟩ := Results.map_eq_ok_iff.mp h
    trivial

end Coercion

/-! ## Binding -/

theorem Catalog.mem_of_resolve {catalog : Catalog} {name : String} {field : FieldSpec}
    (h : catalog.resolve name = .ok field) : field ∈ catalog.fields := by
  unfold resolve at h
  split at h
  · split at h
    · next found =>
      cases h
      exact List.mem_of_find?_eq_some found
    · cases h
  · rw [resolveBare_eq] at h
    split at h
    · cases h
    · next only =>
      cases h
      have mem : field ∈ catalog.named name := by simp [only]
      exact (List.mem_filter.mp mem).1
    · cases h

namespace Predicate

theorem bindOperand_isList {field : FieldSpec} {raw : RawOperand} {operand : Operand}
    (h : bindOperand field raw = .ok operand) : operand.isList = raw.isList := by
  cases raw with
  | scalar text =>
    obtain ⟨v, -, given⟩ := Results.bind_eq_ok_iff.mp h
    cases given
    rfl
  | list items =>
    obtain ⟨vs, -, given⟩ := Results.bind_eq_ok_iff.mp h
    cases given
    rfl

theorem exists_ofText_of_bindOperand {field : FieldSpec} {raw : RawOperand} {operand : Operand}
    (h : bindOperand field raw = .ok operand) {v : Value} (hv : v ∈ operand.values) :
    ∃ text, Coercion.ofText field.name field.type text = .ok v := by
  cases raw with
  | scalar text =>
    obtain ⟨w, hw, given⟩ := Results.bind_eq_ok_iff.mp h
    cases given
    rw [List.mem_singleton.mp hv]
    exact ⟨text, hw⟩
  | list items =>
    obtain ⟨vs, hvs, given⟩ := Results.bind_eq_ok_iff.mp h
    cases given
    obtain ⟨text, -, hText⟩ := Results.exists_of_mapM_eq_ok hvs hv
    exact ⟨text, hText⟩

theorem bind_wellTyped {catalog : Catalog} {raw : Condition} {c : BoundCondition}
    (shape : raw.operand.isList = raw.operator.isMembership) (h : bind catalog raw = .ok c) :
    c.WellTyped catalog := by
  obtain ⟨field, hField, h⟩ := Results.bind_eq_ok_iff.mp h
  obtain ⟨operand, hOperand, given⟩ := Results.bind_eq_ok_iff.mp h
  cases given
  refine ⟨Catalog.mem_of_resolve hField, ?_, ?_, ?_⟩
  · rw [← shape]
    exact bindOperand_isList hOperand
  · intro v hv
    obtain ⟨text, hText⟩ := exists_ofText_of_bindOperand hOperand hv
    exact Coercion.ofText_type hText
  · intro v hv
    obtain ⟨text, hText⟩ := exists_ofText_of_bindOperand hOperand hv
    exact Coercion.ofText_present hText

theorem compile_wellTyped {catalog : Catalog} {query : String} {p : Predicate}
    (h : compile catalog query = .ok p) : p.WellTyped catalog := by
  obtain ⟨conditions, hParse, h⟩ := Results.bind_eq_ok_iff.mp h
  obtain ⟨bound, hBind, given⟩ := Results.bind_eq_ok_iff.mp h
  cases given
  intro c hc
  obtain ⟨raw, hRaw, hBound⟩ := Results.exists_of_mapM_eq_ok hBind hc
  exact bind_wellTyped (Query.parse_isList hParse hRaw) hBound

end Predicate

end SceneArchive
