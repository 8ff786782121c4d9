import SceneArchive.Proofs.Query.Rejection
import SceneArchive.Proofs.Query.WellTyped

/-!
# What compiling a query gives

A query is read as a whole before its first condition is bound. So a condition that cannot be read
is reported even behind a field that does not exist; of the other faults the first one counts, and
within a list the first item that is no value of the field.

* `bind_eq_ok_iff`, `bind_eq_error_iff`: a condition binds with its values one by one, or it has
  one of three faults, none of which is a fault of syntax.
* `compile_eq_ok_iff`, `compile_eq_error_iff`: the same for queries.
* `compile_outcome`: both together, with what holds of every condition of the result.
-/

namespace SceneArchive

/-- The texts of an operand in order. -/
def RawOperand.texts : RawOperand → List String
  | scalar text => [text]
  | list items => items

/-- Whether a value is no number that is infinite or not a number. -/
def Value.IsFinite : Value → Prop
  | float x => Binary64.isFinite x = true
  | _ => True

theorem Value.isNull_eq_false_of_type {v : Value} {type : ValueType} (h : v.type? = some type) :
    v.isNull = false := by
  cases v with
  | null => cases h
  | _ => rfl

theorem Coercion.ofText_finite {field : String} {type : ValueType} {raw : String} {v : Value}
    (h : ofText field type raw = .ok v) : v.IsFinite := by
  cases type with
  | text =>
    cases h
    trivial
  | integer =>
    rw [ofText, Results.map_eq_ok_iff] at h
    obtain ⟨n, -, rfl⟩ := h
    trivial
  | float =>
    rw [ofText, Results.map_eq_ok_iff] at h
    obtain ⟨x, read, rfl⟩ := h
    exact isFinite_of_readFloat? (orRefuse_eq_ok_iff.mp read)
  | date =>
    rw [ofText, Results.map_eq_ok_iff] at h
    obtain ⟨d, -, rfl⟩ := h
    trivial

theorem Coercion.orRefuse_eq_error {α : Type} {field raw : String} {fault : String → ValueFault}
    {read : Option α} {e : IndexError} (h : orRefuse field fault raw read = .error e) :
    ∃ fault, e = .value field fault := by
  cases read with
  | none =>
    cases h
    exact ⟨_, rfl⟩
  | some a => cases h

/-- A text that is refused names the field whose value it should be. -/
theorem Coercion.ofText_eq_error {field : String} {type : ValueType} {raw : String}
    {e : IndexError} (h : ofText field type raw = .error e) : ∃ fault, e = .value field fault := by
  cases type with
  | text => cases h
  | integer =>
    rw [ofText, Results.map_eq_error_iff] at h
    exact orRefuse_eq_error h
  | float =>
    rw [ofText, Results.map_eq_error_iff] at h
    exact orRefuse_eq_error h
  | date =>
    rw [ofText, Results.map_eq_error_iff] at h
    exact orRefuse_eq_error h

theorem Catalog.resolve_eq_error {catalog : Catalog} {name : String} {e : IndexError}
    (h : catalog.resolve name = .error e) :
    e = .unknownField name ∨ ∃ candidates, e = .ambiguousField name candidates := by
  unfold resolve at h
  split at h
  · split at h
    · cases h
    · cases h
      exact .inl rfl
  · rw [resolveBare_eq] at h
    split at h
    · cases h
      exact .inl rfl
    · cases h
    · cases h
      exact .inr ⟨_, rfl⟩

namespace Predicate

variable {catalog : Catalog} {raw : Condition} {query : String} {e : IndexError}

/-! ## Binding a condition -/

/-- A condition and what it is bound to: the field of its name, the same operator, and one value for
each text of its operand. -/
structure Binds (catalog : Catalog) (raw : Condition) (c : BoundCondition) : Prop where
  field : catalog.resolve raw.field.text = .ok c.field
  operator : c.operator = raw.operator
  shape : c.operand.isList = raw.operand.isList
  values : List.Forall₂ (fun text v => Coercion.ofText c.field.name c.field.type text = .ok v)
    raw.operand.texts c.operand.values

/-- Why a condition does not bind. -/
inductive Unbound (catalog : Catalog) (raw : Condition) : IndexError → Prop
  | unknown (h : catalog.resolve raw.field.text = .error (.unknownField raw.field.text)) :
      Unbound catalog raw (.unknownField raw.field.text)
  | ambiguous {candidates : List String}
      (h : catalog.resolve raw.field.text =
        .error (.ambiguousField raw.field.text candidates)) :
      Unbound catalog raw (.ambiguousField raw.field.text candidates)
  /-- The first text of the operand that is no value of the field. -/
  | refused {field : FieldSpec} {before behind : List String} {text : String} {fault : ValueFault}
      (resolved : catalog.resolve raw.field.text = .ok field)
      (written : raw.operand.texts = before ++ text :: behind)
      (earlier : ∀ other ∈ before, ∃ v, Coercion.ofText field.name field.type other = .ok v)
      (first : Coercion.ofText field.name field.type text = .error (.value field.name fault)) :
      Unbound catalog raw (.value field.name fault)

theorem bindOperand_eq_ok_iff {field : FieldSpec} {raw : RawOperand} {operand : Operand} :
    bindOperand field raw = .ok operand ↔ operand.isList = raw.isList ∧
      raw.texts.mapM (Coercion.ofText field.name field.type) = .ok operand.values := by
  cases raw with
  | scalar text =>
    rw [bindOperand, Results.bind_eq_ok_iff, RawOperand.texts, Results.mapM_cons_eq_ok_iff]
    constructor
    · rintro ⟨v, read, given⟩
      cases given
      exact ⟨rfl, v, [], read, rfl, rfl⟩
    · rintro ⟨shape, v, rest, read, nothing, values⟩
      cases nothing
      cases operand with
      | scalar w =>
        cases values
        exact ⟨v, read, rfl⟩
      | list ws => cases shape
  | list items =>
    rw [bindOperand, Results.bind_eq_ok_iff, RawOperand.texts]
    constructor
    · rintro ⟨vs, read, given⟩
      cases given
      exact ⟨rfl, read⟩
    · rintro ⟨shape, values⟩
      cases operand with
      | scalar w => cases shape
      | list ws => exact ⟨ws, values, rfl⟩

theorem bindOperand_eq_error_iff {field : FieldSpec} {raw : RawOperand} :
    bindOperand field raw = .error e ↔
      raw.texts.mapM (Coercion.ofText field.name field.type) = .error e := by
  cases raw with
  | scalar text =>
    rw [bindOperand, Results.bind_eq_error_iff, RawOperand.texts, Results.mapM_cons_eq_error_iff]
    simp [pure, Except.pure]
  | list items =>
    rw [bindOperand, Results.bind_eq_error_iff, RawOperand.texts]
    simp [pure, Except.pure]

theorem bind_eq_ok_iff {c : BoundCondition} : bind catalog raw = .ok c ↔ Binds catalog raw c := by
  rw [bind, Results.bind_eq_ok_iff]
  constructor
  · rintro ⟨field, resolved, h⟩
    obtain ⟨operand, bound, given⟩ := Results.bind_eq_ok_iff.mp h
    cases given
    obtain ⟨shape, values⟩ := bindOperand_eq_ok_iff.mp bound
    exact ⟨resolved, rfl, shape, Results.mapM_eq_ok_iff.mp values⟩
  · rintro ⟨resolved, operator, shape, values⟩
    have bound : bindOperand c.field raw.operand = .ok c.operand :=
      bindOperand_eq_ok_iff.mpr ⟨shape, Results.mapM_eq_ok_iff.mpr values⟩
    refine ⟨c.field, resolved, Results.bind_eq_ok_iff.mpr ⟨c.operand, bound, ?_⟩⟩
    rw [← operator]
    rfl

theorem bind_eq_error_iff : bind catalog raw = .error e ↔ Unbound catalog raw e := by
  rw [bind, Results.bind_eq_error_iff]
  constructor
  · rintro (unresolved | ⟨field, resolved, h⟩)
    · rcases Catalog.resolve_eq_error unresolved with rfl | ⟨candidates, rfl⟩
      · exact .unknown unresolved
      · exact .ambiguous unresolved
    · rcases Results.bind_eq_error_iff.mp h with refused | ⟨operand, -, given⟩
      · obtain ⟨before, text, behind, written, earlier, first⟩ :=
          Results.mapM_eq_error_iff.mp (bindOperand_eq_error_iff.mp refused)
        obtain ⟨fault, rfl⟩ := Coercion.ofText_eq_error first
        exact .refused resolved written earlier first
      · cases given
  · intro h
    cases h with
    | unknown h => exact .inl h
    | ambiguous h => exact .inl h
    | @refused field before behind text fault resolved written earlier first =>
      refine .inr ⟨field, resolved, Results.bind_eq_error_iff.mpr (.inl ?_)⟩
      exact bindOperand_eq_error_iff.mpr
        (Results.mapM_eq_error_iff.mpr ⟨before, text, behind, written, earlier, first⟩)

theorem Unbound.ne_query (h : Unbound catalog raw e) (segment : String) (fault : QueryFault) :
    e ≠ .query segment fault := by
  cases h <;> simp

/-! ## Compiling a query -/

theorem compile_eq_ok_iff {p : Predicate} :
    compile catalog query = .ok p ↔ ∃ conditions, Query.parse query = .ok conditions ∧
      List.Forall₂ (Binds catalog) conditions p.conditions := by
  have bound {conditions : List Condition} {bound : List BoundCondition} :
      conditions.mapM (bind catalog) = .ok bound ↔
        List.Forall₂ (Binds catalog) conditions bound := by
    rw [Results.mapM_eq_ok_iff]
    simp only [bind_eq_ok_iff]
  rw [compile, Results.bind_eq_ok_iff]
  refine exists_congr fun conditions => and_congr_right fun _ => ?_
  rw [Results.bind_eq_ok_iff]
  constructor
  · rintro ⟨cs, h, given⟩
    cases given
    exact bound.mp h
  · intro h
    exact ⟨p.conditions, bound.mpr h, rfl⟩

theorem compile_eq_error_iff :
    compile catalog query = .error e ↔ Query.Rejected query e ∨
      ∃ before raw behind, Query.parse query = .ok (before ++ raw :: behind) ∧
        (∀ other ∈ before, ∃ c, Binds catalog other c) ∧ Unbound catalog raw e := by
  rw [compile, Results.bind_eq_error_iff, Query.parse_eq_error_iff]
  refine or_congr_right ?_
  constructor
  · rintro ⟨conditions, read, h⟩
    rcases Results.bind_eq_error_iff.mp h with failed | ⟨bound, -, given⟩
    · obtain ⟨before, raw, behind, rfl, earlier, first⟩ := Results.mapM_eq_error_iff.mp failed
      simp only [bind_eq_ok_iff] at earlier
      exact ⟨before, raw, behind, read, earlier, bind_eq_error_iff.mp first⟩
    · cases given
  · rintro ⟨before, raw, behind, read, earlier, first⟩
    simp only [← bind_eq_ok_iff] at earlier
    refine ⟨_, read, Results.bind_eq_error_iff.mpr (.inl ?_)⟩
    exact Results.mapM_eq_error_iff.mpr
      ⟨before, raw, behind, rfl, earlier, bind_eq_error_iff.mpr first⟩

end Predicate

/-- Whether a query has a fault of syntax: there is nothing in it, a quote is never closed, or one
of its conditions, wherever it stands, cannot be read. -/
inductive Query.IsFaulty (query : String) : Prop
  | blank (h : Text.allBlank query = true)
  | unclosed {parts : List (List Char)} {last : List Char}
      (closes : ∀ part ∈ parts, Scan.Closes part) (opened : Scan.IsUnclosed last)
      (written : query.toList = parts.flatMap (· ++ ['&']) ++ last)
  | condition {parts : List (List Char)} {part : List Char}
      (closes : ∀ other ∈ parts, Scan.Closes other)
      (written : query.toList = ['&'].intercalate parts) (mem : part ∈ parts)
      (unread : ∀ c, parseCondition (String.ofList part) ≠ .ok c)

theorem Query.isFaulty_iff {query : String} : IsFaulty query ↔ ∃ e, parse query = .error e := by
  constructor
  · intro h
    cases h with
    | blank h => exact ⟨_, parse_of_blank h⟩
    | unclosed closes opened written =>
      exact ⟨_, parse_eq_error_iff.mpr (.unclosed closes opened written)⟩
    | condition closes written mem unread =>
      cases read : parse query with
      | error e => exact ⟨e, rfl⟩
      | ok conditions =>
        obtain ⟨cuts, cut, related⟩ := exists_segments_of_parse read
        have same := segments_eq_ok_iff.mpr ⟨List.ne_nil_of_mem mem, closes, written⟩
        rw [same] at cut
        cases cut
        obtain ⟨c, -, hc⟩ := Results.exists_of_forall₂ related.flip mem
        exact absurd (by rwa [parseCondition_ofList]) (unread c)
  · rintro ⟨e, h⟩
    cases parse_eq_error_iff.mp h with
    | blank nothing => exact .blank nothing
    | unclosed closes opened written => exact .unclosed closes opened written
    | condition _ closes written _ first =>
      refine .condition closes written (List.mem_append_right _ List.mem_cons_self) fun c hc => ?_
      rw [first] at hc
      cases hc

/-- A query compiles exactly if it is read and all of its conditions bind, one by one and in order;
every condition of the result is well typed. It fails with a fault of syntax exactly if it has one,
and else with the fault of the first condition that does not bind. -/
theorem Predicate.compile_outcome (catalog : Catalog) (query : String) :
    (∀ p, compile catalog query = .ok p ↔ ∃ conditions, Query.parse query = .ok conditions ∧
      List.Forall₂ (Binds catalog) conditions p.conditions) ∧
    (∀ p, compile catalog query = .ok p → ∀ c ∈ p.conditions,
      c.field ∈ catalog.fields ∧ c.operand.isList = c.operator.isMembership ∧
        ∀ v ∈ c.operand.values,
          v.isNull = false ∧ v.type? = some c.field.type ∧ v.IsFinite) ∧
    (∀ e, compile catalog query = .error e ↔ Query.Rejected query e ∨
      ∃ before raw behind, Query.parse query = .ok (before ++ raw :: behind) ∧
        (∀ other ∈ before, ∃ c, Binds catalog other c) ∧ Unbound catalog raw e) ∧
    ((∃ segment fault, compile catalog query = .error (.query segment fault)) ↔
      Query.IsFaulty query) := by
  refine ⟨fun p => compile_eq_ok_iff, fun p h c hc => ?_, fun e => compile_eq_error_iff, ?_, ?_⟩
  · have wellTyped := compile_wellTyped h c hc
    refine ⟨wellTyped.declared, wellTyped.shape, fun v hv => ?_⟩
    have type := wellTyped.types v hv
    obtain ⟨conditions, -, related⟩ := compile_eq_ok_iff.mp h
    obtain ⟨raw, -, binds⟩ := Results.exists_of_forall₂ related hc
    obtain ⟨text, -, read⟩ := Results.exists_of_forall₂ binds.values hv
    exact ⟨Value.isNull_eq_false_of_type type, type, Coercion.ofText_finite read⟩
  · rintro ⟨segment, fault, h⟩
    rcases compile_eq_error_iff.mp h with rejected | ⟨_, raw, _, -, -, unbound⟩
    · exact Query.isFaulty_iff.mpr ⟨_, Query.parse_eq_error_iff.mpr rejected⟩
    · exact absurd rfl (unbound.ne_query segment fault)
  · intro faulty
    obtain ⟨e, h⟩ := Query.isFaulty_iff.mp faulty
    have rejected := Query.parse_eq_error_iff.mp h
    obtain ⟨segment, fault, rfl⟩ := rejected.exists_fault
    exact ⟨segment, fault, compile_eq_error_iff.mpr (.inl rejected)⟩

theorem Predicate.compile_outcome_listOfIntegers :
    compile .standard "scenepath in [215, '216'] & satellite = x" =
        .ok ⟨[⟨⟨.observationRecord, "scenepath", .integer⟩, .membership false,
            .list [.integer 215, .integer 216]⟩,
          ⟨⟨.observationRecord, "satellite", .text⟩, .comparison .eq, .scalar (.text "x")⟩]⟩ ∧
      ∀ v ∈ [Value.integer 215, .integer 216],
        v.isNull = false ∧ v.type? = some .integer ∧ v.IsFinite := by
  have compiled : compile .standard "scenepath in [215, '216'] & satellite = x" =
      .ok ⟨[⟨⟨.observationRecord, "scenepath", .integer⟩, .membership false,
          .list [.integer 215, .integer 216]⟩,
        ⟨⟨.observationRecord, "satellite", .text⟩, .comparison .eq, .scalar (.text "x")⟩]⟩ := by
    rfl
  refine ⟨compiled, ?_⟩
  exact ((compile_outcome .standard _).2.1 _ compiled _ List.mem_cons_self).2.2

end SceneArchive
