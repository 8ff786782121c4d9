import SceneArchive.Proofs.Query.Lists
import SceneArchive.Proofs.Query.Written

/-!
# The grammar of conditions

A condition is a field, an operator and a value, with blanks allowed around the operator. The reader
takes characters one class after the other and never goes back; this module says as a grammar what
texts it accepts, and that no text can be cut into the parts of a condition in two ways.

* `fieldPath?_eq_some`, `operator_eq_ok`: what was read is written at the start of the text, and
  could not have been read longer.
* `conditionParts_chars`: every text of the grammar is read as its parts.
* `exists_conditionText`: every text that is read is one of the grammar.
* `parseCondition_grammar`: both together, and that the parts are unique.
-/

namespace SceneArchive.Query

variable {f : FieldPath} {op : Operator} {s rest : List Char} {raw : RawOperand}

/-! ## Fields -/

theorem identifier?_eq_some {name : String} (h : identifier? s = some (name, rest)) :
    s = name.toList ++ rest ∧ isIdentifier name.toList = true ∧
      ∀ c ∈ rest.head?, isIdentifierChar c = false := by
  unfold identifier? at h
  split at h
  · cases h
  · next c others =>
    split at h
    · next starts =>
      rcases run : others.span isIdentifierChar with ⟨chars, after⟩
      obtain ⟨rfl, all, stop⟩ := Text.span_eq_iff.mp run
      rw [run] at h
      cases h
      rw [String.toList_ofList]
      refine ⟨rfl, ?_, stop⟩
      simpa [isIdentifier, starts] using all
    · cases h

theorem fieldPath?_eq_some (h : fieldPath? s = some (f, rest)) :
    s = f.text.toList ++ rest ∧ f.IsWritable ∧ ∀ c ∈ rest.head?, isIdentifierChar c = false := by
  unfold fieldPath? at h
  obtain ⟨⟨first, behind⟩, hFirst, hRest⟩ := Option.bind_eq_some_iff.mp h
  obtain ⟨rfl, isFirst, stop⟩ := identifier?_eq_some hFirst
  simp only at hRest
  split at hRest
  · obtain ⟨⟨name, after⟩, hName, given⟩ := Option.bind_eq_some_iff.mp hRest
    obtain ⟨rfl, isName, stop⟩ := identifier?_eq_some hName
    cases given
    refine ⟨by simp [FieldPath.text], ⟨?_, isName⟩, stop⟩
    intro kind hKind
    cases hKind
    exact isFirst
  · cases hRest
    refine ⟨rfl, ⟨?_, isFirst⟩, stop⟩
    intro kind hKind
    cases hKind

/-! ## Operators -/

theorem afterWord?_eq_some {word : List Char} (h : afterWord? word s = some rest) :
    s = word ++ rest ∧ ∀ c ∈ rest.head?, isIdentifierChar c = false := by
  unfold afterWord? at h
  split at h
  · next begins =>
    obtain ⟨others, rfl⟩ := List.isPrefixOf_iff_prefix.mp begins
    rw [List.drop_left] at h
    simp only at h
    split at h
    · cases h
    · next stop =>
      cases h
      refine ⟨rfl, fun c hc => ?_⟩
      rw [hc] at stop
      simpa using stop
  · cases h

theorem wordOperator_eq_ok (h : wordOperator s = .ok (op, rest)) :
    ∃ sign, s = sign ++ rest ∧ OperatorText op sign ∧ EndsOperator op rest := by
  unfold wordOperator at h
  split at h
  · next afterNot hNot =>
    obtain ⟨rfl, -⟩ := afterWord?_eq_some hNot
    obtain ⟨blanks, whole, blank⟩ := Text.exists_blanks_trimStart afterNot
    simp only at h
    split at h
    · next afterIn hIn =>
      cases h
      split at hIn
      · next shorter =>
        obtain ⟨isIn, stop⟩ := afterWord?_eq_some hIn
        have nonempty : blanks ≠ [] := by
          rintro rfl
          rw [List.nil_append] at whole
          rw [← whole] at shorter
          exact Nat.lt_irrefl _ shorter
        refine ⟨_, ?_, .notIn nonempty blank, stop⟩
        rw [whole, isIn]
        simp
      · cases hIn
    · cases h
  · split at h
    · next afterIn hIn =>
      cases h
      obtain ⟨rfl, stop⟩ := afterWord?_eq_some hIn
      exact ⟨_, rfl, .isIn, stop⟩
    · cases h

theorem operator_eq_ok (h : operator s = .ok (op, rest)) :
    ∃ sign, s = sign ++ rest ∧ OperatorText op sign ∧ EndsOperator op rest := by
  unfold operator at h
  rcases run : s.span isOperatorChar with ⟨sign, behind⟩
  obtain ⟨whole, -, stop⟩ := Text.span_eq_iff.mp run
  rw [run] at h
  simp only at h
  split at h
  · exact wordOperator_eq_ok h
  · split at h
    · next c found =>
      cases h
      have same : c.symbol = String.ofList sign := by
        simpa using List.find?_some found
      refine ⟨sign, whole, ?_, stop⟩
      have written := OperatorText.comparison c
      rwa [same, String.toList_ofList] at written
    · cases h

theorem OperatorText.exists_head {sign : List Char} (h : OperatorText op sign) :
    ∃ c others, sign = c :: others ∧ Text.isBlank c = false ∧ c ≠ '.' := by
  cases h with
  | comparison c => cases c <;> exact ⟨_, _, rfl, by decide⟩
  | isIn => exact ⟨_, _, rfl, by decide⟩
  | notIn _ _ => exact ⟨_, _, rfl, by decide⟩

/-! ## Operands -/

/-- What the value of a condition says as the operand of an operator: a comparison takes the text as
it stands, a membership test takes the items of a list. -/
inductive OperandText : Operator → List Char → RawOperand → Prop
  | scalar (c : Comparison) (value : List Char) :
      OperandText (.comparison c) value (.scalar (String.ofList value))
  | list (negated : Bool) {value : List Char} {items : List String} (h : ListText value items) :
      OperandText (.membership negated) value (.list items)

theorem operand_eq_ok_iff (trimmed : Text.trim s = s) :
    operand op s = .ok raw ↔ s ≠ [] ∧ OperandText op s raw := by
  cases op with
  | comparison c =>
    rw [operand_comparison_iff]
    refine and_congr_right fun _ => ⟨?_, ?_⟩
    · rintro rfl
      exact .scalar c s
    · intro h
      cases h
      rfl
  | membership negated =>
    unfold operand
    cases s with
    | nil => simp
    | cons d s =>
      simp only [List.isEmpty_cons, Bool.false_eq_true, if_false, Results.bind_eq_ok_iff,
        literalItems_eq_ok_iff, trimmed]
      constructor
      · rintro ⟨items, h, given⟩
        cases given
        exact ⟨by simp, .list negated h⟩
      · rintro ⟨-, h⟩
        cases h with
        | list _ h => exact ⟨_, h, rfl⟩

/-! ## The grammar -/

/-- The parts of the text of a condition, in the order in which they stand. -/
structure ConditionText where
  field : FieldPath
  /-- What stands between the field and the sign of the operator. -/
  gap : List Char
  operator : Operator
  /-- The operator as it is written. -/
  sign : List Char
  /-- What stands between the sign and the value. -/
  behind : List Char
  value : List Char

namespace ConditionText

/-- The text that has the parts. -/
def chars (t : ConditionText) : List Char :=
  t.field.text.toList ++ (t.gap ++ (t.sign ++ (t.behind ++ t.value)))

/-- The grammar of conditions. Identifiers and signs go as far as they can, words are whole
words, and a membership test has a list. -/
structure IsWellFormed (t : ConditionText) : Prop where
  field : t.field.IsWritable
  fieldEnds : ∀ c ∈ (t.gap ++ t.sign).head?, isIdentifierChar c = false
  gap : ∀ c ∈ t.gap, Text.isBlank c = true
  sign : OperatorText t.operator t.sign
  signEnds : EndsOperator t.operator (t.behind ++ t.value)
  behind : ∀ c ∈ t.behind, Text.isBlank c = true
  value : t.value ≠ []
  operand : ∃ raw, OperandText t.operator (Text.trim t.value) raw

/-- The condition has the parts of the text. -/
structure Writes (t : ConditionText) (c : Condition) : Prop where
  segment : c.segment = String.ofList t.chars
  field : c.field = t.field
  operator : c.operator = t.operator
  operand : OperandText t.operator (Text.trim t.value) c.operand

end ConditionText

variable {t u : ConditionText} {c : Condition}

namespace ConditionText.IsWellFormed

/-! ## Every text of the grammar is read -/

theorem fieldPath?_chars (h : t.IsWellFormed) :
    fieldPath? t.chars = some (t.field, t.gap ++ (t.sign ++ (t.behind ++ t.value))) := by
  obtain ⟨d, others, hSign, -, noPoint⟩ := h.sign.exists_head
  have head : (t.gap ++ (t.sign ++ (t.behind ++ t.value))).head? = (t.gap ++ t.sign).head? := by
    rw [← List.append_assoc, List.head?_append_of_ne_nil]
    simp [hSign]
  refine fieldPath?_append h.field (head ▸ h.fieldEnds) fun point => ?_
  rw [head] at point
  rcases hGap : t.gap with - | ⟨b, blanks⟩
  · rw [hGap, hSign] at point
    cases point
    exact noPoint rfl
  · rw [hGap] at point
    cases point
    cases h.gap '.' (by simp [hGap])

theorem trimStart_behindField (h : t.IsWellFormed) :
    Text.trimStart (t.gap ++ (t.sign ++ (t.behind ++ t.value))) =
      t.sign ++ (t.behind ++ t.value) := by
  obtain ⟨d, others, hSign, visible, -⟩ := h.sign.exists_head
  rw [Text.trimStart_append h.gap]
  refine Text.trimStart_of_visible fun c hc => ?_
  rw [hSign] at hc
  cases hc
  exact visible

theorem operator_behindGap (h : t.IsWellFormed) :
    Query.operator (t.sign ++ (t.behind ++ t.value)) = .ok (t.operator, t.behind ++ t.value) :=
  operator_append h.sign h.signEnds

theorem conditionParts_chars (h : t.IsWellFormed) :
    conditionParts t.chars =
      (Query.operand t.operator (Text.trim t.value)).map fun raw => (t.field, t.operator, raw) := by
  have nonempty : t.chars.isEmpty = false := by
    simp [chars, h.value]
  rw [conditionParts, nonempty, h.fieldPath?_chars]
  simp only [Bool.false_eq_true, if_false, h.trimStart_behindField, h.operator_behindGap]
  change (Query.operand t.operator (Text.trim (t.behind ++ t.value)) >>=
    fun raw => pure (t.field, t.operator, raw)) = _
  rw [Text.trim_append h.behind]
  cases Query.operand t.operator (Text.trim t.value) <;> rfl

end ConditionText.IsWellFormed

/-- The parts of a text are those that the reader takes, so there is one way to cut it. -/
theorem ConditionText.IsWellFormed.unique (ht : t.IsWellFormed) (hu : u.IsWellFormed)
    (same : t.chars = u.chars) (tightT : Text.trim t.value = t.value)
    (tightU : Text.trim u.value = u.value) : t = u := by
  -- The reader is asked about the same text twice, and each answer gives one part more.
  have fields := ht.fieldPath?_chars
  rw [same, hu.fieldPath?_chars] at fields
  obtain ⟨field, behindField⟩ := Prod.mk.inj (Option.some.inj fields)
  have behindGap : u.sign ++ (u.behind ++ u.value) = t.sign ++ (t.behind ++ t.value) := by
    rw [← hu.trimStart_behindField, behindField, ht.trimStart_behindField]
  have gap : u.gap = t.gap := by
    rw [behindGap] at behindField
    exact List.append_cancel_right behindField
  have operators := ht.operator_behindGap
  rw [← behindGap, hu.operator_behindGap] at operators
  obtain ⟨operator, behindSign⟩ := Prod.mk.inj (Except.ok.inj operators)
  have sign : u.sign = t.sign := by
    rw [behindSign] at behindGap
    exact List.append_cancel_right behindGap
  have value : u.value = t.value := by
    have trimmed := congrArg Text.trimStart behindSign
    rwa [Text.trimStart_append hu.behind, Text.trimStart_append ht.behind,
      Text.trimStart_of_visible (Text.trim_eq_self_iff.mp tightU).1,
      Text.trimStart_of_visible (Text.trim_eq_self_iff.mp tightT).1] at trimmed
  have behind : u.behind = t.behind := by
    rw [value] at behindSign
    exact List.append_cancel_right behindSign
  cases t
  cases u
  simp_all

/-! ## Every text that is read is one of the grammar -/

theorem exists_conditionText (trimmed : Text.trim s = s)
    (h : conditionParts s = .ok (f, op, raw)) :
    ∃ t : ConditionText, t.IsWellFormed ∧ t.chars = s ∧ Text.trim t.value = t.value ∧
      t.field = f ∧ t.operator = op ∧ OperandText op (Text.trim t.value) raw := by
  unfold conditionParts at h
  split at h
  · cases h
  split at h
  · cases h
  next field behindField hField =>
  obtain ⟨⟨op', behindSign⟩, hOperator, hOperand⟩ := Results.bind_eq_ok_iff.mp h
  obtain ⟨raw', hRaw, given⟩ := Results.bind_eq_ok_iff.mp hOperand
  cases given
  obtain ⟨rfl, isField, fieldEnds⟩ := fieldPath?_eq_some hField
  obtain ⟨gap, hGap, blankGap⟩ := Text.exists_blanks_trimStart behindField
  obtain ⟨sign, hSign, isSign, signEnds⟩ := operator_eq_ok hOperator
  obtain ⟨behind, hBehind, blankBehind⟩ := Text.exists_blanks_trimStart behindSign
  obtain ⟨seen, isOperand⟩ := (operand_eq_ok_iff (Text.trim_trim _)).mp hRaw
  rw [hSign] at hGap
  rw [← Text.trim_trimStart] at seen isOperand
  generalize hValue : Text.trimStart behindSign = value at *
  have nonempty : value ≠ [] := by
    rintro rfl
    exact seen rfl
  subst hBehind
  subst hGap
  -- The value ends where the text does, which was trimmed.
  have tight : Text.trim value = value := by
    refine Text.trim_eq_self_iff.mpr ⟨hValue ▸ Text.isBlank_head_trimStart _, fun c hc => ?_⟩
    refine (Text.trim_eq_self_iff.mp trimmed).2 c ?_
    simpa [List.getLast?_append, nonempty] using hc
  refine ⟨⟨f, gap, op, sign, behind, value⟩, ?_, rfl, tight, rfl, rfl, isOperand⟩
  refine ⟨isField, fun c hc => fieldEnds c ?_, blankGap, isSign, signEnds, blankBehind, nonempty,
    raw, isOperand⟩
  obtain ⟨d, others, rfl, -⟩ := isSign.exists_head
  rwa [← List.append_assoc, List.head?_append_of_ne_nil _ (by simp)]

/-! ## Conditions -/

theorem parseCondition_eq_ok_iff {s : String} :
    parseCondition s = .ok c ↔
      c.segment = String.ofList (Text.trim s.toList) ∧
        conditionParts (Text.trim s.toList) = .ok (c.field, c.operator, c.operand) := by
  obtain ⟨segment, field, operator, operand⟩ := c
  simp only [parseCondition, parseConditionChars]
  split
  · next field' operator' operand' read => simp [read, eq_comm]
  · next fault read => simp [read]

theorem ConditionText.IsWellFormed.trim_value_ne_nil (h : t.IsWellFormed)
    (trimmed : Text.trim t.chars = t.chars) : Text.trim t.value ≠ [] := by
  intro nothing
  obtain ⟨front, last, hLast⟩ := (List.eq_nil_or_concat t.value).resolve_left h.value
  have visible : Text.isBlank last = false :=
    (Text.trim_eq_self_iff.mp trimmed).2 last (by simp [chars, hLast])
  rw [Text.trim_eq_nil_iff.mp nothing last (by simp [hLast])] at visible
  cases visible

theorem ConditionText.IsWellFormed.parseCondition_eq_ok {s : String} (h : t.IsWellFormed)
    (whole : t.chars = Text.trim s.toList) (writes : t.Writes c) : parseCondition s = .ok c := by
  have trimmed : Text.trim t.chars = t.chars := by rw [whole, Text.trim_trim]
  have read : Query.operand t.operator (Text.trim t.value) = .ok c.operand :=
    (operand_eq_ok_iff (Text.trim_trim _)).mpr ⟨h.trim_value_ne_nil trimmed, writes.operand⟩
  refine parseCondition_eq_ok_iff.mpr ⟨whole ▸ writes.segment, ?_⟩
  rw [← whole, h.conditionParts_chars, read, writes.field, writes.operator]
  rfl

theorem exists_of_parseCondition {s : String} (h : parseCondition s = .ok c) :
    ∃ t : ConditionText, t.IsWellFormed ∧ t.chars = Text.trim s.toList ∧
      Text.trim t.value = t.value ∧ t.Writes c := by
  obtain ⟨segment, parts⟩ := parseCondition_eq_ok_iff.mp h
  obtain ⟨t, wellFormed, whole, tight, field, operator, operand⟩ :=
    exists_conditionText (Text.trim_trim _) parts
  exact ⟨t, wellFormed, whole, tight, whole ▸ segment, field.symm, operator.symm,
    operator ▸ operand⟩

/-- The reader accepts just the texts of the grammar and gives just the parts, and no text has
parts in two ways. Blanks before the value may be counted to the value, which is taken without
them; the one way to cut a text is the one that does not. -/
theorem parseCondition_grammar (s : String) :
    (∀ c, parseCondition s = .ok c ↔
      ∃ t : ConditionText, t.IsWellFormed ∧ t.chars = Text.trim s.toList ∧ t.Writes c) ∧
    ((∃ c, parseCondition s = .ok c) ↔
      ∃! t : ConditionText, t.IsWellFormed ∧ t.chars = Text.trim s.toList ∧
        Text.trim t.value = t.value) := by
  refine ⟨fun c => ⟨fun h => ?_, ?_⟩, ?_, ?_⟩
  · obtain ⟨t, wellFormed, whole, -, writes⟩ := exists_of_parseCondition h
    exact ⟨t, wellFormed, whole, writes⟩
  · rintro ⟨t, wellFormed, whole, writes⟩
    exact wellFormed.parseCondition_eq_ok whole writes
  · rintro ⟨c, h⟩
    obtain ⟨t, wellFormed, whole, tight, -⟩ := exists_of_parseCondition h
    refine ⟨t, ⟨wellFormed, whole, tight⟩, ?_⟩
    rintro u ⟨wellFormed', whole', tight'⟩
    exact wellFormed'.unique wellFormed (whole'.trans whole.symm) tight' tight
  · rintro ⟨t, ⟨wellFormed, whole, -⟩, -⟩
    obtain ⟨raw, operand⟩ := wellFormed.operand
    exact ⟨⟨String.ofList t.chars, t.field, t.operator, raw⟩,
      wellFormed.parseCondition_eq_ok whole ⟨rfl, rfl, rfl, operand⟩⟩

end SceneArchive.Query
