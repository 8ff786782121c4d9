import SceneArchive.Proofs.Query.Scanning
import SceneArchive.Proofs.Results

/-!
# Written conditions

A condition written as field, operator and operand with one space between them is read as these
three, and a conjunction of conditions as the conditions in order.

* `operator_append`: an operator is read as far as it goes.
* `conditionParts_written`, `parseConditionChars_opening`: how one condition is read.
* `parse_join`: a query of conditions that close their quotes is read condition by condition.
-/

namespace SceneArchive

namespace Query

/-- Whether a text is an identifier of the query language. -/
def isIdentifier : List Char → Bool
  | [] => false
  | c :: rest => isIdentifierStart c && rest.all isIdentifierChar

end Query

/-- Whether a field can be written in a query. -/
def FieldPath.IsWritable (f : FieldPath) : Prop :=
  (∀ kind ∈ f.qualifier, Query.isIdentifier kind.toList = true) ∧
    Query.isIdentifier f.name.toList = true

namespace Query

variable {f : FieldPath} {rest : List Char}

/-! ## Fields -/

theorem isIdentifierChar_of_start {c : Char} (h : isIdentifierStart c = true) :
    isIdentifierChar c = true := by
  unfold isIdentifierStart at h
  simp [isIdentifierChar, Char.isAlphanum, h]

theorem isBlank_of_isIdentifierChar {c : Char} (h : isIdentifierChar c = true) :
    Text.isBlank c = false := by
  have bounds : 48 ≤ c.toNat ∧ c.toNat ≤ 122 := by
    change (decide (65 ≤ c.val ∧ c.val ≤ 90) || (97 ≤ c.val && c.val ≤ 122) ||
      (48 ≤ c.val && c.val ≤ 57) || c == '_') = true at h
    simp only [Bool.or_eq_true, Bool.and_eq_true, decide_eq_true_eq, beq_iff_eq,
      UInt32.le_iff_toNat_le] at h
    have : c.val.toNat = c.toNat := rfl
    rcases h with ((⟨lo, hi⟩ | ⟨lo, hi⟩) | ⟨lo, hi⟩) | rfl
    · exact ⟨Nat.le_trans (by decide) lo, Nat.le_trans hi (by decide)⟩
    · exact ⟨Nat.le_trans (by decide) lo, Nat.le_trans hi (by decide)⟩
    · exact ⟨Nat.le_trans (by decide) lo, Nat.le_trans hi (by decide)⟩
    · decide
  simp only [Text.isBlank, Bool.or_eq_false_iff, Bool.and_eq_false_iff, beq_eq_false_iff_ne,
    decide_eq_false_iff_not]
  omega

theorem isIdentifierChar_of_isBlank {c : Char} (h : Text.isBlank c = true) :
    isIdentifierChar c = false := by
  by_contra other
  have := isBlank_of_isIdentifierChar (by simpa using other)
  rw [h] at this
  cases this

theorem isIdentifierChar_of_mem {name : List Char} (h : isIdentifier name = true) {c : Char}
    (hc : c ∈ name) : isIdentifierChar c = true := by
  cases name with
  | nil => cases hc
  | cons first name =>
    simp only [isIdentifier, Bool.and_eq_true, List.all_eq_true] at h
    rcases List.mem_cons.mp hc with rfl | hc
    · exact isIdentifierChar_of_start h.1
    · exact h.2 c hc

theorem identifier?_append {name : List Char} (h : isIdentifier name = true)
    (stop : ∀ c ∈ rest.head?, isIdentifierChar c = false) :
    identifier? (name ++ rest) = some (String.ofList name, rest) := by
  cases name with
  | nil => cases h
  | cons c name =>
    simp only [isIdentifier, Bool.and_eq_true, List.all_eq_true] at h
    rw [List.cons_append, identifier?, if_pos h.1, Text.span_append h.2 stop]

theorem fieldPath?_append (h : f.IsWritable)
    (stop : ∀ c ∈ rest.head?, isIdentifierChar c = false) (noPoint : '.' ∉ rest.head?) :
    fieldPath? (f.text.toList ++ rest) = some (f, rest) := by
  obtain ⟨qualifier, name⟩ := f
  obtain ⟨hKind, hName⟩ := h
  have readName := identifier?_append hName stop
  cases qualifier with
  | none =>
    simp only [FieldPath.text, fieldPath?, readName]
    cases rest with
    | nil => simp
    | cons c rest =>
      have other : c ≠ '.' := fun same => noPoint (same ▸ rfl)
      simp [other]
  | some kind =>
    have point : ∀ c ∈ ('.' :: (name.toList ++ rest)).head?, isIdentifierChar c = false := by
      intro c hc
      cases hc
      decide
    have readKind := identifier?_append (hKind kind rfl) point
    have written : (kind ++ "." ++ name).toList ++ rest =
        kind.toList ++ '.' :: (name.toList ++ rest) := by
      simp
    simp only [FieldPath.text, written, fieldPath?, readKind]
    simp [readName]

/-- The characters of a field are neither blanks nor signs of the query language. -/
theorem isIdentifierChar_or_point_of_mem (h : f.IsWritable) {c : Char}
    (hc : c ∈ f.text.toList) : isIdentifierChar c = true ∨ c = '.' := by
  obtain ⟨qualifier, name⟩ := f
  obtain ⟨hKind, hName⟩ := h
  cases qualifier with
  | none => exact .inl (isIdentifierChar_of_mem hName hc)
  | some kind =>
    simp only [FieldPath.text, String.toList_append, List.mem_append] at hc
    rcases hc with (hc | hc) | hc
    · exact .inl (isIdentifierChar_of_mem (hKind kind rfl) hc)
    · exact .inr (List.mem_singleton.mp hc)
    · exact .inl (isIdentifierChar_of_mem hName hc)

theorem not_mem_text (h : f.IsWritable) {c : Char} (other : isIdentifierChar c = false)
    (point : c ≠ '.') : c ∉ f.text.toList := by
  intro hc
  rcases isIdentifierChar_or_point_of_mem h hc with same | same
  · rw [other] at same
    cases same
  · exact point same

theorem isQuote_of_mem_text (h : f.IsWritable) {c : Char} (hc : c ∈ f.text.toList) :
    Text.isQuote c = false := by
  by_contra isQuote
  rcases Text.isQuote_iff.mp (by simpa using isQuote) with rfl | rfl
  · exact not_mem_text h (by decide) (by decide) hc
  · exact not_mem_text h (by decide) (by decide) hc

theorem exists_head_text (h : f.IsWritable) :
    ∃ c rest, f.text.toList = c :: rest ∧ Text.isBlank c = false := by
  have nonempty : f.text.toList ≠ [] := by
    obtain ⟨qualifier, name⟩ := f
    obtain ⟨-, hName⟩ := h
    have : name.toList ≠ [] := by
      intro empty
      rw [empty] at hName
      cases hName
    cases qualifier <;> simp [FieldPath.text, this]
  obtain ⟨c, rest, written⟩ := List.exists_cons_of_ne_nil nonempty
  refine ⟨c, rest, written, ?_⟩
  have mem : c ∈ f.text.toList := by
    rw [written]
    exact List.mem_cons_self
  rcases isIdentifierChar_or_point_of_mem h mem with same | rfl
  · exact isBlank_of_isIdentifierChar same
  · decide

/-! ## Operators -/

theorem isOperatorChar_of_mem (c : Comparison) :
    ∀ d ∈ c.symbol.toList, isOperatorChar d = true := by
  apply List.all_eq_true.mp
  cases c <;> decide

/-- An operator as conditions write it. Between `not` and `in` there may be any blanks. -/
inductive OperatorText : Operator → List Char → Prop
  | comparison (c : Comparison) : OperatorText (.comparison c) c.symbol.toList
  | isIn : OperatorText (.membership false) ['i', 'n']
  | notIn {blanks : List Char} (nonempty : blanks ≠ [])
      (blank : ∀ c ∈ blanks, Text.isBlank c = true) :
      OperatorText (.membership true) (['n', 'o', 't'] ++ blanks ++ ['i', 'n'])

/-- Whether a text does not go on with what an operator before it is made of. -/
def EndsOperator (op : Operator) (rest : List Char) : Prop :=
  match op with
  | .comparison _ => ∀ c ∈ rest.head?, isOperatorChar c = false
  | .membership _ => ∀ c ∈ rest.head?, isIdentifierChar c = false

theorem operator_comparison (c : Comparison)
    (stop : ∀ d ∈ rest.head?, isOperatorChar d = false) :
    operator (c.symbol.toList ++ rest) = .ok (.comparison c, rest) := by
  have nonempty : c.symbol.toList.isEmpty = false := by
    cases c <;> decide
  have found : Comparison.all.find? (fun d => d.symbol == String.ofList c.symbol.toList) =
      some c := by
    rw [String.ofList_toList]
    cases c <;> decide
  simp only [operator, Text.span_append (isOperatorChar_of_mem c) stop, nonempty, found]
  rfl

theorem afterWord?_append (word : List Char)
    (stop : ∀ c ∈ rest.head?, isIdentifierChar c = false) :
    afterWord? word (word ++ rest) = some rest := by
  have behind : rest.head?.any isIdentifierChar = false := by
    cases rest with
    | nil => rfl
    | cons c rest => simp [stop c rfl]
  simp [afterWord?, behind]

theorem operator_word {c : Char} (sign : isOperatorChar c = false) :
    operator (c :: rest) = wordOperator (c :: rest) := by
  simp [operator, List.span, List.span.loop, sign]

theorem operator_isIn (stop : ∀ c ∈ rest.head?, isIdentifierChar c = false) :
    operator ('i' :: 'n' :: rest) = .ok (.membership false, rest) := by
  have noNot : afterWord? "not".toList ('i' :: 'n' :: rest) = none := rfl
  have readIn : afterWord? "in".toList ('i' :: 'n' :: rest) = some rest :=
    afterWord?_append ['i', 'n'] stop
  simp only [operator_word (by decide : isOperatorChar 'i' = false), wordOperator, noNot, readIn]

theorem operator_notIn {blanks : List Char} (nonempty : blanks ≠ [])
    (blank : ∀ c ∈ blanks, Text.isBlank c = true)
    (stop : ∀ c ∈ rest.head?, isIdentifierChar c = false) :
    operator ('n' :: 'o' :: 't' :: (blanks ++ 'i' :: 'n' :: rest)) =
      .ok (.membership true, rest) := by
  have behindNot : ∀ c ∈ (blanks ++ 'i' :: 'n' :: rest).head?, isIdentifierChar c = false := by
    intro c hc
    rw [List.head?_append_of_ne_nil _ nonempty] at hc
    exact isIdentifierChar_of_isBlank (blank c (List.mem_of_mem_head? hc))
  have readNot : afterWord? "not".toList ('n' :: 'o' :: 't' :: (blanks ++ 'i' :: 'n' :: rest)) =
      some (blanks ++ 'i' :: 'n' :: rest) :=
    afterWord?_append ['n', 'o', 't'] behindNot
  have trimmed : Text.trimStart (blanks ++ 'i' :: 'n' :: rest) = 'i' :: 'n' :: rest := by
    rw [Text.trimStart_append blank]
    exact Text.trimStart_of_visible fun c hc => by cases hc; decide
  have shorter : ('i' :: 'n' :: rest).length < (blanks ++ 'i' :: 'n' :: rest).length := by
    have := List.length_pos_of_ne_nil nonempty
    simp only [List.length_append]
    omega
  have readIn : afterWord? "in".toList ('i' :: 'n' :: rest) = some rest :=
    afterWord?_append ['i', 'n'] stop
  simp only [operator_word (by decide : isOperatorChar 'n' = false), wordOperator, readNot,
    trimmed]
  rw [if_pos shorter, readIn]

/-- An operator is read as it is written. -/
theorem operator_append {op : Operator} {sign : List Char} (h : OperatorText op sign)
    (ends : EndsOperator op rest) : operator (sign ++ rest) = .ok (op, rest) := by
  cases h with
  | comparison c => exact operator_comparison c ends
  | isIn => exact operator_isIn ends
  | notIn nonempty blank =>
    have := operator_notIn nonempty blank ends
    simpa using this

theorem operatorText_symbol (op : Operator) : OperatorText op op.symbol.toList := by
  cases op with
  | comparison c => exact .comparison c
  | membership negated =>
    cases negated with
    | false => exact .isIn
    | true =>
      have blank : ∀ c ∈ [' '], Text.isBlank c = true := by
        intro c hc
        rw [List.mem_singleton.mp hc]
        decide
      exact .notIn (List.cons_ne_nil _ _) blank

/-- Behind a space every operator is over. -/
theorem endsOperator_space (op : Operator) : EndsOperator op (' ' :: rest) := by
  cases op with
  | comparison c => exact fun d hd => by cases hd; decide
  | membership negated => exact fun d hd => by cases hd; decide

/-! ## Conditions -/

theorem operand_comparison_iff (c : Comparison) {s : List Char} {raw : RawOperand} :
    operand (.comparison c) s = .ok raw ↔ s ≠ [] ∧ raw = .scalar (String.ofList s) := by
  unfold operand
  cases s with
  | nil => simp
  | cons d s => simp [pure, Except.pure, eq_comm]

/-- A field and an operator as they are written before an operand. -/
def opening (f : FieldPath) (op : Operator) : List Char :=
  f.text.toList ++ ' ' :: op.symbol.toList ++ [' ']

variable {op : Operator} {text : List Char}

theorem trim_opening (h : f.IsWritable) (nonempty : text ≠ []) (trimmed : Text.trim text = text) :
    Text.trim (opening f op ++ text) = opening f op ++ text := by
  obtain ⟨c, rest, written, blank⟩ := exists_head_text h
  refine Text.trim_eq_self_iff.mpr ⟨?_, ?_⟩
  · intro d hd
    simp only [opening, written, List.cons_append, List.head?_cons, Option.mem_some_iff] at hd
    rwa [← hd]
  · rw [List.getLast?_append_of_ne_nil _ nonempty]
    exact (Text.trim_eq_self_iff.mp trimmed).2

/-- How the parts of a condition are read when the operator is over behind its sign. -/
theorem conditionParts_opening (h : f.IsWritable) (ends : EndsOperator op rest) :
    conditionParts (f.text.toList ++ ' ' :: (op.symbol.toList ++ rest)) =
      (operand op (Text.trim rest)).map fun raw => (f, op, raw) := by
  have symbolFirst : Text.trimStart (' ' :: (op.symbol.toList ++ rest)) =
      op.symbol.toList ++ rest := by
    cases op with
    | comparison c => cases c <;> rfl
    | membership negated => cases negated <;> rfl
  have nonempty : (f.text.toList ++ ' ' :: (op.symbol.toList ++ rest)).isEmpty = false := by simp
  rw [conditionParts, nonempty,
    fieldPath?_append h (fun c hc => by cases hc; decide) (by simp)]
  simp only [Bool.false_eq_true, if_false, symbolFirst,
    operator_append (operatorText_symbol op) ends]
  change (operand op (Text.trim rest) >>= fun raw => pure (f, op, raw)) = _
  cases operand op (Text.trim rest) <;> rfl

theorem conditionParts_written (h : f.IsWritable) (trimmed : Text.trim text = text) :
    conditionParts (opening f op ++ text) = (operand op text).map fun raw => (f, op, raw) := by
  have written : opening f op ++ text =
      f.text.toList ++ ' ' :: (op.symbol.toList ++ ' ' :: text) := by
    simp [opening]
  rw [written, conditionParts_opening h (endsOperator_space op), Text.trim_cons (by decide),
    trimmed]

/-- How a written condition is read: as its field, its operator and its operand. -/
theorem parseConditionChars_written (h : f.IsWritable) (nonempty : text ≠ [])
    (trimmed : Text.trim text = text) {raw : RawOperand} (hRaw : operand op text = .ok raw) :
    parseConditionChars (opening f op ++ text) =
      .ok ⟨String.ofList (opening f op ++ text), f, op, raw⟩ := by
  simp only [parseConditionChars, trim_opening h nonempty trimmed,
    conditionParts_written h trimmed, hRaw]
  rfl

theorem trim_opening_append (h : f.IsWritable) (text : List Char) :
    Text.trim (opening f op ++ text) =
      f.text.toList ++ ' ' :: (op.symbol.toList ++ Text.trimEnd (' ' :: text)) := by
  obtain ⟨c, others, written, visible⟩ := exists_head_text h
  have first : Text.trimStart (opening f op ++ text) = opening f op ++ text := by
    refine Text.trimStart_of_visible fun d hd => ?_
    simp only [opening, written, List.cons_append, List.head?_cons, Option.mem_some_iff] at hd
    rwa [← hd]
  have last : ∀ d ∈ (f.text.toList ++ ' ' :: op.symbol.toList).getLast?,
      Text.isBlank d = false := by
    intro d hd
    have nonempty : op.symbol.toList ≠ [] := by
      cases op with
      | comparison c => cases c <;> decide
      | membership negated => cases negated <;> decide
    rw [List.getLast?_append_cons, List.getLast?_cons_of_ne_nil nonempty] at hd
    cases op with
    | comparison c => cases c <;> (cases hd; decide)
    | membership negated => cases negated <;> (cases hd; decide)
  have whole : opening f op ++ text =
      (f.text.toList ++ ' ' :: op.symbol.toList) ++ ' ' :: text := by
    simp [opening]
  rw [Text.trim, first, whole, Text.trimEnd_append_of_visible last]
  simp

/-- How a condition is read whose operand has blanks around it or is missing. -/
theorem parseConditionChars_opening (h : f.IsWritable) (text : List Char) {c : Condition} :
    parseConditionChars (opening f op ++ text) = .ok c ↔
      ∃ raw, operand op (Text.trim text) = .ok raw ∧
        c = ⟨String.ofList (Text.trim (opening f op ++ text)), f, op, raw⟩ := by
  have ends : EndsOperator op (Text.trimEnd (' ' :: text)) := by
    have kept := Text.trimEnd_prefix (' ' :: text)
    rcases hRest : Text.trimEnd (' ' :: text) with - | ⟨d, rest⟩
    · cases op <;> exact fun d hd => by cases hd
    · rw [hRest] at kept
      obtain ⟨rfl, -⟩ := List.cons_prefix_cons.mp kept
      exact endsOperator_space op
  have parts := conditionParts_opening h ends
  rw [Text.trim_trimEnd, Text.trim_cons (by decide), ← trim_opening_append h text] at parts
  simp only [parseConditionChars, parts]
  cases operand op (Text.trim text) with
  | error fault => simp [Except.map]
  | ok raw => simp [Except.map, eq_comm]

theorem parseConditionChars_trim {s t : List Char} (same : Text.trim s = Text.trim t) :
    parseConditionChars s = parseConditionChars t := by
  simp only [parseConditionChars, same]

/-! ## The scan behind an operator -/

theorem not_mem_opening (h : f.IsWritable) : '&' ∉ opening f op := by
  have symbol : '&' ∉ op.symbol.toList := by
    cases op with
    | comparison c => cases c <;> decide
    | membership negated => cases negated <;> decide
  have name : '&' ∉ f.text.toList := not_mem_text h (by decide) (by decide)
  simp [opening, symbol, name]

theorem isQuote_of_mem_symbol (op : Operator) {c : Char} (hc : c ∈ op.symbol.toList) :
    Text.isQuote c = false := by
  have none : op.symbol.toList.all (!Text.isQuote ·) = true := by
    cases op with
    | comparison c => cases c <;> decide
    | membership negated => cases negated <;> decide
  simpa using List.all_eq_true.mp none c hc

theorem quote_run_opening (h : f.IsWritable) : (Scan.start.run (opening f op)).quote = none := by
  apply Scan.quote_run_of_no_quote rfl
  intro c hc
  simp only [opening, List.append_assoc, List.cons_append, List.mem_append, List.mem_cons,
    List.not_mem_nil, or_false] at hc
  rcases hc with hc | rfl | hc | rfl
  · exact isQuote_of_mem_text h hc
  · decide
  · exact isQuote_of_mem_symbol op hc
  · decide

/-- The scan behind a comparison: no quote and no bracket is open, and its sign is the last
character. -/
theorem exists_run_opening (h : f.IsWritable) (c : Comparison) :
    ∃ sign, (sign = '=' ∨ sign = '<' ∨ sign = '>') ∧
      Scan.start.run (opening f (.comparison c)) = ⟨none, 0, some sign⟩ := by
  obtain ⟨signs, sign, written, last⟩ : ∃ signs sign, c.symbol.toList = signs ++ [sign] ∧
      (sign = '=' ∨ sign = '<' ∨ sign = '>') := by
    cases c with
    | eq => exact ⟨[], '=', rfl, by decide⟩
    | ne => exact ⟨['!'], '=', rfl, by decide⟩
    | lt => exact ⟨[], '<', rfl, by decide⟩
    | le => exact ⟨['<'], '=', rfl, by decide⟩
    | gt => exact ⟨[], '>', rfl, by decide⟩
    | ge => exact ⟨['>'], '=', rfl, by decide⟩
  refine ⟨sign, last, ?_⟩
  let before := f.text.toList ++ ' ' :: signs
  have whole : opening f (.comparison c) = before ++ [sign] ++ [' '] := by
    change f.text.toList ++ ' ' :: c.symbol.toList ++ [' '] = _
    simp [written, before]
  have part : ∀ d ∈ before, d ∈ f.text.toList ∨ d = ' ' ∨ d ∈ c.symbol.toList := by
    intro d hd
    simp only [before, List.mem_append, List.mem_cons] at hd
    rw [written, List.mem_append]
    tauto
  have closed : (Scan.start.run before).quote = none := by
    apply Scan.quote_run_of_no_quote rfl
    intro d hd
    rcases part d hd with hd | rfl | hd
    · exact isQuote_of_mem_text h hd
    · decide
    · exact isQuote_of_mem_symbol (.comparison c) hd
  have depth : (Scan.start.run before).depth = 0 := by
    apply Scan.depth_run_of_no_bracket (s := .start)
    intro d hd bracket
    simp only [List.mem_cons, List.not_mem_nil, or_false] at bracket
    rcases part d hd with hd | rfl | hd
    · rcases bracket with rfl | rfl | rfl | rfl <;>
        exact not_mem_text h (by decide) (by decide) hd
    · revert bracket
      decide
    · have sign := isOperatorChar_of_mem c d hd
      rcases bracket with rfl | rfl | rfl | rfl <;> cases sign
  rw [whole, Scan.run_append, Scan.run_append]
  generalize Scan.start.run before = s at closed depth
  obtain ⟨quote, depth', last'⟩ := s
  obtain ⟨rfl, rfl⟩ : quote = none ∧ depth' = 0 := ⟨closed, depth⟩
  have behind : (Scan.mk none 0 last').step sign = ⟨none, 0, some sign⟩ := by
    rcases last with rfl | rfl | rfl <;>
      exact Scan.step_sign rfl (by decide) (by simp [Text.isQuote]) (by decide)
  change ((Scan.mk none 0 last').step sign).step ' ' = _
  rw [behind]
  exact Scan.step_space rfl

/-- Behind a comparison a quote opens quoted text. -/
theorem opensOperand_run_opening (h : f.IsWritable) (c : Comparison) :
    (Scan.start.run (opening f (.comparison c))).opensOperand = true := by
  obtain ⟨sign, rfl | rfl | rfl, behind⟩ := exists_run_opening h c <;>
    simp [behind, Scan.opensOperand]

/-! ## Conjunctions -/

theorem allBlank_eq_false_of_mem {query : String} {c : Char} (mem : c ∈ query.toList)
    (visible : Text.isBlank c = false) : Text.allBlank query = false := by
  rw [Text.allBlank, List.all_eq_false]
  exact ⟨c, mem, by simp [visible]⟩

theorem parse_of_not_blank {query : String} (visible : Text.allBlank query = false)
    {parts : List (List Char)} (cut : segments query.toList = .ok parts) :
    parse query = parts.mapM parseConditionChars := by
  simp [parse, visible, cut]

theorem parse_of_visible {query : String} {c : Char} (mem : c ∈ query.toList)
    (visible : Text.isBlank c = false) {parts : List (List Char)}
    (cut : segments query.toList = .ok parts) : parse query = parts.mapM parseConditionChars :=
  parse_of_not_blank (allBlank_eq_false_of_mem mem visible) cut

theorem exists_segments_of_parse {query : String} {conditions : List Condition}
    (h : parse query = .ok conditions) :
    ∃ parts, segments query.toList = .ok parts ∧
      List.Forall₂ (fun part condition => parseConditionChars part = .ok condition) parts
        conditions := by
  unfold parse at h
  split at h
  · cases h
  · split at h
    · cases h
    · next parts cut => exact ⟨parts, cut, Results.mapM_eq_ok_iff.mp h⟩

/-- A query of conditions that close their quotes is read condition by condition. -/
theorem parse_join {parts : List (List Char)} (nonempty : parts ≠ [])
    (closes : ∀ part ∈ parts, Scan.Closes part)
    (visible : ∀ part ∈ parts, ∃ c ∈ part, Text.isBlank c = false) {query : String}
    (written : query.toList = " & ".toList.intercalate parts) :
    parse query = parts.mapM parseConditionChars := by
  obtain ⟨cuts, cut, related⟩ := segments_join nonempty closes
  obtain ⟨c, mem, visible⟩ : ∃ c ∈ query.toList, Text.isBlank c = false := by
    obtain ⟨part, others, rfl⟩ := List.exists_cons_of_ne_nil nonempty
    obtain ⟨c, mem, visible⟩ := visible part List.mem_cons_self
    refine ⟨c, ?_, visible⟩
    rw [written]
    cases others <;> simp [mem]
  rw [← written] at cut
  rw [parse_of_visible mem visible cut]
  apply Results.mapM_congr
  exact related.imp fun _ _ same => parseConditionChars_trim same

end Query

end SceneArchive
