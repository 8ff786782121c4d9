import Mathlib.Data.List.Count
import SceneArchive.Proofs.Statement.Aliases
import SceneArchive.Proofs.Statement.Limits

/-!
# The form of statements

What the text of the statement of a predicate looks like to a reader that knows its tokens alone.
Short names are introduced before they are used. Behind `WHERE` the tokens fall into one clause
for each condition, and the marks of a clause stand for the values of its condition. The values
leave no trace in the text.

* `ofPredicate_wellFormed`: every predicate has a statement, and it is well formed.
-/

namespace SceneArchive

/-- The values of a predicate in order, each with the place of its condition. -/
def Predicate.sources (p : Predicate) : List (Value × Nat) :=
  p.conditions.zipIdx.flatMap fun (c, i) => c.operand.values.map fun v => (v, i)

/-- What is left of an operand without its values: the length of a list. -/
def Operand.listLength? : Operand → Option Nat
  | scalar _ => none
  | list values => some values.length

/-- What is left of a condition without the values of its operand. -/
def BoundCondition.shape (c : BoundCondition) : FieldSpec × Operator × Option Nat :=
  (c.field, c.operator, c.operand.listLength?)

/-- What is left of a predicate without the values of its operands. -/
def Predicate.shape (p : Predicate) : List (FieldSpec × Operator × Option Nat) :=
  p.conditions.map (·.shape)

namespace Statement

/-! ## Clauses and marks -/

/-- The clauses of a filter: what stands behind `WHERE` and before `ORDER`, cut at every `AND`. -/
def filterClauses (tokens : List Token) : List (List Token) :=
  match tokens.dropWhile (· ≠ .word "WHERE") with
  | [] => []
  | _ :: rest => (rest.takeWhile (· ≠ .word "ORDER")).splitOn (.word "AND")

/-- For every mark in a filter the place of its clause among the clauses. -/
def markedClauses (tokens : List Token) : List Nat :=
  (filterClauses tokens).zipIdx.flatMap fun (clause, i) =>
    List.replicate (clause.count (.sign '?')) i

theorem where_not_mem_headTokens (s : Select) : .word "WHERE" ∉ s.headTokens := by
  intro h
  rcases List.mem_append.mp h with h | h
  · exact absurd h (by decide)
  · obtain ⟨j, -, hj⟩ := List.mem_flatMap.mp h
    cases j with
    | parent kind column => cases kind <;> simp [Join.tokens, tableAlias, resultKind] at hj
    | children kind column owner =>
      cases kind <;> cases owner <;> simp [Join.tokens, tableAlias] at hj

/-- What is read of the clauses behind `WHERE`. -/
theorem splitOn_clauses {clauses : List Clause} (nonempty : clauses ≠ []) :
    (([.word "AND"].intercalate (clauses.map (·.tokens)) ++ orderTokens).takeWhile
      (· ≠ .word "ORDER")).splitOn (.word "AND") = clauses.map (·.tokens) := by
  have inFilter : ∀ t ∈ [Token.word "AND"].intercalate (clauses.map (·.tokens)),
      (decide (t ≠ .word "ORDER")) = true := by
    intro t ht
    rw [decide_eq_true_iff]
    rintro rfl
    rcases word_mem_clauses ht with same | mem
    · exact absurd same (by decide)
    · exact absurd mem (by decide)
  have apart : ∀ part ∈ clauses.map (·.tokens), Token.word "AND" ∉ part := by
    intro part hPart mem
    obtain ⟨c, -, rfl⟩ := List.mem_map.mp hPart
    exact absurd (word_mem_clause mem) (by decide)
  rw [List.takeWhile_append_of_pos inFilter, orderTokens, List.takeWhile_cons_of_neg (by simp),
    List.append_nil]
  exact List.splitOn_intercalate _ apart (by simpa using nonempty)

theorem filterClauses_select (s : Select) : filterClauses s.tokens = s.clauses.map (·.tokens) := by
  have before : ∀ t ∈ s.headTokens, (decide (t ≠ .word "WHERE")) = true := by
    intro t ht
    rw [decide_eq_true_iff]
    rintro rfl
    exact where_not_mem_headTokens s ht
  rw [filterClauses, Select.tokens, List.append_assoc, List.dropWhile_append_of_pos before]
  cases s.clauses with
  | nil => rfl
  | cons c clauses =>
    have behind : (filterTokens (c :: clauses) ++ orderTokens).dropWhile (· ≠ .word "WHERE") =
        .word "WHERE" ::
          ([.word "AND"].intercalate ((c :: clauses).map (·.tokens)) ++ orderTokens) :=
      List.dropWhile_cons_of_neg (by simp)
    rw [behind]
    exact splitOn_clauses (by simp)

theorem count_column (column : Column) : column.tokens.count (.sign '?') = 0 := by
  simp [Column.tokens]

theorem count_clause (c : Clause) : c.tokens.count (.sign '?') = c.parameters.length := by
  cases c with
  | never => rfl
  | isNotNull column =>
    rw [Clause.tokens, List.count_append, count_column]
    rfl
  | tests column type operator operand =>
    obtain ⟨signs, written, -, count⟩ := markTokens_eq operand
    have injective : Function.Injective Token.sign := fun _ _ => Token.sign.inj
    have plain : (operatorTokens operator).count (.sign '?') = 0 := by
      cases operator with
      | comparison c => cases c <;> decide +kernel
      | membership negated => cases negated <;> decide +kernel
    rw [Clause.tokens, List.count_append, List.count_append, count_column, plain, written,
      List.count_map_of_injective _ _ injective, count]
    simp [Clause.parameters]

theorem count_filter (clauses : List Clause) :
    (filterTokens clauses).count (.sign '?') = (clauses.flatMap (·.parameters)).length := by
  have conjunction : ([.word "AND"].intercalate (clauses.map (·.tokens))).count (.sign '?') =
      (clauses.flatMap (·.parameters)).length := by
    induction clauses with
    | nil => rfl
    | cons c clauses ih =>
      rw [List.flatMap_cons, List.length_append, ← ih, ← count_clause]
      cases clauses with
      | nil => simp
      | cons d clauses =>
        rw [List.map_cons, List.map_cons, List.intercalate_cons_cons, List.count_append,
          List.count_append]
        rfl
  cases clauses with
  | nil => rfl
  | cons c clauses => rw [← conjunction]; exact List.count_cons_of_ne (by simp)

theorem count_select (s : Select) : s.tokens.count (.sign '?') = s.parameters.length := by
  have joins : (s.joins.flatMap (·.tokens)).count (.sign '?') = 0 := by
    rw [List.count_eq_zero]
    intro mem
    obtain ⟨j, -, hj⟩ := List.mem_flatMap.mp mem
    cases j <;> simp [Join.tokens] at hj
  rw [Select.tokens, Select.headTokens, List.count_append, List.count_append, List.count_append,
    joins, count_filter]
  simp [Select.parameters, orderTokens]

theorem markedClauses_select (s : Select) : markedClauses s.tokens =
    s.clauses.zipIdx.flatMap fun (clause, i) => List.replicate clause.parameters.length i := by
  rw [markedClauses, filterClauses_select, List.zipIdx_map, List.flatMap_map]
  congr
  funext ⟨c, i⟩
  change List.replicate (c.tokens.count (.sign '?')) i = List.replicate c.parameters.length i
  rw [count_clause]

/-! ## The statement of a predicate -/

/-- What the text of the statement of a predicate is like. -/
structure WellFormed (s : Select) (p : Predicate) : Prop where
  /-- Every short name that is used has been introduced before, and is introduced once. -/
  names : ∀ before name after,
    aliasEvents (fromTokens (tokens s.text)) = before ++ .used name :: after →
      .introduced name ∈ before ∧
        (aliasEvents (fromTokens (tokens s.text))).count (.introduced name) = 1
  /-- The clauses of the filter are those of the conditions, in order. -/
  clauses : filterClauses (tokens s.text) =
    p.conditions.map fun c => tokens (Clause.ofCondition c).text
  /-- All marks are for values. -/
  marks : (tokens s.text).count (.sign '?') = s.parameters.length
  /-- The values are those of the conditions, in order. -/
  parameters : s.parameters = p.sources.map (·.1)
  /-- Each mark stands in the clause of the condition that its value is from. -/
  markedClauses : markedClauses (tokens s.text) = p.sources.map (·.2)

theorem tokens_clause (c : Clause) : tokens c.text = c.tokens := by
  have apart : Apart [] := nofun
  have := Lexing.rest_clause apart c
  rw [List.append_nil] at this
  rw [tokens, this]
  exact List.append_nil _

theorem parameters_standardSelect (p : Predicate) :
    (standardSelect p).parameters = p.sources.map (·.1) := by
  have sources : p.sources.map (·.1) =
      (p.conditions.zipIdx.map (·.1)).flatMap (·.operand.values) := by
    rw [List.flatMap_map, Predicate.sources, List.map_flatMap]
    simp only [List.map_map, Function.comp_def, List.map_id']
  rw [List.zipIdx_map_fst] at sources
  rw [sources, Select.parameters, standardSelect, List.flatMap_map]
  simp only [parameters_ofCondition]

theorem markedClauses_standardSelect (p : Predicate) :
    markedClauses (standardSelect p).tokens = p.sources.map (·.2) := by
  have sources : p.sources.map (·.2) =
      p.conditions.zipIdx.flatMap fun (c, i) => List.replicate c.operand.values.length i := by
    simp [Predicate.sources, List.map_flatMap, Function.comp_def]
  rw [sources, markedClauses_select, standardSelect, List.zipIdx_map, List.flatMap_map]
  congr
  funext ⟨c, i⟩
  change List.replicate (Clause.ofCondition c).parameters.length i = _
  rw [parameters_ofCondition]

theorem wellFormed_standardSelect (p : Predicate) : WellFormed (standardSelect p) p := by
  have inOrder := scoped_standard p
  constructor
  · intro before name after split
    rw [tokens_text] at split ⊢
    rw [split] at inOrder
    have once := inOrder.count_le_one (s := name)
    have introduced := inOrder.introduced_of_used.resolve_left List.not_mem_nil
    refine ⟨introduced, ?_⟩
    have := List.count_pos_iff.mpr (List.mem_append_left (.used name :: after) introduced)
    rw [split]
    omega
  · simp only [tokens_text, filterClauses_select, tokens_clause, standardSelect, List.map_map]
    rfl
  · rw [tokens_text, count_select]
  · exact parameters_standardSelect p
  · rw [tokens_text, markedClauses_standardSelect]

theorem marks_eq {a b : Operand} (same : a.listLength? = b.listLength?) : marks a = marks b := by
  cases a with
  | scalar v =>
    cases b with
    | scalar w => rfl
    | list ws => cases same
  | list vs =>
    cases b with
    | scalar w => cases same
    | list ws =>
      have length : vs.length = ws.length := Option.some.inj same
      rw [marks, marks, List.map_const', List.map_const', length]

/-- The clause of a condition is written without the values of its operand. -/
theorem text_ofCondition {c d : BoundCondition} (field : c.field = d.field)
    (operator : c.operator = d.operator)
    (operand : c.operand.listLength? = d.operand.listLength?) :
    (Clause.ofCondition c).text = (Clause.ofCondition d).text := by
  obtain ⟨f, o, a⟩ := c
  obtain ⟨f', o', b⟩ := d
  cases field
  cases operator
  have tests (o : Operator) : (Clause.tests ⟨f.kind, f.name⟩ f.type o a).text =
      (Clause.tests ⟨f.kind, f.name⟩ f.type o b).text := by
    rw [Clause.text, Clause.text, marks_eq operand]
  cases o with
  | comparison comparison => exact tests _
  | membership negated =>
    cases a with
    | scalar v =>
      cases b with
      | scalar w => exact tests _
      | list ws => cases operand
    | list vs =>
      cases b with
      | scalar w => cases operand
      | list ws =>
        have length : vs.length = ws.length := Option.some.inj operand
        cases vs with
        | nil => rw [List.length_eq_zero_iff.mp length.symm]
        | cons v vs =>
          cases ws with
          | nil => cases length
          | cons w ws => exact tests _

theorem texts_ofCondition {cs ds : List BoundCondition}
    (same : cs.map (·.shape) = ds.map (·.shape)) :
    (cs.map Clause.ofCondition).map (·.text) = (ds.map Clause.ofCondition).map (·.text) := by
  induction cs generalizing ds with
  | nil =>
    rw [List.map_eq_nil_iff.mp same.symm]
  | cons c cs ih =>
    cases ds with
    | nil => cases same
    | cons d ds =>
      obtain ⟨first, others⟩ := List.cons.inj same
      have field : c.field = d.field := congrArg (·.1) first
      have operator : c.operator = d.operator := congrArg (·.2.1) first
      have operand : c.operand.listLength? = d.operand.listLength? := congrArg (·.2.2) first
      rw [List.map_cons, List.map_cons, List.map_cons, List.map_cons, ih others,
        text_ofCondition field operator operand]

theorem filterText_eq {cs ds : List Clause} (same : cs.map (·.text) = ds.map (·.text)) :
    filterText cs = filterText ds := by
  have empty : cs.isEmpty = ds.isEmpty := by
    rw [← List.isEmpty_map, same, List.isEmpty_map]
  rw [filterText, filterText, empty, same]

theorem text_eq {s t : Select} (joins : s.joins = t.joins)
    (filters : filterText s.clauses = filterText t.clauses) : s.text = t.text := by
  obtain ⟨js, cs⟩ := s
  obtain ⟨ks, ds⟩ := t
  cases joins
  have head : Select.head ⟨js, cs⟩ = Select.head ⟨js, ds⟩ := rfl
  have written (s : Select) :
      s.text = s.head ++ filterText s.clauses ++ s!" ORDER BY {tableAlias resultKind}.id" := rfl
  rw [written, written, head, filters]

theorem text_standardSelect {p q : Predicate} (same : q.shape = p.shape) :
    (standardSelect q).text = (standardSelect p).text := by
  have kinds : q.kinds = p.kinds := by
    have ofShape (p : Predicate) (kind : Kind) : p.conditions.any (·.field.kind == kind) =
        p.shape.any (·.1.kind == kind) := by
      rw [Predicate.shape, List.any_map]
      rfl
    simp only [Predicate.kinds, ofShape, same]
  have joins : standardJoins q = standardJoins p := by
    simp only [standardJoins, neededKinds, kinds]
  have filters : filterText (standardSelect q).clauses = filterText (standardSelect p).clauses :=
    filterText_eq (texts_ofCondition same)
  exact text_eq joins filters

/-- Every predicate has a statement, it is well formed, and its text does not depend on the values
of the predicate. -/
theorem ofPredicate_wellFormed (p : Predicate) :
    ∃ s, Select.ofPredicate .standard p = .ok s ∧ WellFormed s p ∧
      ∀ q : Predicate, q.shape = p.shape →
        ∃ t, Select.ofPredicate .standard q = .ok t ∧ t.text = s.text :=
  ⟨standardSelect p, ofPredicate_standard p, wellFormed_standardSelect p, fun q same =>
    ⟨standardSelect q, ofPredicate_standard q, text_standardSelect same⟩⟩

end Statement

end SceneArchive
