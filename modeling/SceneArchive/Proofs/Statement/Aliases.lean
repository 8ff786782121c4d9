import SceneArchive.Proofs.Statement.Standard
import SceneArchive.Proofs.Statement.Tokens

/-!
# Short names in statements

Behind `FROM` the tokens of a statement tell which short names are introduced and which are used.
A chain of joins that is ready, each join starting from a kind that is bound, introduces every
name before it is used and none twice; conditions use the names of joined kinds alone.

* `Scoped.introduced_of_used`, `Scoped.count_le_one`: what it means that events are in order.
* `scoped_standard`: the events of the statement of a predicate are in order.
-/

namespace SceneArchive.Statement

/-- What happens to a short name. -/
inductive AliasEvent where
  | introduced (s : String)
  | used (s : String)
  deriving DecidableEq, Repr

/-- A word behind `AS` is introduced, a word before a point is used. -/
def aliasEvent? : Token → Token → Option AliasEvent
  | .word before, .word s => if before = "AS" then some (.introduced s) else none
  | .word s, .sign c => if c = '.' then some (.used s) else none
  | _, _ => none

def aliasEvents : List Token → List AliasEvent
  | first :: second :: rest =>
    (aliasEvent? first second).toList ++ aliasEvents (second :: rest)
  | _ => []

/-- Whether events introduce no name a second time and use none that is not introduced before. -/
def Scoped : List String → List AliasEvent → Prop
  | _, [] => True
  | seen, .introduced s :: rest => s ∉ seen ∧ Scoped (s :: seen) rest
  | seen, .used s :: rest => s ∈ seen ∧ Scoped seen rest

variable {seen : List String} {events before after : List AliasEvent} {s : String}

theorem Scoped.not_introduced (h : Scoped seen events) (mem : s ∈ seen) :
    .introduced s ∉ events := by
  induction events generalizing seen with
  | nil => exact List.not_mem_nil
  | cons e rest ih =>
    cases e with
    | introduced t =>
      obtain ⟨fresh, hRest⟩ := h
      intro hMem
      rcases List.mem_cons.mp hMem with same | hMem
      · cases same
        exact fresh mem
      · exact ih hRest (List.mem_cons_of_mem _ mem) hMem
    | used t =>
      obtain ⟨-, hRest⟩ := h
      intro hMem
      rcases List.mem_cons.mp hMem with same | hMem
      · cases same
      · exact ih hRest mem hMem

theorem Scoped.count_le_one (h : Scoped seen events) :
    events.count (.introduced s) ≤ 1 := by
  induction events generalizing seen with
  | nil => exact Nat.zero_le 1
  | cons e rest ih =>
    cases e with
    | introduced t =>
      obtain ⟨-, hRest⟩ := h
      by_cases same : t = s
      · subst same
        have none : rest.count (.introduced t) = 0 :=
          List.count_eq_zero.mpr (hRest.not_introduced List.mem_cons_self)
        rw [List.count_cons_self, none]
      · have other : AliasEvent.introduced t ≠ .introduced s := by
          intro h
          cases h
          exact same rfl
        rw [List.count_cons_of_ne other]
        exact ih hRest
    | used t =>
      rw [List.count_cons_of_ne (by nofun)]
      exact ih h.2

theorem Scoped.introduced_of_used (h : Scoped seen (before ++ .used s :: after)) :
    s ∈ seen ∨ .introduced s ∈ before := by
  induction before generalizing seen with
  | nil => exact .inl h.1
  | cons e rest ih =>
    cases e with
    | introduced t =>
      rcases ih h.2 with mem | mem
      · rcases List.mem_cons.mp mem with rfl | mem
        · exact .inr List.mem_cons_self
        · exact .inl mem
      · exact .inr (List.mem_cons_of_mem _ mem)
    | used t => exact (ih h.2).imp_right (List.mem_cons_of_mem _)

theorem scoped_used (h : ∀ e ∈ events, ∃ s ∈ seen, e = .used s) : Scoped seen events := by
  induction events with
  | nil => trivial
  | cons e rest ih =>
    obtain ⟨⟨s, mem, rfl⟩, others⟩ := List.forall_mem_cons.mp h
    exact ⟨mem, ih others⟩

/-! ### The short names of joins and clauses -/

/-- Whether the first of some tokens is a word. -/
def WordFirst (tokens : List Token) : Prop := ∃ s, tokens.head? = some (.word s)

theorem WordFirst.append {a : List Token} (h : WordFirst a) (b : List Token) :
    WordFirst (a ++ b) := by
  obtain ⟨s, hs⟩ := h
  obtain ⟨rest, rfl⟩ := List.head?_eq_some_iff.mp hs
  exact ⟨s, rfl⟩

theorem aliasEvents_append {a b : List Token} (ends : a.getLast? ≠ some (.word "AS"))
    (starts : WordFirst b) :
    aliasEvents (a ++ b) = aliasEvents a ++ aliasEvents b := by
  induction a with
  | nil => rfl
  | cons first rest ih =>
    cases rest with
    | nil =>
      obtain ⟨s, hs⟩ := starts
      obtain ⟨b, rfl⟩ := List.head?_eq_some_iff.mp hs
      have none : aliasEvent? first (.word s) = none := by
        cases first with
        | word t =>
          have other : t ≠ "AS" := by
            rintro rfl
            exact ends rfl
          exact if_neg other
        | name t => rfl
        | sign c => rfl
      simp [aliasEvents, none]
    | cons second rest =>
      have ends' : (second :: rest).getLast? ≠ some (.word "AS") := by
        rwa [List.getLast?_cons_cons] at ends
      have := ih ends'
      simp only [List.cons_append, aliasEvents, List.append_assoc] at this ⊢
      rw [this]

theorem tableAlias_injective : Function.Injective tableAlias := by
  intro a b h
  cases a <;> cases b <;> first | rfl | (exact absurd h (by decide))

/-- The events of a join. -/
def Join.aliasEvents (j : Join) : List AliasEvent :=
  [.introduced (tableAlias j.kind), .used (tableAlias j.kind), .used (tableAlias j.source)]

theorem aliasEvents_join (j : Join) : aliasEvents j.tokens = j.aliasEvents := by
  cases j with
  | parent kind column =>
    cases kind <;> simp [aliasEvents, aliasEvent?, Join.tokens, Join.aliasEvents, Join.kind,
      Join.source, tableAlias]
  | children kind column owner =>
    cases kind <;> cases owner <;> simp [aliasEvents, aliasEvent?, Join.tokens, Join.aliasEvents,
      Join.kind, Join.source, tableAlias]

/-- The column that a clause is about. -/
def Clause.column? : Clause → Option Column
  | never => none
  | isNotNull column => some column
  | tests column _ _ _ => some column

theorem operatorTokens_comparison (c : Comparison) :
    operatorTokens (.comparison c) = c.statementText.toList.map .sign := by
  cases c <;> decide +kernel

theorem operatorTokens_membership (negated : Bool) :
    operatorTokens (.membership negated) =
      if negated then [.word "NOT", .word "IN"] else [.word "IN"] := by
  cases negated <;> decide +kernel

/-- Marks are signs, and there is one question mark for each value. -/
theorem markTokens_eq (operand : Operand) :
    ∃ signs : List Char, markTokens operand = signs.map .sign ∧ signs.head? ≠ some '.' ∧
      signs.count '?' = operand.values.length := by
  cases operand with
  | scalar v => exact ⟨['?'], rfl, by decide, rfl⟩
  | list values =>
    have items : ∃ signs : List Char,
        [Token.sign ','].intercalate (values.map fun _ => [.sign '?']) = signs.map .sign ∧
          signs.count '?' = values.length := by
      induction values with
      | nil => exact ⟨[], rfl, rfl⟩
      | cons v values ih =>
        cases values with
        | nil => exact ⟨['?'], rfl, rfl⟩
        | cons w values =>
          obtain ⟨signs, written, count⟩ := ih
          refine ⟨'?' :: ',' :: signs, ?_, ?_⟩
          · rw [List.map_cons] at written
            rw [List.map_cons, List.map_cons, List.intercalate_cons_cons, written]
            rfl
          · rw [List.count_cons_self, List.count_cons_of_ne (by decide), count,
              List.length_cons]
            rfl
    obtain ⟨signs, written, count⟩ := items
    refine ⟨'(' :: (signs ++ [')']), ?_, ?_, ?_⟩
    · rw [markTokens, written, List.map_cons, List.map_append]
      rfl
    · simp
    · rw [List.count_cons_of_ne (by decide), List.count_append, count]
      rfl

/-- The events of the short name of a column. -/
def Clause.aliasEvents (c : Clause) : List AliasEvent :=
  c.column?.toList.map fun column => .used (tableAlias column.kind)

theorem aliasEvents_column (column : Column) (rest : List Token) :
    aliasEvents (column.tokens ++ rest) =
      .used (tableAlias column.kind) :: aliasEvents rest := by
  cases rest <;> simp [Column.tokens, aliasEvents, aliasEvent?]

theorem aliasEvents_signs (signs : List Char) : aliasEvents (signs.map .sign) = [] := by
  induction signs with
  | nil => rfl
  | cons c signs ih =>
    cases signs with
    | nil => rfl
    | cons d signs => exact ih

theorem aliasEvents_clause (c : Clause) : aliasEvents c.tokens = c.aliasEvents := by
  cases c with
  | never => rfl
  | isNotNull column =>
    rw [Clause.tokens, aliasEvents_column column]
    rfl
  | tests column type operator operand =>
    obtain ⟨signs, written, first, -⟩ := markTokens_eq operand
    rw [Clause.tokens, List.append_assoc, aliasEvents_column, written]
    have none : aliasEvents (operatorTokens operator ++ signs.map .sign) = [] := by
      cases operator with
      | comparison c =>
        rw [operatorTokens_comparison, ← List.map_append, aliasEvents_signs]
      | membership negated =>
        have inList : aliasEvents (.word "IN" :: signs.map .sign) = [] := by
          cases signs with
          | nil => rfl
          | cons c signs =>
            have other : c ≠ '.' := fun same => first (congrArg some same)
            have := aliasEvents_signs (c :: signs)
            simpa [aliasEvents, aliasEvent?, other] using this
        rw [operatorTokens_membership]
        cases negated with
        | false => exact inList
        | true => simpa [aliasEvents, aliasEvent?] using inList
    rw [none]
    rfl

/-- The words that stand in clauses. -/
def clauseWords : List String := ["0", "IS", "NOT", "NULL", "IN"] ++ Kind.all.map tableAlias

theorem word_mem_clause {c : Clause} (h : .word s ∈ c.tokens) : s ∈ clauseWords := by
  have ofColumn {column : Column} (h : .word s ∈ column.tokens) : s ∈ clauseWords := by
    have : s = tableAlias column.kind := by simpa [Column.tokens] using h
    rw [this]
    exact List.mem_append_right _ (List.mem_map_of_mem (Kind.mem_all column.kind))
  cases c with
  | never =>
    have : s = "0" := by simpa [Clause.tokens] using h
    rw [this]
    decide
  | isNotNull column =>
    rcases List.mem_append.mp h with h | h
    · exact ofColumn h
    · have : s = "IS" ∨ s = "NOT" ∨ s = "NULL" := by simpa using h
      rcases this with rfl | rfl | rfl <;> decide
  | tests column type operator operand =>
    obtain ⟨signs, written, -, -⟩ := markTokens_eq operand
    rw [Clause.tokens, written] at h
    rcases List.mem_append.mp h with h | h
    · rcases List.mem_append.mp h with h | h
      · exact ofColumn h
      · cases operator with
        | comparison c => simp [operatorTokens_comparison] at h
        | membership negated =>
          have : s = "NOT" ∨ s = "IN" := by
            cases negated
            · exact .inr (by simpa [operatorTokens_membership] using h)
            · simpa [operatorTokens_membership] using h
          rcases this with rfl | rfl <;> decide
    · simp at h

theorem word_mem_clauses {clauses : List Clause}
    (h : .word s ∈ [Token.word "AND"].intercalate (clauses.map (·.tokens))) :
    s = "AND" ∨ s ∈ clauseWords := by
  induction clauses with
  | nil => cases h
  | cons c clauses ih =>
    cases clauses with
    | nil =>
      rw [List.map_cons, List.map_nil, List.intercalate_singleton] at h
      exact .inr (word_mem_clause h)
    | cons d clauses =>
      rw [List.map_cons, List.map_cons, List.intercalate_cons_cons] at h
      rcases List.mem_append.mp h with h | h
      · rcases List.mem_append.mp h with h | h
        · exact .inr (word_mem_clause h)
        · cases List.mem_singleton.mp h
          exact .inl rfl
      · exact ih h

theorem wordFirst_clause (c : Clause) : WordFirst c.tokens := by
  cases c <;> exact ⟨_, rfl⟩

theorem wordFirst_join (j : Join) : WordFirst j.tokens := by
  cases j <;> exact ⟨_, rfl⟩

theorem wordFirst_clauses (c : Clause) (clauses : List Clause) :
    WordFirst ([.word "AND"].intercalate ((c :: clauses).map (·.tokens))) := by
  cases clauses with
  | nil =>
    rw [List.map_cons, List.map_nil, List.intercalate_singleton]
    exact wordFirst_clause c
  | cons d clauses =>
    rw [List.map_cons, List.map_cons, List.intercalate_cons_cons, List.append_assoc]
    exact (wordFirst_clause c).append _

theorem aliasEvents_clauses (clauses : List Clause) :
    aliasEvents ([.word "AND"].intercalate (clauses.map (·.tokens))) =
      clauses.flatMap (·.aliasEvents) := by
  induction clauses with
  | nil => rfl
  | cons c clauses ih =>
    rw [List.flatMap_cons, ← ih, ← aliasEvents_clause]
    cases clauses with
    | nil => simp [aliasEvents]
    | cons d clauses =>
      have ends : c.tokens.getLast? ≠ some (.word "AS") := by
        intro last
        exact absurd (word_mem_clause (List.mem_of_getLast? last)) (by decide)
      have conjunction : aliasEvents ([.word "AND"] ++
          [.word "AND"].intercalate ((d :: clauses).map (·.tokens))) =
            aliasEvents ([.word "AND"].intercalate ((d :: clauses).map (·.tokens))) :=
        aliasEvents_append (by decide) (wordFirst_clauses d clauses)
      rw [List.map_cons] at conjunction
      rw [List.map_cons, List.map_cons, List.intercalate_cons_cons, List.append_assoc,
        aliasEvents_append ends ⟨"AND", rfl⟩, conjunction]

theorem aliasEvents_joins (joins : List Join) {rest : List Token} (starts : WordFirst rest) :
    aliasEvents (joins.flatMap (·.tokens) ++ rest) =
      joins.flatMap (·.aliasEvents) ++ aliasEvents rest := by
  induction joins with
  | nil => rfl
  | cons j joins ih =>
    have ends : j.tokens.getLast? ≠ some (.word "AS") := by
      cases j <;> simp [Join.tokens]
    have others : WordFirst (joins.flatMap (·.tokens) ++ rest) := by
      cases joins with
      | nil => exact starts
      | cons k joins =>
        rw [List.flatMap_cons, List.append_assoc]
        exact (wordFirst_join k).append _
    rw [List.flatMap_cons, List.append_assoc, aliasEvents_append ends others, ih,
      aliasEvents_join, List.flatMap_cons, List.append_assoc]

theorem aliasEvents_filter (clauses : List Clause) {rest : List Token} (starts : WordFirst rest) :
    aliasEvents (filterTokens clauses ++ rest) =
      clauses.flatMap (·.aliasEvents) ++ aliasEvents rest := by
  cases clauses with
  | nil => rfl
  | cons c clauses =>
    have ends : (filterTokens (c :: clauses)).getLast? ≠ some (.word "AS") := by
      intro last
      rcases List.mem_cons.mp (List.mem_of_getLast? last) with same | mem
      · exact absurd same (by decide)
      · rcases word_mem_clauses mem with same | mem
        · exact absurd same (by decide)
        · exact absurd mem (by decide)
    have written : filterTokens (c :: clauses) =
        [.word "WHERE"] ++ [.word "AND"].intercalate ((c :: clauses).map (·.tokens)) := rfl
    have first : aliasEvents (filterTokens (c :: clauses)) =
        aliasEvents ([.word "AND"].intercalate ((c :: clauses).map (·.tokens))) := by
      rw [written, aliasEvents_append (by decide) (wordFirst_clauses c clauses)]
      rfl
    rw [aliasEvents_append ends starts, first, aliasEvents_clauses]

/-- The tokens of a statement from `FROM` on. -/
def fromTokens (tokens : List Token) : List Token := tokens.dropWhile (· ≠ .word "FROM")

theorem aliasEvents_select (s : Select) :
    aliasEvents (fromTokens s.tokens) =
      .introduced (tableAlias resultKind) :: (s.joins.flatMap (·.aliasEvents) ++
        (s.clauses.flatMap (·.aliasEvents) ++ [.used (tableAlias resultKind)])) := by
  have behind : fromTokens s.tokens =
      [.word "FROM", .name resultKind.name, .word "AS", .word (tableAlias resultKind)] ++
        (s.joins.flatMap (·.tokens) ++ (filterTokens s.clauses ++ orderTokens)) := by
    simp [fromTokens, Select.tokens, Select.headTokens, tableAlias, resultKind]
  have filterFirst : WordFirst (filterTokens s.clauses ++ orderTokens) := by
    cases s.clauses <;> exact ⟨_, rfl⟩
  have joinsFirst :
      WordFirst (s.joins.flatMap (·.tokens) ++ (filterTokens s.clauses ++ orderTokens)) := by
    cases s.joins with
    | nil => exact filterFirst
    | cons j joins =>
      rw [List.flatMap_cons, List.append_assoc]
      exact (wordFirst_join j).append _
  rw [behind, aliasEvents_append (by decide) joinsFirst, aliasEvents_joins _ filterFirst,
    aliasEvents_filter _ ⟨_, rfl⟩]
  rfl

/-- Joins that start from kinds that are bound introduce and use names in order. -/
theorem scoped_joins {bound : List Kind} {joins : List Join} (ready : Join.Ready bound joins)
    {rest : List AliasEvent}
    (others : Scoped (((joins.map (·.kind)).reverse ++ bound).map tableAlias) rest) :
    Scoped (bound.map tableAlias) (joins.flatMap (·.aliasEvents) ++ rest) := by
  induction joins generalizing bound with
  | nil => exact others
  | cons j joins ih =>
    obtain ⟨hSource, hKind, hRest⟩ := ready
    have fresh : tableAlias j.kind ∉ bound.map tableAlias := by
      rwa [List.mem_map_of_injective tableAlias_injective]
    rw [List.map_cons, List.reverse_cons, List.append_assoc] at others
    have chain := ih hRest others
    have bound := List.mem_map_of_mem (f := tableAlias) hSource
    exact ⟨fresh, List.mem_cons_self, List.mem_cons_of_mem _ bound, chain⟩

/-- The kind of every condition is that of the result or of a join. -/
theorem kind_mem_joined {p : Predicate} {c : BoundCondition} (hc : c ∈ p.conditions) :
    c.field.kind ∈ ((standardJoins p).map (·.kind)).reverse ++ [resultKind] := by
  by_cases same : c.field.kind = resultKind
  · rw [same]
    exact List.mem_append_right _ (List.mem_singleton_self _)
  · have tested : p.Tests c.field.kind := ⟨c, hc, rfl⟩
    have joined := mem_standardJoins.mpr ⟨_, .of_tests tested same, rfl⟩
    apply List.mem_append_left
    rw [List.mem_reverse, ← kind_standardJoin same]
    exact List.mem_map_of_mem joined

/-- A clause uses the short name of the kind of its condition, or none. -/
theorem aliasEvents_ofCondition {c : BoundCondition} {e : AliasEvent}
    (h : e ∈ (Clause.ofCondition c).aliasEvents) : e = .used (tableAlias c.field.kind) := by
  have ofColumn : ∀ column, (Clause.ofCondition c).column? = some column →
      column.kind = c.field.kind := by
    obtain ⟨field, operator, operand⟩ := c
    intro column hColumn
    unfold Clause.ofCondition at hColumn
    split at hColumn
    · split at hColumn <;> cases hColumn
      rfl
    · cases hColumn
      rfl
  obtain ⟨column, hColumn, rfl⟩ := List.mem_map.mp h
  rw [ofColumn column (Option.mem_toList.mp hColumn)]

theorem scoped_standard (p : Predicate) :
    Scoped [] (aliasEvents (fromTokens (standardSelect p).tokens)) := by
  let bound := ((standardJoins p).map (·.kind)).reverse ++ [resultKind]
  have uses : Scoped (bound.map tableAlias)
      ((p.conditions.map Clause.ofCondition).flatMap (·.aliasEvents) ++
        [.used (tableAlias resultKind)]) := by
    apply scoped_used
    intro e he
    rcases List.mem_append.mp he with he | he
    · obtain ⟨clause, hClause, hEvent⟩ := List.mem_flatMap.mp he
      obtain ⟨c, hc, rfl⟩ := List.mem_map.mp hClause
      exact ⟨_, List.mem_map_of_mem (kind_mem_joined hc), aliasEvents_ofCondition hEvent⟩
    · refine ⟨_, List.mem_map_of_mem (List.mem_append_right _ ?_), List.mem_singleton.mp he⟩
      exact List.mem_singleton_self _
  rw [aliasEvents_select]
  exact ⟨List.not_mem_nil, scoped_joins (ready_standardJoins p) uses⟩

end SceneArchive.Statement
