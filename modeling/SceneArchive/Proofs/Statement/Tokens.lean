import Mathlib.Data.List.Basic
import SceneArchive.Statement.Select

/-!
# Statements as tokens

The text of a statement cut into words, names between double quotes, and signs. What stands
between double quotes is one token, whatever characters it has, so a question mark inside a name
is no mark for a value.

* `tokens`: the tokens of a text.
* `tokens_text`: the tokens of the text of a statement, part by part.
-/

namespace SceneArchive.Statement

/-- A token of a statement. -/
inductive Token where
  | word (s : String)
  /-- A name between double quotes, a quote that is written twice read once. -/
  | name (s : String)
  | sign (c : Char)
  deriving DecidableEq, Repr

/-- The letters, digits and underscores that words are made of. -/
def isWordChar (c : Char) : Bool := c.isAlphanum || c == '_'

/-- Where a scan for tokens stands; what is read of a token has its last character first. -/
inductive Lexing where
  | between
  | word (read : List Char)
  | name (read : List Char)
  /-- Behind a double quote in a name: its end, or the first of two quotes. -/
  | quote (read : List Char)
  deriving DecidableEq, Repr

namespace Lexing

/-- The token that a character makes by itself, and the scan behind it. -/
def start (c : Char) : List Token × Lexing :=
  if isWordChar c then ([], word [c])
  else if c == '"' then ([], name [])
  else if Text.isBlank c then ([], between)
  else ([.sign c], between)

/-- The tokens that are complete at a character, and the scan behind it. -/
def step : Lexing → Char → List Token × Lexing
  | between, c => start c
  | word read, c =>
    if isWordChar c then ([], word (c :: read))
    else (.word (String.ofList read.reverse) :: (start c).1, (start c).2)
  | name read, c => if c == '"' then ([], quote read) else ([], name (c :: read))
  | quote read, c =>
    if c == '"' then ([], name ('"' :: read))
    else (.name (String.ofList read.reverse) :: (start c).1, (start c).2)

/-- The tokens that are complete behind a text, and the scan behind it. -/
def run (s : Lexing) : List Char → List Token × Lexing
  | [] => ([], s)
  | c :: text =>
    let (before, next) := s.step c
    let (tokens, last) := next.run text
    (before ++ tokens, last)

/-- The tokens that are left at the end of a text. A name that is not closed gives its quote. -/
def finish : Lexing → List Token
  | between => []
  | word read => [.word (String.ofList read.reverse)]
  | name _ => [.sign '"']
  | quote read => [.name (String.ofList read.reverse)]

/-- The tokens of the text behind a scan. -/
def rest (s : Lexing) (text : List Char) : List Token := (s.run text).1 ++ (s.run text).2.finish

end Lexing

/-- The tokens of a text. -/
def tokens (text : String) : List Token := Lexing.between.rest text.toList

/-! ## Reading parts of a text -/

/-- Whether a text neither goes on with a word nor with a name. -/
def Apart (text : List Char) : Prop := ∀ c ∈ text.head?, isWordChar c = false ∧ c ≠ '"'

theorem apart_of_head? {text : List Char} (first : text.head? = some ' ') : Apart text := by
  intro c hc
  rw [first] at hc
  cases hc
  decide

theorem apart_append {part text : List Char} (first : part.head? = some ' ') :
    Apart (part ++ text) := by
  obtain ⟨_, rfl⟩ := List.head?_eq_some_iff.mp first
  exact apart_of_head? rfl

namespace Lexing

variable {text : List Char}

theorem run_append (s : Lexing) (a b : List Char) :
    s.run (a ++ b) = ((s.run a).1 ++ ((s.run a).2.run b).1, ((s.run a).2.run b).2) := by
  induction a generalizing s with
  | nil => rfl
  | cons c a ih =>
    rw [List.cons_append]
    simp only [run, ih, List.append_assoc]

theorem rest_cons (s : Lexing) (c : Char) (text : List Char) :
    s.rest (c :: text) = (s.step c).1 ++ (s.step c).2.rest text := by
  simp only [rest, run, List.append_assoc]

/-- A part of a text that ends between tokens is read by itself. -/
theorem rest_of_run {s : Lexing} {part : String} {ts : List Token} {next : Lexing}
    (h : s.run part.toList = (ts, next)) (text : List Char) :
    s.rest (part.toList ++ text) = ts ++ next.rest text := by
  simp only [rest, run_append, h, List.append_assoc]

theorem rest_word (apart : Apart text) (read : List Char) :
    (word read).rest text = .word (String.ofList read.reverse) :: between.rest text := by
  cases text with
  | nil => rfl
  | cons c text =>
    obtain ⟨notWord, -⟩ := apart c rfl
    simp [rest_cons, step, notWord]

theorem rest_quote (apart : Apart text) (read : List Char) :
    (quote read).rest text = .name (String.ofList read.reverse) :: between.rest text := by
  cases text with
  | nil => rfl
  | cons c text =>
    obtain ⟨-, notQuote⟩ := apart c rfl
    simp [rest_cons, step, notQuote]

theorem rest_name (s read text : List Char) :
    (name read).rest ((s.flatMap fun c => if c == '"' then ['"', '"'] else [c]) ++ '"' :: text) =
      (quote (s.reverse ++ read)).rest text := by
  induction s generalizing read with
  | nil => simp [rest_cons, step]
  | cons c s ih =>
    by_cases same : c = '"'
    · subst same
      simpa [rest_cons, step] using ih ('"' :: read)
    · simpa [rest_cons, step, same] using ih (c :: read)

/-- A quoted name is read as one token. -/
theorem rest_quoteName (apart : Apart text) (s : String) :
    between.rest ((quoteName s).toList ++ text) = .name s :: between.rest text := by
  have written : (quoteName s).toList ++ text =
      '"' :: ((s.toList.flatMap fun c => if c == '"' then ['"', '"'] else [c]) ++ '"' :: text) := by
    simp [quoteName]
  have opened : between.step '"' = ([], name []) := by decide +kernel
  rw [written, rest_cons, opened, List.nil_append, rest_name, rest_quote apart]
  simp

end Lexing

/-! ## The parts of a statement -/

/-- The tokens of a join. -/
def Join.tokens : Join → List Token
  | parent kind column =>
    [.word "JOIN", .name kind.name, .word "AS", .word (tableAlias kind), .word "ON",
      .word (tableAlias kind), .sign '.', .word "id", .sign '=', .word (tableAlias resultKind),
      .sign '.', .name column]
  | children kind column owner =>
    [.word "LEFT", .word "JOIN", .name kind.name, .word "AS", .word (tableAlias kind), .word "ON",
      .word (tableAlias kind), .sign '.', .name column, .sign '=', .word (tableAlias owner),
      .sign '.', .word "id"]

/-- The tokens of a column. -/
def Column.tokens (c : Column) : List Token := [.word (tableAlias c.kind), .sign '.', .name c.name]

/-- The tokens of an operator. -/
def operatorTokens (o : Operator) : List Token := Statement.tokens o.statementText

/-- The tokens of the marks of an operand. -/
def markTokens : Operand → List Token
  | .scalar _ => [.sign '?']
  | .list values =>
    .sign '(' :: ([.sign ','].intercalate (values.map fun _ => [.sign '?']) ++ [.sign ')'])

/-- The tokens of a clause. -/
def Clause.tokens : Clause → List Token
  | never => [.word "0"]
  | isNotNull column => column.tokens ++ [.word "IS", .word "NOT", .word "NULL"]
  | tests column _ operator operand =>
    column.tokens ++ operatorTokens operator ++ markTokens operand

/-- The tokens of a filter. -/
def filterTokens (clauses : List Clause) : List Token :=
  if clauses.isEmpty then []
  else .word "WHERE" :: [.word "AND"].intercalate (clauses.map (·.tokens))

/-- The tokens of a statement up to its filter. -/
def Select.headTokens (s : Select) : List Token :=
  [.word "SELECT", .word "DISTINCT", .word (tableAlias resultKind), .sign '.', .sign '*',
      .word "FROM", .name resultKind.name, .word "AS", .word (tableAlias resultKind)] ++
    s.joins.flatMap (·.tokens)

/-- The tokens of the order of a statement. -/
def orderTokens : List Token :=
  [.word "ORDER", .word "BY", .word (tableAlias resultKind), .sign '.', .word "id"]

/-- The tokens of a statement. -/
def Select.tokens (s : Select) : List Token :=
  s.headTokens ++ filterTokens s.clauses ++ orderTokens

namespace Lexing

variable {text : List Char}

/-- The alias of a joined table, up to the condition of the join. -/
theorem rest_alias (kind : Kind) (text : List Char) :
    between.rest ((" AS " ++ tableAlias kind ++ " ON ").toList ++ text) =
      [.word "AS", .word (tableAlias kind), .word "ON"] ++ between.rest text := by
  apply rest_of_run
  cases kind <;> decide +kernel

theorem rest_owned (kind : Kind) (text : List Char) :
    between.rest ((tableAlias kind ++ ".id = " ++ tableAlias resultKind ++ ".").toList ++ text) =
      [.word (tableAlias kind), .sign '.', .word "id", .sign '=', .word (tableAlias resultKind),
        .sign '.'] ++ between.rest text := by
  apply rest_of_run
  cases kind <;> decide +kernel

theorem rest_point (kind : Kind) (text : List Char) :
    between.rest ((tableAlias kind ++ ".").toList ++ text) =
      [.word (tableAlias kind), .sign '.'] ++ between.rest text := by
  apply rest_of_run
  cases kind <;> decide +kernel

theorem rest_owner (apart : Apart text) (owner : Kind) :
    between.rest ((" = " ++ tableAlias owner ++ ".id").toList ++ text) =
      [.sign '=', .word (tableAlias owner), .sign '.', .word "id"] ++ between.rest text := by
  have read : between.run (" = " ++ tableAlias owner ++ ".id").toList =
      ([.sign '=', .word (tableAlias owner), .sign '.'], word ['d', 'i']) := by
    cases owner <;> decide +kernel
  rw [rest_of_run read, rest_word apart]
  rfl

theorem text_parent (kind : Kind) (column : String) : (Join.parent kind column).text =
    " JOIN " ++ quoteName kind.name ++ " AS " ++ tableAlias kind ++ " ON " ++ tableAlias kind ++
      ".id = " ++ (tableAlias resultKind ++ "." ++ quoteName column) :=
  rfl

theorem text_children (kind : Kind) (column : String) (owner : Kind) :
    (Join.children kind column owner).text =
      " LEFT JOIN " ++ quoteName kind.name ++ " AS " ++ tableAlias kind ++ " ON " ++
        (tableAlias kind ++ "." ++ quoteName column ++ " = " ++ tableAlias owner ++ ".id") :=
  rfl

theorem rest_join (apart : Apart text) (j : Join) :
    between.rest (j.text.toList ++ text) = j.tokens ++ between.rest text := by
  have space (kind : Kind) {text : List Char} :
      Apart ((" AS " ++ tableAlias kind ++ " ON ").toList ++ text) :=
    apart_append (by cases kind <;> decide +kernel)
  cases j with
  | parent kind column =>
    have first (text : List Char) : between.rest (" JOIN ".toList ++ text) =
        [.word "JOIN"] ++ between.rest text := rest_of_run (by decide +kernel) text
    have parts : (Join.parent kind column).text.toList ++ text =
        " JOIN ".toList ++ ((quoteName kind.name).toList ++
          ((" AS " ++ tableAlias kind ++ " ON ").toList ++
            ((tableAlias kind ++ ".id = " ++ tableAlias resultKind ++ ".").toList ++
              ((quoteName column).toList ++ text)))) := by
      simp only [text_parent, String.toList_append, List.append_assoc]
    rw [parts, first, rest_quoteName (space kind), rest_alias, rest_owned, rest_quoteName apart,
      Join.tokens]
    simp only [List.cons_append, List.nil_append]
  | children kind column owner =>
    have first (text : List Char) : between.rest (" LEFT JOIN ".toList ++ text) =
        [.word "LEFT", .word "JOIN"] ++ between.rest text := rest_of_run (by decide +kernel) text
    have parts : (Join.children kind column owner).text.toList ++ text =
        " LEFT JOIN ".toList ++ ((quoteName kind.name).toList ++
          ((" AS " ++ tableAlias kind ++ " ON ").toList ++ ((tableAlias kind ++ ".").toList ++
            ((quoteName column).toList ++
              ((" = " ++ tableAlias owner ++ ".id").toList ++ text))))) := by
      simp only [text_children, String.toList_append, List.append_assoc]
    have spaceBehind : Apart ((" = " ++ tableAlias owner ++ ".id").toList ++ text) :=
      apart_append (by cases owner <;> decide +kernel)
    rw [parts, first, rest_quoteName (space kind), rest_alias, rest_point,
      rest_quoteName spaceBehind, rest_owner apart, Join.tokens]
    simp only [List.cons_append, List.nil_append]

theorem rest_column (apart : Apart text) (c : Column) :
    between.rest (c.text.toList ++ text) = c.tokens ++ between.rest text := by
  rw [Column.text, String.toList_append, List.append_assoc, rest_point, rest_quoteName apart]
  rfl

/-- An operator between blanks. -/
theorem rest_operator (o : Operator) (text : List Char) :
    between.rest ((" " ++ o.statementText ++ " ").toList ++ text) =
      operatorTokens o ++ between.rest text := by
  apply rest_of_run
  cases o with
  | comparison c => cases c <;> decide +kernel
  | membership negated => cases negated <;> decide +kernel

theorem rest_items (values : List Value) (text : List Char) :
    between.rest ((", ".intercalate (values.map fun _ => "?")).toList ++ (")".toList ++ text)) =
      [Token.sign ','].intercalate (values.map fun _ => [.sign '?']) ++
        .sign ')' :: between.rest text := by
  have mark (text : List Char) : between.rest ("?".toList ++ text) =
      [.sign '?'] ++ between.rest text := rest_of_run (by decide +kernel) text
  have comma (text : List Char) : between.rest (", ".toList ++ text) =
      [.sign ','] ++ between.rest text := rest_of_run (by decide +kernel) text
  have closed : between.rest (")".toList ++ text) = [.sign ')'] ++ between.rest text :=
    rest_of_run (by decide +kernel) text
  induction values with
  | nil => exact closed
  | cons v values ih =>
    cases values with
    | nil =>
      simp only [List.map_cons, List.map_nil, String.intercalate_singleton,
        List.intercalate_singleton, mark, closed, List.cons_append, List.nil_append]
    | cons w values =>
      rw [List.map_cons] at ih
      rw [List.map_cons, List.map_cons, String.intercalate_cons_cons, String.toList_append,
        String.toList_append, List.append_assoc, List.append_assoc, mark, comma, ih]
      simp only [List.map_cons, List.intercalate_cons_cons, List.cons_append, List.nil_append]

theorem rest_marks (operand : Operand) (text : List Char) :
    between.rest ((marks operand).toList ++ text) = markTokens operand ++ between.rest text := by
  cases operand with
  | scalar v =>
    have mark : between.run "?".toList = ([.sign '?'], between) := by decide +kernel
    exact rest_of_run mark text
  | list values =>
    have opened (text : List Char) : between.rest ("(".toList ++ text) =
        [.sign '('] ++ between.rest text := rest_of_run (by decide +kernel) text
    rw [marks, String.toList_append, String.toList_append, List.append_assoc, List.append_assoc,
      opened, rest_items]
    simp only [markTokens, List.cons_append, List.nil_append, List.append_assoc]

theorem rest_clause (apart : Apart text) (c : Clause) :
    between.rest (c.text.toList ++ text) = c.tokens ++ between.rest text := by
  cases c with
  | never => exact rest_word apart ['0']
  | isNotNull column =>
    have read : between.run " IS NOT NULL".toList =
        ([.word "IS", .word "NOT"], word ['L', 'L', 'U', 'N']) := by
      decide +kernel
    rw [Clause.text, String.toList_append, List.append_assoc,
      rest_column (apart_append (by decide +kernel)), rest_of_run read, rest_word apart,
      Clause.tokens, List.append_assoc]
    rfl
  | tests column type operator operand =>
    have parts : (Clause.tests column type operator operand).text.toList ++ text =
        column.text.toList ++ ((" " ++ operator.statementText ++ " ").toList ++
          ((marks operand).toList ++ text)) := by
      simp only [Clause.text, String.toList_append, List.append_assoc]
    have space : (" " ++ operator.statementText ++ " ").toList.head? = some ' ' := by
      simp
    rw [parts, rest_column (apart_append space), rest_operator, rest_marks, Clause.tokens,
      List.append_assoc, List.append_assoc]

theorem rest_clauses (apart : Apart text) (clauses : List Clause) :
    between.rest ((" AND ".intercalate (clauses.map (·.text))).toList ++ text) =
      [Token.word "AND"].intercalate (clauses.map (·.tokens)) ++ between.rest text := by
  have conjunction (text : List Char) : between.rest (" AND ".toList ++ text) =
      [.word "AND"] ++ between.rest text := rest_of_run (by decide +kernel) text
  induction clauses with
  | nil => rfl
  | cons c clauses ih =>
    cases clauses with
    | nil =>
      simp only [List.map_cons, List.map_nil, String.intercalate_singleton,
        List.intercalate_singleton, rest_clause apart]
    | cons d clauses =>
      rw [List.map_cons] at ih
      rw [List.map_cons, List.map_cons, String.intercalate_cons_cons, String.toList_append,
        String.toList_append, List.append_assoc, List.append_assoc,
        rest_clause (apart_append (by decide +kernel)), conjunction, ih]
      simp only [List.map_cons, List.intercalate_cons_cons, List.append_assoc]

theorem rest_filter (apart : Apart text) (clauses : List Clause) :
    between.rest ((filterText clauses).toList ++ text) =
      filterTokens clauses ++ between.rest text := by
  have first (text : List Char) : between.rest (" WHERE ".toList ++ text) =
      [.word "WHERE"] ++ between.rest text := rest_of_run (by decide +kernel) text
  cases clauses with
  | nil => rfl
  | cons c clauses =>
    have written : filterText (c :: clauses) =
        " WHERE " ++ " AND ".intercalate ((c :: clauses).map (·.text)) := rfl
    rw [written, String.toList_append, List.append_assoc, first, rest_clauses apart]
    rfl

theorem head?_text (j : Join) : j.text.toList.head? = some ' ' := by
  cases j with
  | parent kind column =>
    simp only [text_parent, String.toList_append, List.append_assoc]
    rfl
  | children kind column owner =>
    simp only [text_children, String.toList_append, List.append_assoc]
    rfl

theorem apart_joins (apart : Apart text) (joins : List Join) :
    Apart (joins.flatMap (·.text.toList) ++ text) := by
  cases joins with
  | nil => exact apart
  | cons j joins =>
    rw [List.flatMap_cons, List.append_assoc]
    exact apart_append (head?_text j)

theorem rest_joins (apart : Apart text) (joins : List Join) :
    between.rest (joins.flatMap (·.text.toList) ++ text) =
      joins.flatMap (·.tokens) ++ between.rest text := by
  induction joins with
  | nil => rfl
  | cons j joins ih =>
    rw [List.flatMap_cons, List.append_assoc, rest_join (apart_joins apart joins), ih,
      List.flatMap_cons, List.append_assoc]

theorem apart_filter (apart : Apart text) (clauses : List Clause) :
    Apart ((filterText clauses).toList ++ text) := by
  cases clauses with
  | nil => exact apart
  | cons c clauses =>
    refine apart_append ?_
    rw [filterText, List.isEmpty_cons, if_neg (by decide), String.toList_append]
    rfl

end Lexing

open Lexing in
/-- The tokens of the text of a statement are those of its parts. -/
theorem tokens_text (s : Select) : tokens s.text = s.tokens := by
  let order := " ORDER BY " ++ tableAlias resultKind ++ ".id"
  have written : s.text = "SELECT DISTINCT " ++ tableAlias resultKind ++ ".* FROM " ++
      quoteName resultKind.name ++ " AS " ++ tableAlias resultKind ++
        String.join (s.joins.map (·.text)) ++ filterText s.clauses ++ order := rfl
  have parts : s.text.toList =
      ("SELECT DISTINCT " ++ tableAlias resultKind ++ ".* FROM ").toList ++
        ((quoteName resultKind.name).toList ++ ((" AS " ++ tableAlias resultKind).toList ++
          (s.joins.flatMap (·.text.toList) ++
            ((filterText s.clauses).toList ++ order.toList)))) := by
    rw [written]
    simp only [String.toList_append, List.append_assoc, String.toList_join, List.flatMap_map]
  have first : between.run ("SELECT DISTINCT " ++ tableAlias resultKind ++ ".* FROM ").toList =
      ([.word "SELECT", .word "DISTINCT", .word (tableAlias resultKind), .sign '.', .sign '*',
        .word "FROM"], between) := by
    decide +kernel
  have named : between.run (" AS " ++ tableAlias resultKind).toList =
      ([.word "AS"], word (tableAlias resultKind).toList.reverse) := by
    decide +kernel
  have last : between.rest order.toList = orderTokens := by decide +kernel
  have behindFilter : Apart order.toList := apart_of_head? (by decide +kernel)
  have behindJoins := apart_filter behindFilter s.clauses
  rw [tokens, parts, rest_of_run first, rest_quoteName (apart_append (by decide +kernel)),
    rest_of_run named, rest_word (apart_joins behindJoins s.joins), rest_joins behindJoins,
    rest_filter behindFilter, last, Select.tokens, Select.headTokens, List.reverse_reverse,
    String.ofList_toList]
  simp only [List.cons_append, List.nil_append, List.append_assoc]

example : tokens "g.\"a?\" = ?" =
    [.word "g", .sign '.', .name "a?", .sign '=', .sign '?'] := by
  decide +kernel

end SceneArchive.Statement
