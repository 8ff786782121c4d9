import SceneArchive.Proofs.Query.Written

/-!
# Values without quotes around them

A quote is meant to open quoted text only where an operand or an item of a list begins. The scan
knows no more of a place than the last sign before it, so inside a bare value a quote behind an
operator sign, an opening bracket or a comma inside brackets opens quoted text as well; if that
text is still open where the value ends, the next condition is read as part of the value.

* `keepsBareValue_iff`: a bare value is read as it stands exactly if its scan leaves no quote open.
* `not_leavesQuoteOpen_of_quotesFollowText`: no quote is left open if none stands behind such a
  sign.
-/

namespace SceneArchive.Query

variable {s : Scan} {v : List Char}

/-- The scan where an operand begins. -/
def Scan.atOperand : Scan := ⟨none, 0, some '='⟩

/-- Whether the scan of a value ends inside quoted text. -/
def LeavesQuoteOpen (v : String) : Prop := (Scan.atOperand.run v.toList).quote.isSome = true

/-- A value that needs no quotes around it: it has no blanks at its ends, does not begin with a
quote, and has no ampersand. -/
structure IsBareValue (v : String) : Prop where
  nonempty : v ≠ ""
  trimmed : Text.trim v.toList = v.toList
  noAmpersand : '&' ∉ v.toList
  noQuoteFirst : ∀ c ∈ v.toList.head?, Text.isQuote c = false

/-- A comparison with a bare value. -/
def bareCondition (f : FieldPath) (op : Comparison) (v : String) : String :=
  f.text ++ " " ++ op.symbol ++ " " ++ v

/-- Whether a bare value, followed by another condition, is read as it stands and the other
condition as it is read by itself. -/
def KeepsBareValue (f : FieldPath) (op : Comparison) (v other : String) : Prop :=
  ∃ first second, parse other = .ok [second] ∧
    parse (bareCondition f op v ++ " & " ++ other) = .ok [first, second] ∧
      first.field = f ∧ first.operator = .comparison op ∧ first.operand = .scalar v

/-! ## The scan of a value -/

/-- Where the first character is neither a blank nor a quote, the sign before it does not matter. -/
theorem step_of_first {sign c : Char} (blank : Text.isBlank c = false)
    (isQuote : Text.isQuote c = false) :
    (Scan.mk none 0 (some sign)).step c = Scan.atOperand.step c := by
  simp [Scan.step, Scan.atOperand, Scan.outside, blank, isQuote]

theorem toList_bareCondition (f : FieldPath) (op : Comparison) (v : String) :
    (bareCondition f op v).toList = opening f (.comparison op) ++ v.toList := by
  simp [bareCondition, opening, Operator.symbol]

theorem IsBareValue.exists_first {v : String} (bare : IsBareValue v) :
    ∃ c rest, v.toList = c :: rest ∧ Text.isBlank c = false ∧ Text.isQuote c = false := by
  have nonempty : v.toList ≠ [] := by
    intro empty
    exact bare.nonempty (String.toList_inj.mp empty)
  obtain ⟨c, rest, written⟩ := List.exists_cons_of_ne_nil nonempty
  have head : v.toList.head? = some c := by rw [written, List.head?_cons]
  exact ⟨c, rest, written, (Text.trim_eq_self_iff.mp bare.trimmed).1 c head,
    bare.noQuoteFirst c head⟩

/-- The scan of a condition with a bare value is, from the value on, that of the value. -/
theorem run_bareCondition {f : FieldPath} (h : f.IsWritable) (op : Comparison) {v : String}
    (bare : IsBareValue v) :
    Scan.start.run (bareCondition f op v).toList = Scan.atOperand.run v.toList := by
  obtain ⟨sign, -, behind⟩ := exists_run_opening h op
  obtain ⟨c, rest, written, blank, isQuote⟩ := bare.exists_first
  rw [toList_bareCondition, Scan.run_append, behind, written]
  change ((Scan.mk none 0 (some sign)).step c).run rest = (Scan.atOperand.step c).run rest
  rw [step_of_first blank isQuote]

theorem stays_bareCondition {f : FieldPath} (h : f.IsWritable) (op : Comparison) {v : String}
    (bare : IsBareValue v) : Scan.start.Stays (bareCondition f op v).toList := by
  apply Scan.stays_of_not_mem
  rw [toList_bareCondition, List.mem_append, not_or]
  exact ⟨not_mem_opening h, bare.noAmpersand⟩

/-! ## A value that closes its quotes -/

section

variable {f : FieldPath} (h : f.IsWritable) (op : Comparison) {v other : String}
  (bare : IsBareValue v)

include h bare

theorem parse_bareCondition (closed : ¬ LeavesQuoteOpen v) {second : Condition}
    (single : parse other = .ok [second]) :
    parse (bareCondition f op v ++ " & " ++ other) =
      .ok [⟨bareCondition f op v, f, .comparison op, .scalar v⟩, second] := by
  obtain ⟨parts, cut, related⟩ := exists_segments_of_parse single
  obtain ⟨part, rest, hPart, hRest, rfl⟩ := List.forall₂_cons_right_iff.mp related
  obtain rfl := List.forall₂_nil_right_iff.mp hRest
  have closes : Scan.Closes (bareCondition f op v).toList := by
    refine ⟨stays_bareCondition h op bare, ?_⟩
    rw [run_bareCondition h op bare]
    simpa [LeavesQuoteOpen] using closed
  have whole : (bareCondition f op v ++ " & " ++ other).toList =
      ((bareCondition f op v).toList ++ [' ']) ++ '&' :: ' ' :: other.toList := by
    simp
  have cuts : segments (bareCondition f op v ++ " & " ++ other).toList =
      .ok [(bareCondition f op v).toList ++ [' '], ' ' :: part] := by
    rw [whole, segments_ampersand closes.space, segments_space cut]
    rfl
  obtain ⟨c, rest, written, visible, -⟩ := bare.exists_first
  have mem : c ∈ (bareCondition f op v ++ " & " ++ other).toList := by
    simp [toList_bareCondition, written]
  have nonempty : v.toList ≠ [] := by simp [written]
  have read : operand (.comparison op) v.toList = .ok (.scalar v) := by
    simp only [operand, List.isEmpty_eq_false_iff.mpr nonempty, String.ofList_toList]
    rfl
  have first : parseConditionChars ((bareCondition f op v).toList ++ [' ']) =
      .ok ⟨bareCondition f op v, f, .comparison op, .scalar v⟩ := by
    rw [parseConditionChars_trim (Text.trim_concat (by decide) _), toList_bareCondition,
      parseConditionChars_written h nonempty bare.trimmed read, ← toList_bareCondition,
      String.ofList_toList]
  have behind : parseConditionChars (' ' :: part) = .ok second := by
    rw [parseConditionChars_trim (Text.trim_cons (by decide) part), hPart]
  rw [parse_of_visible mem visible cuts, Results.mapM_eq_ok_iff]
  exact .cons first (.cons behind .nil)

/-! ## A value that leaves a quote open -/

theorem exists_segment_of_leavesQuoteOpen (opened : LeavesQuoteOpen v) {part : List Char}
    {parts : List (List Char)}
    (cut : segments (bareCondition f op v ++ " & " ++ other).toList = .ok (part :: parts)) :
    ∃ more, part = (bareCondition f op v).toList ++ ' ' :: '&' :: more := by
  obtain ⟨q, open?⟩ := Option.isSome_iff_exists.mp opened
  have isQuote : Text.isQuote q = true :=
    Scan.isQuote_of_quote_run (s := .atOperand) (by simp [Scan.atOperand]) q open?
  have absent : q ∉ [' ', '&'] := by
    intro mem
    simp only [List.mem_cons, List.not_mem_nil, or_false] at mem
    rcases mem with rfl | rfl <;> cases isQuote
  have open? : (Scan.start.run (bareCondition f op v).toList).quote = some q := by
    rw [run_bareCondition h op bare]
    exact open?
  have stays : Scan.start.Stays ((bareCondition f op v).toList ++ [' ', '&']) :=
    Scan.stays_append.mpr ⟨stays_bareCondition h op bare, Scan.stays_inside open? absent⟩
  have whole : (bareCondition f op v ++ " & " ++ other).toList =
      ((bareCondition f op v).toList ++ [' ', '&']) ++ ' ' :: other.toList := by
    simp
  rw [whole, segments, segmentsFrom_append _ _ stays] at cut
  obtain ⟨more, others, same⟩ := exists_of_segmentsFrom cut
  cases same
  exact ⟨more, by simp⟩

/-- The ampersand behind the value is then inside the quoted text, and so in the operand. -/
theorem operand_ne_of_leavesQuoteOpen (opened : LeavesQuoteOpen v) {first : Condition}
    {others : List Condition}
    (read : parse (bareCondition f op v ++ " & " ++ other) = .ok (first :: others)) :
    first.operand ≠ .scalar v := by
  obtain ⟨parts, cut, related⟩ := exists_segments_of_parse read
  obtain ⟨part, parts, hPart, -, rfl⟩ := List.forall₂_cons_right_iff.mp related
  obtain ⟨more, rfl⟩ := exists_segment_of_leavesQuoteOpen h op bare opened cut
  rw [toList_bareCondition, List.append_assoc, parseConditionChars_opening h] at hPart
  obtain ⟨raw, hRaw, rfl⟩ := hPart
  obtain ⟨-, rfl⟩ := (operand_comparison_iff op).mp hRaw
  intro equal
  injection equal with equal
  have ampersand : '&' ∈ Text.trim (v.toList ++ ' ' :: '&' :: more) :=
    Text.mem_trim (by simp) (by decide)
  rw [← String.toList_ofList (l := Text.trim (v.toList ++ ' ' :: '&' :: more)), equal] at ampersand
  exact bare.noAmpersand ampersand

end

/-! ## Quotes behind ordinary text -/

/-- The last character of a text that can be seen. -/
def lastVisible (s : List Char) : Option Char := (s.filter (!Text.isBlank ·)).getLast?

/-- Whether no quote in a value stands, blanks apart, behind an operator sign, an opening bracket
or a comma. -/
def QuotesFollowText (v : String) : Prop :=
  ∀ before q after, v.toList = before ++ q :: after → Text.isQuote q = true →
    ∀ c ∈ lastVisible before, c ∉ ['=', '<', '>', '[', '(', ',']

theorem lastVisible_cons (c : Char) (s : List Char) :
    lastVisible (c :: s) = (lastVisible s).or (if Text.isBlank c then none else some c) := by
  unfold lastVisible
  cases blank : Text.isBlank c with
  | true => simp [blank]
  | false =>
    simp only [List.filter_cons, blank, Bool.not_false, if_true, List.getLast?_cons]
    cases (s.filter (!Text.isBlank ·)).getLast? <;> rfl

theorem opensOperand_eq_false (behind : ∀ c ∈ s.last, c ∉ ['=', '<', '>', '[', '(', ',']) :
    s.opensOperand = false := by
  cases last : s.last with
  | none => simp [Scan.opensOperand, last]
  | some c =>
    have other := behind c last
    simp only [List.mem_cons, List.not_mem_nil, or_false, not_or] at other
    unfold Scan.opensOperand
    rw [last]
    split <;> simp_all

/-- Quotes that follow text open nothing. -/
theorem quote_run_of_quotes_follow (closed : s.quote = none)
    (follow : ∀ before q after, v = before ++ q :: after → Text.isQuote q = true →
      ∀ c ∈ (lastVisible before).or s.last, c ∉ ['=', '<', '>', '[', '(', ',']) :
    (s.run v).quote = none := by
  induction v generalizing s with
  | nil => exact closed
  | cons c v ih =>
    have here : (s.step c).quote = none := by
      rcases Scan.quote_step (s := s) c with same | none | ⟨isQuote, opens, -⟩
      · exact same.trans closed
      · exact none
      · have := opensOperand_eq_false (follow [] c v rfl isQuote)
        rw [this] at opens
        cases opens
    apply ih here
    intro before q after written isQuote d hd
    refine follow (c :: before) q after (by rw [written, List.cons_append]) isQuote d ?_
    rw [Scan.last_step closed] at hd
    rw [lastVisible_cons, Option.or_assoc]
    cases blank : Text.isBlank c with
    | true =>
      simp only [blank, if_true, Option.none_or] at hd ⊢
      exact hd
    | false =>
      simp only [blank, Bool.false_eq_true, if_false, Option.some_or] at hd ⊢
      exact hd

theorem not_leavesQuoteOpen_of_quotesFollowText {v : String} (bare : IsBareValue v)
    (follow : QuotesFollowText v) : ¬ LeavesQuoteOpen v := by
  have closed : (Scan.atOperand.run v.toList).quote = none := by
    apply quote_run_of_quotes_follow rfl
    intro before q after written isQuote d hd
    obtain ⟨c, rest, first, visible, notQuote⟩ := bare.exists_first
    cases before with
    | nil =>
      have : q = c := by
        rw [first] at written
        exact (List.cons.inj written).1.symm
      rw [this, notQuote] at isQuote
      cases isQuote
    | cons c' before =>
      -- The first character can be seen, so the sign before the value is not looked at.
      have same : c' = c := by
        rw [first] at written
        exact (List.cons.inj written).1.symm
      refine follow (c' :: before) q after written isQuote d ?_
      rw [lastVisible_cons, same, visible] at hd ⊢
      simpa [Option.or_assoc] using hd
  simp [LeavesQuoteOpen, closed]

/-! ## The exact condition -/

/-- A bare value is read as it stands exactly if its scan leaves no quote open; so it is if every
quote in it follows ordinary text. -/
theorem keepsBareValue_iff {f : FieldPath} (h : f.IsWritable) (op : Comparison)
    {v other : String} (bare : IsBareValue v) {second : Condition}
    (single : parse other = .ok [second]) :
    (KeepsBareValue f op v other ↔ ¬ LeavesQuoteOpen v) ∧
      (QuotesFollowText v → KeepsBareValue f op v other) := by
  have keeps (closed : ¬ LeavesQuoteOpen v) : KeepsBareValue f op v other :=
    ⟨_, second, single, parse_bareCondition h op bare closed single, rfl, rfl, rfl⟩
  refine ⟨⟨?_, keeps⟩, ?_⟩
  · rintro ⟨first, second', -, read, -, -, same⟩ opened
    exact operand_ne_of_leavesQuoteOpen h op bare opened read same
  · intro follow
    exact keeps (not_leavesQuoteOpen_of_quotesFollowText bare follow)

theorem keepsBareValue_apostrophe :
    IsBareValue "Landsat's" ∧ ¬ LeavesQuoteOpen "Landsat's" ∧
      KeepsBareValue ⟨none, "satellite"⟩ .eq "Landsat's" "cloudperce <= 10" := by
  have writable : FieldPath.IsWritable ⟨none, "satellite"⟩ := ⟨by simp, by decide⟩
  have bare : IsBareValue "Landsat's" := by
    refine ⟨by decide, by decide +kernel, by decide, ?_⟩
    intro c first
    cases first
    rfl
  have closed : ¬ LeavesQuoteOpen "Landsat's" := by
    unfold LeavesQuoteOpen
    decide +kernel
  have single : parse "cloudperce <= 10" =
      .ok [⟨"cloudperce <= 10", ⟨none, "cloudperce"⟩, .comparison .le, .scalar "10"⟩] := by
    rfl
  exact ⟨bare, closed, (keepsBareValue_iff writable .eq bare single).1.mpr closed⟩

/-- Here the quote stands behind a sign inside the value; the query is refused. -/
theorem not_keepsBareValue_signBeforeQuote :
    IsBareValue "a='b" ∧ (∃ second, parse "orbitid = 1" = .ok [second]) ∧
      ¬ KeepsBareValue ⟨none, "batch"⟩ .eq "a='b" "orbitid = 1" := by
  have bare : IsBareValue "a='b" := by
    refine ⟨by decide, by decide +kernel, by decide, ?_⟩
    intro c first
    cases first
    rfl
  have single : parse "orbitid = 1" =
      .ok [⟨"orbitid = 1", ⟨none, "orbitid"⟩, .comparison .eq, .scalar "1"⟩] := by
    rfl
  have refused : parse (bareCondition ⟨none, "batch"⟩ .eq "a='b" ++ " & " ++ "orbitid = 1") =
      .error (.query "batch = a='b & orbitid = 1" .unterminatedValue) := by
    rfl
  refine ⟨bare, ⟨_, single⟩, ?_⟩
  rintro ⟨first, second, -, read, -⟩
  rw [refused] at read
  cases read

end SceneArchive.Query
