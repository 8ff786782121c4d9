import SceneArchive.Proofs.Query.Lists
import SceneArchive.Proofs.Query.Written
import SceneArchive.Proofs.Query.WellTyped

/-!
# Quoted values

Any text can be asked for: between quotes that do not occur in it, a text goes through the query
language unchanged, whatever it holds. The scan of segments, the reader of lists and the coercion
of operands each find the same two quotes around it.

* `itemsText_itemChars`: quoted items are items of a list.
* `closes_written`: no character of a quoted text ends its segment.
* `compile_quoted`: a conjunction of conditions on text fields with quoted values compiles to
  these fields, operators and texts.
-/

namespace SceneArchive

/-- A comparison with a quoted text, or a test of membership in a list of quoted texts. -/
inductive QuotedTest where
  | comparison (c : Comparison) (value : QuotedText)
  | membership (negated : Bool) (items : List QuotedText)

namespace QuotedTest

def operator : QuotedTest → Operator
  | comparison c _ => .comparison c
  | membership negated _ => .membership negated

/-- The operand as it is written. -/
def written : QuotedTest → String
  | comparison _ value => value.written
  | membership _ items => "[" ++ ", ".intercalate (items.map (·.written)) ++ "]"

/-- The operand as it is read: the quotes are still there. -/
def raw : QuotedTest → RawOperand
  | comparison _ value => .scalar value.written
  | membership _ items => .list (items.map (·.written))

/-- The operand as it is meant. -/
def operand : QuotedTest → Operand
  | comparison _ value => .scalar (.text value.text)
  | membership _ items => .list (items.map fun item => .text item.text)

end QuotedTest

/-- A test of a name that a catalog resolves to a text field. -/
structure QuotedCondition (catalog : Catalog) where
  name : String
  field : FieldSpec
  resolved : catalog.resolve name = .ok field
  isText : field.type = .text
  test : QuotedTest

namespace QuotedCondition

variable {catalog : Catalog}

def written (c : QuotedCondition catalog) : String :=
  c.name ++ " " ++ c.test.operator.symbol ++ " " ++ c.test.written

def bound (c : QuotedCondition catalog) : BoundCondition :=
  ⟨c.field, c.test.operator, c.test.operand⟩

/-- The query of a conjunction. -/
def query (cs : List (QuotedCondition catalog)) : String := " & ".intercalate (cs.map (·.written))

end QuotedCondition

namespace Query

variable {s : Scan} {items : List QuotedText}

/-! ## Lists of quoted items -/

/-- Quoted items as they stand between the brackets of a list. -/
def itemChars (items : List QuotedText) : List Char :=
  ", ".toList.intercalate (items.map (·.chars))

theorem itemChars_cons_cons (item next : QuotedText) (rest : List QuotedText) :
    itemChars (item :: next :: rest) = item.chars ++ ',' :: ' ' :: itemChars (next :: rest) := by
  simp [itemChars]

theorem itemsText_itemChars (items : List QuotedText) :
    ItemsText (itemChars items) (items.map (·.written)) := by
  induction items with
  | nil => exact .none fun c hc => by cases hc
  | cons item rest ih =>
    cases rest with
    | nil =>
      have alone : itemChars [item] = item.chars := by simp [itemChars]
      rw [alone]
      exact .last (itemText_quoted item)
    | cons next rest =>
      rw [itemChars_cons_cons]
      exact .cons (itemText_quoted item) (ih.cons_blank (by decide))

theorem trim_list (items : List QuotedText) :
    Text.trim ('[' :: itemChars items ++ [']']) = '[' :: itemChars items ++ [']'] := by
  refine Text.trim_eq_self_iff.mpr ⟨?_, ?_⟩
  · intro c hc
    cases hc
    decide
  · intro c hc
    rw [List.getLast?_concat] at hc
    cases hc
    decide

theorem literalItems_quoted (items : List QuotedText) :
    literalItems ('[' :: itemChars items ++ [']']) = .ok (items.map (·.written)) := by
  rw [literalItems_eq_ok_iff, trim_list]
  exact .square (itemsText_itemChars items)

theorem toList_written_comparison (c : Comparison) (value : QuotedText) :
    (QuotedTest.comparison c value).written.toList = value.chars := by
  simp [QuotedTest.written, QuotedText.written]

theorem toList_written_membership (negated : Bool) (items : List QuotedText) :
    (QuotedTest.membership negated items).written.toList = '[' :: itemChars items ++ [']'] := by
  have joined : (items.map (·.written)).map String.toList = items.map (·.chars) := by
    simp [QuotedText.written]
  simp [QuotedTest.written, itemChars, joined]

/-- A written operand has no blanks around it. -/
theorem written_spec (test : QuotedTest) :
    test.written.toList ≠ [] ∧ Text.trim test.written.toList = test.written.toList := by
  cases test with
  | comparison c value =>
    rw [toList_written_comparison]
    exact ⟨by simp [QuotedText.chars], value.trim_chars⟩
  | membership negated items =>
    rw [toList_written_membership]
    exact ⟨by simp, trim_list items⟩

/-- The operand of a test is read with its quotes. -/
theorem operand_quoted (test : QuotedTest) :
    operand test.operator test.written.toList = .ok test.raw := by
  cases test with
  | comparison c value =>
    have nonempty : value.written.toList.isEmpty = false := by
      simp [QuotedText.written, QuotedText.chars]
    simp only [operand, QuotedTest.operator, QuotedTest.written, QuotedTest.raw, nonempty,
      String.ofList_toList]
    rfl
  | membership negated items =>
    rw [toList_written_membership]
    have nonempty : ('[' :: itemChars items ++ [']']).isEmpty = false := rfl
    simp only [operand, QuotedTest.operator, nonempty, literalItems_quoted]
    rfl

/-! ## The scan of quoted values -/

theorem run_itemChars (closed : s.quote = none) (depth : 0 < s.depth)
    (opens : s.opensOperand = true) :
    s.Stays (itemChars items) ∧ (s.run (itemChars items)).quote = none := by
  induction items generalizing s with
  | nil => exact ⟨trivial, closed⟩
  | cons item rest ih =>
    have stays : s.Stays item.chars :=
      Scan.stays_quoted item.isQuote item.absent closed opens
    have behind : s.run item.chars = { s with last := some item.quote } :=
      Scan.run_quoted item.isQuote item.absent closed opens
    cases rest with
    | nil =>
      have alone : itemChars [item] = item.chars := by simp [itemChars]
      rw [alone, behind]
      exact ⟨stays, closed⟩
    | cons next rest =>
      -- A comma inside the brackets makes room for the next item.
      let comma : Scan := { s with last := some ',' }
      have afterComma : (s.run item.chars).run [',', ' '] = comma := by
        rw [behind]
        change (Scan.step { s with last := some item.quote } ',').step ' ' = comma
        rw [Scan.step_sign (s := { s with last := some item.quote }) closed (by decide)
          (by simp [Text.isQuote]) (by decide)]
        exact Scan.step_space (s := comma) closed
      have others := ih (s := comma) closed depth (by simp [comma, Scan.opensOperand, depth])
      have split : itemChars (item :: next :: rest) =
          item.chars ++ ([',', ' '] ++ itemChars (next :: rest)) := itemChars_cons_cons ..
      rw [split, Scan.stays_append, Scan.stays_append, Scan.run_append, Scan.run_append,
        afterComma]
      exact ⟨⟨stays, Scan.stays_of_not_mem (by decide), others.1⟩, others.2⟩

/-- No character of a quoted value ends the segment of its condition. -/
theorem closes_written {f : FieldPath} (h : f.IsWritable) (test : QuotedTest) :
    Scan.Closes (opening f test.operator ++ test.written.toList) := by
  have closed : (Scan.start.run (opening f test.operator)).quote = none := quote_run_opening h
  have stays : Scan.start.Stays (opening f test.operator) :=
    Scan.stays_of_not_mem (not_mem_opening h)
  rw [Scan.Closes, Scan.stays_append, Scan.run_append]
  cases test with
  | comparison c value =>
    have opens := opensOperand_run_opening h c
    rw [toList_written_comparison]
    refine ⟨⟨stays, Scan.stays_quoted value.isQuote value.absent closed opens⟩, ?_⟩
    have behind := Scan.run_quoted value.isQuote value.absent closed opens
    exact (congrArg Scan.quote behind).trans closed
  | membership negated items =>
    rw [toList_written_membership]
    generalize Scan.start.run (opening f (QuotedTest.membership negated items).operator) = s
      at closed ⊢
    -- The bracket makes room for the first item.
    let bracket : Scan := { s with depth := s.depth + 1, last := some '[' }
    have behind : s.step '[' = bracket := Scan.step_bracket closed
    obtain ⟨inside, closedInside⟩ :=
      run_itemChars (s := bracket) closed (Nat.succ_pos _) rfl
    have staysList : s.Stays ('[' :: (itemChars items ++ [']'])) := by
      refine ⟨fun _ => by decide, ?_⟩
      rw [behind, Scan.stays_append]
      exact ⟨inside, Scan.stays_of_not_mem (by decide)⟩
    have closedList : (s.run ('[' :: (itemChars items ++ [']']))).quote = none := by
      change ((s.step '[').run (itemChars items ++ [']'])).quote = none
      rw [behind, Scan.run_append]
      exact Scan.quote_run_of_no_quote closedInside (by simp [Text.isQuote])
    exact ⟨⟨stays, staysList⟩, closedList⟩

end Query

/-! ## Names and values -/

/-- Whether every field of a catalog has a name that queries can write. -/
def Catalog.IsWritable (catalog : Catalog) : Prop :=
  ∀ f ∈ catalog.fields, Query.isIdentifier f.name.toList = true

theorem Kind.isIdentifier_name (kind : Kind) : Query.isIdentifier kind.name.toList = true := by
  cases kind <;> decide +kernel

theorem Catalog.isWritable_standard : Catalog.standard.IsWritable := by
  unfold IsWritable
  decide +kernel

theorem splitAtPoint_eq_some {name before after : String}
    (h : splitAtPoint name = some (before, after)) : name = before ++ "." ++ after := by
  unfold splitAtPoint at h
  split at h
  · next front rest cut =>
    cases h
    rw [List.span_eq_takeWhile_dropWhile] at cut
    obtain ⟨rfl, behind⟩ := Prod.mk.inj cut
    have whole := List.takeWhile_append_dropWhile (p := (· != '.')) (l := name.toList)
    rw [behind] at whole
    rw [← String.toList_inj]
    simpa using whole.symm
  · cases h

/-- A name that a catalog resolves is that of a field as queries write it. -/
theorem Catalog.exists_path_of_resolve {catalog : Catalog} (writable : catalog.IsWritable)
    {name : String} {field : FieldSpec} (h : catalog.resolve name = .ok field) :
    ∃ f : FieldPath, f.IsWritable ∧ f.text = name := by
  have declared := writable field (Catalog.mem_of_resolve h)
  unfold resolve at h
  split at h
  · next kind own cut =>
    split at h
    · next found =>
      cases h
      have named := List.find?_some found
      simp only [Bool.and_eq_true, beq_iff_eq] at named
      refine ⟨⟨some kind, own⟩, ⟨?_, ?_⟩, (splitAtPoint_eq_some cut).symm⟩
      · intro kind' same
        cases same
        rw [← named.1]
        exact field.kind.isIdentifier_name
      · rw [← named.2]
        exact declared
    · cases h
  · rw [resolveBare_eq] at h
    split at h
    · cases h
    · next only =>
      cases h
      have mem : field ∈ catalog.named name := by simp [only]
      have same : field.name = name := by simpa using (List.mem_filter.mp mem).2
      rw [same] at declared
      exact ⟨⟨none, name⟩, ⟨by simp, declared⟩, rfl⟩
    · cases h

theorem QuotedText.bareText_written (t : QuotedText) :
    Coercion.bareText t.written = t.text.toList := by
  rw [Coercion.bareText, written, String.toList_ofList, t.trim_chars]
  exact Text.unquote_quoted t.isQuote t.text.toList

theorem QuotedText.ofText_written (t : QuotedText) (field : String) :
    Coercion.ofText field .text t.written = .ok (.text t.text) := by
  simp [Coercion.ofText, t.bareText_written]

theorem QuotedTest.bindOperand_raw (test : QuotedTest) {field : FieldSpec}
    (isText : field.type = .text) : Predicate.bindOperand field test.raw = .ok test.operand := by
  cases test with
  | comparison c value =>
    simp only [raw, Predicate.bindOperand, isText, value.ofText_written]
    rfl
  | membership negated items =>
    have read : (items.map (·.written)).mapM (Coercion.ofText field.name .text) =
        .ok (items.map fun item => .text item.text) :=
      Results.mapM_map_eq_ok fun item _ => item.ofText_written field.name
    simp only [raw, Predicate.bindOperand, isText, read]
    rfl

namespace QuotedCondition

variable {catalog : Catalog}

/-- A written condition is a segment by itself; it is read with its quotes, and binds to what it
says. -/
theorem exists_condition (writable : catalog.IsWritable) (c : QuotedCondition catalog) :
    Query.Scan.Closes c.written.toList ∧ (∃ d ∈ c.written.toList, Text.isBlank d = false) ∧
      ∃ condition, Query.parseConditionChars c.written.toList = .ok condition ∧
        Predicate.bind catalog condition = .ok c.bound := by
  obtain ⟨f, isWritable, named⟩ := catalog.exists_path_of_resolve writable c.resolved
  have written : c.written.toList =
      Query.opening f c.test.operator ++ c.test.written.toList := by
    simp [QuotedCondition.written, Query.opening, named]
  rw [written]
  refine ⟨Query.closes_written isWritable c.test, ?_, ?_⟩
  · obtain ⟨d, rest, head, visible⟩ := Query.exists_head_text isWritable
    exact ⟨d, by simp [Query.opening, head], visible⟩
  · obtain ⟨nonempty, trimmed⟩ := Query.written_spec c.test
    refine ⟨_, Query.parseConditionChars_written isWritable nonempty trimmed
      (Query.operand_quoted c.test), ?_⟩
    simp only [Predicate.bind, named, c.resolved]
    change (Predicate.bindOperand c.field c.test.raw >>= _) = _
    rw [c.test.bindOperand_raw c.isText]
    rfl

end QuotedCondition

/-- Quoted values survive: in a catalog whose names queries can write, such as the standard one, a
conjunction of conditions on text fields compiles to just these fields, operators and texts. -/
theorem Predicate.compile_quoted :
    Catalog.standard.IsWritable ∧
      ∀ catalog : Catalog, catalog.IsWritable →
        ∀ cs : List (QuotedCondition catalog), cs ≠ [] →
          compile catalog (QuotedCondition.query cs) = .ok ⟨cs.map (·.bound)⟩ := by
  refine ⟨Catalog.isWritable_standard, ?_⟩
  intro catalog writable cs nonempty
  have parts := QuotedCondition.exists_condition writable
  choose condition read binds using fun c => (parts c).2.2
  have parsed : Query.parse (QuotedCondition.query cs) = .ok (cs.map condition) := by
    have joined : (QuotedCondition.query cs).toList =
        " & ".toList.intercalate (cs.map (·.written.toList)) := by
      simp [QuotedCondition.query, Function.comp_def]
    rw [Query.parse_join (by simpa using nonempty) ?_ ?_ joined]
    · exact Results.mapM_map_eq_ok fun c _ => read c
    · intro part mem
      obtain ⟨c, -, rfl⟩ := List.mem_map.mp mem
      exact (parts c).1
    · intro part mem
      obtain ⟨c, -, rfl⟩ := List.mem_map.mp mem
      exact (parts c).2.1
  have bound : (cs.map condition).mapM (bind catalog) = .ok (cs.map (·.bound)) :=
    Results.mapM_map_eq_ok fun c _ => binds c
  simp only [compile, parsed]
  change ((cs.map condition).mapM (bind catalog) >>= _) = _
  rw [bound]
  rfl

theorem Predicate.compile_quoted_ampersandInside :
    Catalog.standard.IsWritable ∧
      compile .standard "satellite = 'A & \"B\"' & batch in [\"it's\", '']" =
        .ok ⟨[⟨⟨.observationRecord, "satellite", .text⟩, .comparison .eq,
            .scalar (.text "A & \"B\"")⟩,
          ⟨⟨.observationRecord, "batch", .text⟩, .membership false,
            .list [.text "it's", .text ""]⟩]⟩ := by
  let satellite : QuotedCondition .standard :=
    { name := "satellite", field := ⟨.observationRecord, "satellite", .text⟩
      resolved := rfl, isText := rfl
      test := .comparison .eq ⟨'\'', "A & \"B\"", rfl, by decide⟩ }
  let batch : QuotedCondition .standard :=
    { name := "batch", field := ⟨.observationRecord, "batch", .text⟩
      resolved := rfl, isText := rfl
      test := .membership false [⟨'"', "it's", rfl, by decide⟩, ⟨'\'', "", rfl, by decide⟩] }
  have writable : Catalog.standard.IsWritable := compile_quoted.1
  have written : QuotedCondition.query [satellite, batch] =
      "satellite = 'A & \"B\"' & batch in [\"it's\", '']" := by
    decide +kernel
  refine ⟨writable, ?_⟩
  rw [← written]
  exact compile_quoted.2 .standard writable [satellite, batch] (by simp)

end SceneArchive
