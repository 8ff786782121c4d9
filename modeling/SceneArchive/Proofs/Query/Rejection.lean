import SceneArchive.Proofs.Query.Written

/-!
# Joined and rejected queries

An ampersand outside quoted text is a clean break. A query that is read leaves nothing open, so what
comes behind it and an ampersand is read as if it stood alone, with its faults. Hence the fault of a
query tells where it is: it is that of the first condition that cannot be read, unless a quote is
never closed, which comes before every other fault.

* `parse_append_ampersand`: the conditions behind an ampersand are read apart from those before it.
* `parse_eq_error_iff`: which queries are rejected, and what their errors name.
-/

namespace SceneArchive.Query

variable {text : List Char} {parts : List (List Char)} {query q₁ q₂ : String}
  {c₁ : List Condition}

/-! ## Reading -/

theorem parse_of_blank (blank : Text.allBlank query = true) :
    parse query = .error (.query query .emptyQuery) := by
  simp [parse, blank]

theorem parse_of_unclosed (visible : Text.allBlank query = false) {last : List Char}
    (refused : segments query.toList = .error last) :
    parse query = .error (.query (String.ofList (Text.trim last)) .unterminatedValue) := by
  simp [parse, visible, refused]

theorem allBlank_ampersand : Text.allBlank (q₁ ++ "&" ++ q₂) = false :=
  allBlank_eq_false_of_mem (c := '&') (by simp) (by decide)

theorem toList_ampersand : (q₁ ++ "&" ++ q₂).toList = q₁.toList ++ '&' :: q₂.toList := by
  simp

/-- Behind a query that is read, a query is read as if it stood alone. -/
theorem parse_append_ampersand (h : parse q₁ = .ok c₁) (visible : Text.allBlank q₂ = false) :
    parse (q₁ ++ "&" ++ q₂) = (parse q₂).map (c₁ ++ ·) := by
  obtain ⟨parts₁, cut₁, read₁⟩ := exists_segments_of_parse h
  have joined := segments_append_ampersand cut₁ q₂.toList
  rw [← toList_ampersand] at joined
  cases cut₂ : segments q₂.toList with
  | error last =>
    rw [cut₂] at joined
    rw [parse_of_unclosed allBlank_ampersand joined, parse_of_unclosed visible cut₂]
    rfl
  | ok parts₂ =>
    rw [cut₂] at joined
    rw [parse_of_not_blank allBlank_ampersand joined, parse_of_not_blank visible cut₂,
      Results.mapM_append_of_eq_ok (Results.mapM_eq_ok_iff.mpr read₁)]

theorem parseConditionChars_of_blank (blank : ∀ c ∈ text, Text.isBlank c = true) :
    parseConditionChars text = .error (.query "" .emptyCondition) := by
  simp only [parseConditionChars, Text.trim_eq_nil_iff.mpr blank]
  rfl

/-- Behind a query that is read, blanks are an empty condition. -/
theorem parse_append_blank (h : parse q₁ = .ok c₁) (blank : Text.allBlank q₂ = true) :
    parse (q₁ ++ "&" ++ q₂) = .error (.query "" .emptyCondition) := by
  obtain ⟨parts₁, cut₁, read₁⟩ := exists_segments_of_parse h
  have joined := segments_append_ampersand cut₁ q₂.toList
  rw [← toList_ampersand] at joined
  have blanks : ∀ c ∈ q₂.toList, Text.isBlank c = true := List.all_eq_true.mp blank
  have stays : Scan.start.Stays q₂.toList := by
    apply Scan.stays_of_not_mem
    intro ampersand
    cases blanks '&' ampersand
  have same : Scan.start.run q₂.toList = .start := Scan.run_blanks rfl blanks
  have closes : Scan.Closes q₂.toList := ⟨stays, by rw [same]; rfl⟩
  rw [segments_of_closes closes] at joined
  rw [parse_of_not_blank allBlank_ampersand joined,
    Results.mapM_append_of_eq_ok (Results.mapM_eq_ok_iff.mpr read₁), List.mapM_cons,
    parseConditionChars_of_blank blanks]
  rfl

/-! ## Faults -/

/-- What the error of a rejected query names. Every condition in front of the place is read by
itself; a condition is shown without the blanks around it. -/
inductive Rejected (query : String) : IndexError → Prop
  /-- There is no condition at all. -/
  | blank (h : Text.allBlank query = true) : Rejected query (.query query .emptyQuery)
  /-- The text from the start of the condition in which a quote is opened and never closed. -/
  | unclosed {parts : List (List Char)} {last : List Char}
      (closes : ∀ part ∈ parts, Scan.Closes part) (opened : Scan.IsUnclosed last)
      (written : query.toList = parts.flatMap (· ++ ['&']) ++ last) :
      Rejected query (.query (String.ofList (Text.trim last)) .unterminatedValue)
  /-- The first condition that cannot be read. -/
  | condition {before behind : List (List Char)} {part : List Char} {fault : QueryFault}
      (visible : Text.allBlank query = false)
      (closes : ∀ other ∈ before ++ part :: behind, Scan.Closes other)
      (written : query.toList = ['&'].intercalate (before ++ part :: behind))
      (earlier : ∀ other ∈ before, ∃ c, parseCondition (String.ofList other) = .ok c)
      (first : parseCondition (String.ofList part) =
        .error (.query (String.ofList (Text.trim part)) fault)) :
      Rejected query (.query (String.ofList (Text.trim part)) fault)

theorem parseCondition_ofList (part : List Char) :
    parseCondition (String.ofList part) = parseConditionChars part := by
  rw [parseCondition, String.toList_ofList]

theorem exists_fault_of_parseConditionChars {part : List Char} {e : IndexError}
    (h : parseConditionChars part = .error e) :
    ∃ fault, e = .query (String.ofList (Text.trim part)) fault := by
  simp only [parseConditionChars] at h
  split at h
  · cases h
  · next fault _ =>
    cases h
    exact ⟨fault, rfl⟩

theorem Scan.IsUnclosed.exists_quote (h : Scan.IsUnclosed text) :
    ∃ q ∈ text, Text.isBlank q = false := by
  obtain ⟨before, q, behind, rfl, -, -, -, isQuote, -⟩ := h
  exact ⟨q, by simp, Text.isBlank_of_isQuote isQuote⟩

/-- A query is rejected exactly if it is blank, leaves a quote open or has a condition that cannot
be read, and the error says which. -/
theorem parse_eq_error_iff {e : IndexError} : parse query = .error e ↔ Rejected query e := by
  constructor
  · intro h
    cases visible : Text.allBlank query with
    | true =>
      rw [parse_of_blank visible] at h
      cases h
      exact .blank visible
    | false =>
      rcases segments_cases query.toList with ⟨parts, cut, -, closes, written⟩ |
          ⟨parts, last, refused, opened, closes, written⟩
      · rw [parse_of_not_blank visible cut, Results.mapM_eq_error_iff] at h
        obtain ⟨before, part, behind, rfl, earlier, failed⟩ := h
        obtain ⟨fault, rfl⟩ := exists_fault_of_parseConditionChars failed
        simp only [← parseCondition_ofList] at earlier failed
        exact .condition visible closes written earlier failed
      · rw [parse_of_unclosed visible refused] at h
        cases h
        exact .unclosed closes opened written
  · intro h
    cases h with
    | blank h => exact parse_of_blank h
    | unclosed closes opened written =>
      obtain ⟨q, mem, visible⟩ := opened.exists_quote
      have refused := segments_flatMap closes _ |>.trans
        (congrArg _ (segments_of_isUnclosed opened))
      rw [← written] at refused
      exact parse_of_unclosed
        (allBlank_eq_false_of_mem (by rw [written]; exact List.mem_append_right _ mem) visible)
        refused
    | @condition before behind part fault visible closes written earlier first =>
      have cut : segments query.toList = .ok (before ++ part :: behind) :=
        segments_eq_ok_iff.mpr ⟨by simp, closes, written⟩
      simp only [parseCondition_ofList] at earlier first
      rw [parse_of_not_blank visible cut, Results.mapM_eq_error_iff]
      exact ⟨before, part, behind, rfl, earlier, first⟩

theorem Rejected.exists_fault {e : IndexError} (h : Rejected query e) :
    ∃ segment fault, e = .query segment fault := by
  cases h <;> exact ⟨_, _, rfl⟩

/-- Queries joined by an ampersand are read as the one and then the other. If the second cannot be
read, the whole cannot either, with the same error unless the second is blank, and what the error
names is given by `Rejected`. -/
theorem parse_ampersand :
    (∀ (q₁ q₂ : String) (c₁ : List Condition), parse q₁ = .ok c₁ →
      (∀ c₂, parse q₂ = .ok c₂ → parse (q₁ ++ "&" ++ q₂) = .ok (c₁ ++ c₂)) ∧
      ∀ e, parse q₂ = .error e → ∃ segment fault,
        parse (q₁ ++ "&" ++ q₂) = .error (.query segment fault) ∧
          (Text.allBlank q₂ = false → e = .query segment fault)) ∧
    ∀ (query : String) (e : IndexError), parse query = .error e ↔ Rejected query e := by
  refine ⟨fun q₁ q₂ c₁ h₁ => ⟨fun c₂ h₂ => ?_, fun e h₂ => ?_⟩, fun _ _ => parse_eq_error_iff⟩
  · have visible : Text.allBlank q₂ = false := by
      by_contra blank
      rw [parse_of_blank (by simpa using blank)] at h₂
      cases h₂
    rw [parse_append_ampersand h₁ visible, h₂]
    rfl
  · cases visible : Text.allBlank q₂ with
    | true => exact ⟨_, _, parse_append_blank h₁ visible, by simp⟩
    | false =>
      obtain ⟨segment, fault, rfl⟩ := (parse_eq_error_iff.mp h₂).exists_fault
      refine ⟨segment, fault, ?_, fun _ => rfl⟩
      rw [parse_append_ampersand h₁ visible, h₂]
      rfl

/-- The bracket that the first condition leaves open does not make the comma of the second one
separate items, so its quote is an ordinary character and the second condition is the fault. -/
theorem parse_ampersand_openBracket :
    parse "batch = (a" = .ok [⟨"batch = (a", ⟨none, "batch"⟩, .comparison .eq, .scalar "(a"⟩] ∧
    parse "b,'c = 1" = .error (.query "b,'c = 1" .expectedOperator) ∧
    parse ("batch = (a" ++ "&" ++ "b,'c = 1") = .error (.query "b,'c = 1" .expectedOperator) := by
  have read : parse "batch = (a" =
      .ok [⟨"batch = (a", ⟨none, "batch"⟩, .comparison .eq, .scalar "(a"⟩] := by
    rfl
  have refused : parse "b,'c = 1" = .error (.query "b,'c = 1" .expectedOperator) := by
    rfl
  obtain ⟨segment, fault, joined, same⟩ :=
    (parse_ampersand.1 "batch = (a" "b,'c = 1" _ read).2 _ refused
  exact ⟨read, refused, same (by decide) ▸ joined⟩

end SceneArchive.Query
