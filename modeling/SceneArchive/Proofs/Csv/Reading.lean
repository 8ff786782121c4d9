import Mathlib.Data.String.Basic
import SceneArchive.Csv

/-!
# Reading tables back

A strict reader of comma-separated values as RFC 4180 describes them, one character after the
other: a field stands between quotes or has none in it, a quote between quotes is written twice,
and a line ends with a line feed, before which a carriage return may stand. What is written line by
line is read as it was, whatever characters the fields have.

* `run_field`, `run_fields`: what a field does, and the fields of a line one after the other.
* `read?_lines`: lines of at least one field each are read back.
-/

namespace SceneArchive.Csv

/-! ## The reader -/

/-- Where a reader stands. -/
inductive Place where
  /-- In front of a field. -/
  | front
  /-- In a field without quotes. -/
  | bare (chars : List Char)
  /-- Between quotes. -/
  | quoted (chars : List Char)
  /-- Behind a quote between quotes, which either ends the field or is the first of two. -/
  | closing (chars : List Char)
  /-- Between a carriage return and the line feed. -/
  | returned

/-- The records that were read, the fields of the record that is being read, and the place. -/
structure Reader where
  records : List (List String)
  fields : List String
  place : Place

namespace Reader

/-- Ends a field before a comma or the end of the line; other characters end no field. -/
def endField (records : List (List String)) (fields : List String) (chars : List Char) (c : Char) :
    Option Reader :=
  let fields := fields ++ [String.ofList chars]
  if c = ',' then some ⟨records, fields, .front⟩
  else if c = '\n' then some ⟨records ++ [fields], [], .front⟩
  else if c = '\r' then some ⟨records, fields, .returned⟩
  else none

/-- Reads a character. -/
def step (r : Reader) (c : Char) : Option Reader :=
  match r.place with
  | .front =>
    if c = '"' then some { r with place := .quoted [] }
    else (endField r.records r.fields [] c).or (some { r with place := .bare [c] })
  | .bare chars =>
    if c = '"' then none
    else (endField r.records r.fields chars c).or (some { r with place := .bare (chars ++ [c]) })
  | .quoted chars =>
    some { r with place := if c = '"' then .closing chars else .quoted (chars ++ [c]) }
  | .closing chars =>
    if c = '"' then some { r with place := .quoted (chars ++ [c]) }
    else endField r.records r.fields chars c
  | .returned => if c = '\n' then some ⟨r.records ++ [r.fields], [], .front⟩ else none

/-- Reads some characters. -/
def run (r : Reader) (s : List Char) : Option Reader := s.foldlM step r

/-- The records at the end of the text, where the last line may have no line feed. -/
def finish (r : Reader) : Option (List (List String)) :=
  match r.place with
  | .front => some (if r.fields.isEmpty then r.records else r.records ++ [r.fields ++ [""]])
  | .bare chars | .closing chars => some (r.records ++ [r.fields ++ [String.ofList chars]])
  | .quoted _ | .returned => none

end Reader

/-- The records of a text. -/
def read? (s : String) : Option (List (List String)) :=
  (Reader.run ⟨[], [], .front⟩ s.toList).bind Reader.finish

section

open Reader

variable {records : List (List String)} {fields : List String} {r r' : Reader}
  {chars s t : List Char} {c : Char}

theorem run_append (h : run r s = some r') : run r (s ++ t) = run r' t := by
  rw [run, List.foldlM_append]
  change (run r s).bind _ = _
  rw [h]
  rfl

theorem run_cons (h : step r c = some r') : run r (c :: s) = run r' s := by
  rw [run, List.foldlM_cons, h]
  rfl

theorem run_singleton (r : Reader) (c : Char) : run r [c] = step r c := by
  rw [run, List.foldlM_cons]
  exact bind_pure _

/-! ## Fields -/

/-- Whether a character can stand outside quotes. -/
def IsPlain (c : Char) : Prop := c ≠ ',' ∧ c ≠ '"' ∧ c ≠ '\r' ∧ c ≠ '\n'

/-- Whether a character ends a field and belongs to the table. -/
def IsEnd (c : Char) : Prop := c = ',' ∨ c = '\n'

theorem IsEnd.ne_quote (h : IsEnd c) : c ≠ '"' := by
  rcases h with rfl | rfl <;> decide

theorem isSome_endField (h : IsEnd c) : (endField records fields chars c).isSome = true := by
  rcases h with rfl | rfl <;> rfl

theorem endField_of_isPlain (h : IsPlain c) : endField records fields chars c = none := by
  obtain ⟨comma, -, ret, feed⟩ := h
  rw [endField, if_neg comma, if_neg feed, if_neg ret]

theorem step_front_quote : step ⟨records, fields, .front⟩ '"' =
    some ⟨records, fields, .quoted []⟩ := rfl

theorem step_quoted_quote : step ⟨records, fields, .quoted chars⟩ '"' =
    some ⟨records, fields, .closing chars⟩ := rfl

theorem step_bare_of_isPlain (h : IsPlain c) : step ⟨records, fields, .bare chars⟩ c =
    some ⟨records, fields, .bare (chars ++ [c])⟩ := by
  rw [step]
  simp only [if_neg h.2.1, endField_of_isPlain h, Option.none_or]

theorem step_front_of_isPlain (h : IsPlain c) : step ⟨records, fields, .front⟩ c =
    some ⟨records, fields, .bare [c]⟩ := by
  rw [step]
  simp only [if_neg h.2.1, endField_of_isPlain h, Option.none_or]

theorem step_bare_of_isEnd (h : IsEnd c) : step ⟨records, fields, .bare chars⟩ c =
    endField records fields chars c := by
  rw [step]
  simp only [if_neg h.ne_quote, Option.or_of_isSome (isSome_endField h)]

theorem step_front_of_isEnd (h : IsEnd c) : step ⟨records, fields, .front⟩ c =
    endField records fields [] c := by
  rw [step]
  simp only [if_neg h.ne_quote, Option.or_of_isSome (isSome_endField h)]

theorem step_closing_of_isEnd (h : IsEnd c) : step ⟨records, fields, .closing chars⟩ c =
    endField records fields chars c := by
  rw [step]
  simp only [if_neg h.ne_quote]

theorem run_bare (plain : ∀ c ∈ s, IsPlain c) :
    run ⟨records, fields, .bare chars⟩ s = some ⟨records, fields, .bare (chars ++ s)⟩ := by
  induction s generalizing chars with
  | nil =>
    rw [List.append_nil]
    rfl
  | cons c s ih =>
    obtain ⟨first, rest⟩ := List.forall_mem_cons.mp plain
    rw [run_cons (step_bare_of_isPlain first), ih rest, List.append_assoc]
    rfl

theorem run_quoted : run ⟨records, fields, .quoted chars⟩
    (s.flatMap fun c => if c == '"' then ['"', '"'] else [c]) =
      some ⟨records, fields, .quoted (chars ++ s)⟩ := by
  induction s generalizing chars with
  | nil =>
    rw [List.append_nil]
    rfl
  | cons c s ih =>
    -- A quote is written twice and read once.
    have one : run ⟨records, fields, .quoted chars⟩ (if c == '"' then ['"', '"'] else [c]) =
        some ⟨records, fields, .quoted (chars ++ [c])⟩ := by
      by_cases quote : c = '"'
      · subst quote
        rfl
      · rw [if_neg (by simpa using quote), run_singleton, step]
        simp only [if_neg quote]
    rw [List.flatMap_cons, run_append one, ih, List.append_assoc]
    rfl

theorem run_quotedField (text : String) (ends : IsEnd c) :
    run ⟨records, fields, .front⟩ ((quoted text).toList ++ [c]) =
      endField records fields text.toList c := by
  have written : (quoted text).toList ++ [c] =
      '"' :: ((text.toList.flatMap fun c => if c == '"' then ['"', '"'] else [c]) ++
        ['"', c]) := by
    simp [quoted]
  rw [written, run_cons step_front_quote, run_append run_quoted, run_cons step_quoted_quote,
    run_singleton, step_closing_of_isEnd ends]
  rfl

theorem run_bareField {text : String} (plain : ∀ c ∈ text.toList, IsPlain c) (ends : IsEnd c) :
    run ⟨records, fields, .front⟩ (text.toList ++ [c]) =
      endField records fields text.toList c := by
  cases chars : text.toList with
  | nil => rw [List.nil_append, run_singleton, step_front_of_isEnd ends]
  | cons first rest =>
    rw [chars] at plain
    obtain ⟨plainFirst, plainRest⟩ := List.forall_mem_cons.mp plain
    rw [List.cons_append, run_cons (step_front_of_isPlain plainFirst),
      run_append (run_bare plainRest), run_singleton, step_bare_of_isEnd ends]
    rfl

theorem run_field (text : String) (ends : IsEnd c) :
    run ⟨records, fields, .front⟩ ((field text).toList ++ [c]) =
      endField records fields text.toList c := by
  rw [field]
  split
  · exact run_quotedField text ends
  · next plain =>
    refine run_bareField (fun c mem => ?_) ends
    simp only [needsQuotes, List.any_eq_true, not_exists, not_and, Bool.or_eq_true, beq_iff_eq,
      not_or] at plain
    obtain ⟨⟨⟨comma, quote⟩, ret⟩, feed⟩ := plain c mem
    exact ⟨comma, quote, ret, feed⟩

/-! ## Lines -/

theorem run_fields {texts : List String} (nonempty : texts ≠ []) :
    run ⟨records, fields, .front⟩ ((",".intercalate (texts.map field)).toList ++ ['\n']) =
      some ⟨records ++ [fields ++ texts], [], .front⟩ := by
  induction texts generalizing fields with
  | nil => exact absurd rfl nonempty
  | cons text rest ih =>
    cases rest with
    | nil =>
      rw [List.map_singleton, String.intercalate_singleton, run_field text (.inr rfl)]
      simp [endField]
    | cons next rest =>
      have split : (",".intercalate ((text :: next :: rest).map field)).toList ++ ['\n'] =
          ((field text).toList ++ [',']) ++
            ((",".intercalate ((next :: rest).map field)).toList ++ ['\n']) := by
        rw [List.map_cons, List.map_cons, String.intercalate_cons_cons]
        simp
      have first : run ⟨records, fields, .front⟩ ((field text).toList ++ [',']) =
          some ⟨records, fields ++ [text], .front⟩ := by
        rw [run_field text (.inl rfl)]
        simp [endField]
      rw [split, run_append first, ih (List.cons_ne_nil next rest), List.append_assoc]
      rfl

theorem run_line {texts : List String} (nonempty : texts ≠ []) :
    run ⟨records, [], .front⟩ (line texts).toList = some ⟨records ++ [texts], [], .front⟩ := by
  rw [line, String.toList_append]
  split
  · next single =>
    -- Without quotes the line would be empty.
    rw [beq_iff_eq.mp single]
    exact run_quotedField "" (.inr rfl)
  · exact run_fields nonempty

/-- Lines are read back as they were written. -/
theorem read?_lines {rows : List (List String)} (nonempty : ∀ texts ∈ rows, texts ≠ []) :
    read? (String.join (rows.map line)) = some rows := by
  have all : ∀ records, run ⟨records, [], .front⟩ (String.join (rows.map line)).toList =
      some ⟨records ++ rows, [], .front⟩ := by
    induction rows with
    | nil =>
      intro records
      rw [List.append_nil]
      rfl
    | cons texts rows ih =>
      intro records
      obtain ⟨first, rest⟩ := List.forall_mem_cons.mp nonempty
      rw [List.map_cons, String.join_cons, String.toList_append, run_append (run_line first),
        ih rest, List.append_assoc]
      rfl
  rw [read?, all []]
  rfl

end

end SceneArchive.Csv
