import Mathlib.Data.List.Induction
import SceneArchive.Proofs.Text
import SceneArchive.Query.Parse

/-!
# Scanning whole texts

The scan that cuts a query into segments goes character by character. Here it goes text by text:
what is known behind a text, and when a text stays within its segment.

* `segmentsFrom_append`: a text that stays within its segment only moves the scan.
* `run_quoted`: behind quoted text the scan is where it was, apart from the quote behind it.
* `segments_join`: segments that close their quotes are cut where they were joined.
* `segments_cases`: every text is cut at its ampersands outside quoted text, or ends with a quote
  that is never closed.
* `segments_append_ampersand`: the text before an ampersand and the text behind it are cut apart.
-/

namespace SceneArchive.Query

variable {s scan : Scan} {q : Char} {text read rest : List Char}

namespace Scan

/-- The scan behind a character that does not end the segment. -/
def step (s : Scan) (c : Char) : Scan :=
  match s.quote with
  | some quote => s.inside quote c
  | none => s.outside c

/-- The scan behind a text. -/
def run (s : Scan) (text : List Char) : Scan := text.foldl step s

/-- Whether a text stays within the segment: every ampersand in it is inside quoted text. -/
def Stays (s : Scan) : List Char → Prop
  | [] => True
  | c :: rest => (s.quote = none → c ≠ '&') ∧ (s.step c).Stays rest

theorem run_append (s : Scan) (a b : List Char) : s.run (a ++ b) = (s.run a).run b :=
  List.foldl_append

theorem stays_append {a b : List Char} : s.Stays (a ++ b) ↔ s.Stays a ∧ (s.run a).Stays b := by
  induction a generalizing s with
  | nil => simp [Stays, run]
  | cons c a ih =>
    rw [List.cons_append]
    simp only [Stays, ih, and_assoc]
    rfl

theorem stays_of_not_mem (absent : '&' ∉ text) : s.Stays text := by
  induction text generalizing s with
  | nil => trivial
  | cons c text ih =>
    rw [List.mem_cons, not_or] at absent
    exact ⟨fun _ => Ne.symm absent.1, ih absent.2⟩

/-- Only a quote opens quoted text. -/
theorem quote_step (c : Char) :
    (s.step c).quote = s.quote ∨ (s.step c).quote = none ∨
      (Text.isQuote c = true ∧ s.opensOperand = true ∧ (s.step c).quote = some c) := by
  unfold step
  cases open? : s.quote with
  | some quote =>
    simp only [inside]
    split
    · exact .inr (.inl rfl)
    · exact .inl open?
  | none =>
    simp only [outside]
    split
    · next opens =>
      rw [Bool.and_eq_true] at opens
      exact .inr (.inr ⟨opens.1, opens.2, rfl⟩)
    · split
      · exact .inl open?
      · split <;> exact .inl open?

theorem last_step (closed : s.quote = none) (c : Char) :
    (s.step c).last = if Text.isBlank c then s.last else some c := by
  simp only [step, closed, outside]
  split
  · rfl
  · split
    · rfl
    · split <;> rfl

theorem isQuote_of_quote_run (start : ∀ q ∈ s.quote, Text.isQuote q = true) :
    ∀ q ∈ (s.run text).quote, Text.isQuote q = true := by
  induction text generalizing s with
  | nil => exact start
  | cons c text ih =>
    apply ih
    intro q hq
    rcases quote_step (s := s) c with same | closed | ⟨isQuote, -, opened⟩
    · exact start q (same ▸ hq)
    · rw [closed] at hq
      cases hq
    · rw [opened] at hq
      cases hq
      exact isQuote

/-- A text without quotes opens no quoted text. -/
theorem quote_run_of_no_quote (closed : s.quote = none)
    (absent : ∀ c ∈ text, Text.isQuote c = false) : (s.run text).quote = none := by
  induction text generalizing s with
  | nil => exact closed
  | cons c text ih =>
    refine ih ?_ fun d hd => absent d (List.mem_cons_of_mem c hd)
    rcases quote_step (s := s) c with same | none | ⟨isQuote, -, -⟩
    · rw [same, closed]
    · exact none
    · rw [absent c List.mem_cons_self] at isQuote
      cases isQuote

/-- Only brackets change the depth. -/
theorem depth_run_of_no_bracket (absent : ∀ c ∈ text, c ∉ ['[', '(', ']', ')']) :
    (s.run text).depth = s.depth := by
  induction text generalizing s with
  | nil => rfl
  | cons c text ih =>
    have bracket := absent c List.mem_cons_self
    simp only [List.mem_cons, List.not_mem_nil, or_false, not_or] at bracket
    have here : (s.step c).depth = s.depth := by
      unfold step
      split
      · unfold inside
        split <;> rfl
      · simp only [outside, Bool.or_eq_true, beq_iff_eq, bracket, or_self, if_false]
        split <;> rfl
    exact (ih fun d hd => absent d (List.mem_cons_of_mem c hd)).trans here

/-- A character that is neither blank nor a bracket is only remembered as the last one. -/
theorem step_sign (closed : s.quote = none) {c : Char} (blank : Text.isBlank c = false)
    (opens : (Text.isQuote c && s.opensOperand) = false)
    (bracket : c ∉ ['[', '(', ']', ')']) : s.step c = { s with last := some c } := by
  simp only [List.mem_cons, List.not_mem_nil, or_false, not_or] at bracket
  simp [step, closed, outside, blank, opens, bracket]

theorem step_blank (closed : s.quote = none) {c : Char} (blank : Text.isBlank c = true) :
    s.step c = s := by
  have isQuote : Text.isQuote c = false := by
    by_contra other
    rw [Text.isBlank_of_isQuote (by simpa using other)] at blank
    cases blank
  have bracket : c ∉ ['[', '(', ']', ')'] := by
    intro mem
    simp only [List.mem_cons, List.not_mem_nil, or_false] at mem
    rcases mem with rfl | rfl | rfl | rfl <;> cases blank
  simp only [List.mem_cons, List.not_mem_nil, or_false, not_or] at bracket
  obtain ⟨quote, depth, last⟩ := s
  obtain rfl : quote = none := closed
  simp [step, outside, blank, isQuote, bracket]

theorem step_space (closed : s.quote = none) : s.step ' ' = s := step_blank closed (by decide)

theorem run_blanks (closed : s.quote = none) (blank : ∀ c ∈ text, Text.isBlank c = true) :
    s.run text = s := by
  induction text with
  | nil => rfl
  | cons c text ih =>
    change (s.step c).run text = s
    rw [step_blank closed (blank c List.mem_cons_self)]
    exact ih fun d hd => blank d (List.mem_cons_of_mem c hd)

theorem step_bracket (closed : s.quote = none) :
    s.step '[' = { s with depth := s.depth + 1, last := some '[' } := by
  have blank : Text.isBlank '[' = false := by decide
  have isQuote : Text.isQuote '[' = false := by decide
  simp [step, closed, outside, blank, isQuote]

theorem run_inside (opened : s.quote = some q) (absent : q ∉ text) : s.run text = s := by
  induction text generalizing s with
  | nil => rfl
  | cons c text ih =>
    rw [List.mem_cons, not_or] at absent
    have same : s.step c = s := by
      have : (c == q) = false := by simpa using Ne.symm absent.1
      simp [step, opened, inside, this]
    change (s.step c).run text = s
    rw [same]
    exact ih opened absent.2

theorem stays_inside (opened : s.quote = some q) (absent : q ∉ text) : s.Stays text := by
  induction text generalizing s with
  | nil => trivial
  | cons c text ih =>
    rw [List.mem_cons, not_or] at absent
    have same : s.run [c] = s := run_inside opened (by simpa using absent.1)
    change s.step c = s at same
    refine ⟨fun closed => ?_, ?_⟩
    · rw [opened] at closed
      cases closed
    · rw [same]
      exact ih opened absent.2

section Quoted

variable (isQuote : Text.isQuote q = true) (absent : q ∉ text) (closed : s.quote = none)
  (opens : s.opensOperand = true)

include isQuote closed opens in
theorem step_quote : s.step q = { s with quote := some q, last := some q } := by
  have blank := Text.isBlank_of_isQuote isQuote
  simp [step, closed, outside, isQuote, opens, blank]

include isQuote absent closed opens in
/-- Behind quoted text the scan is where it was, apart from the quote behind it. -/
theorem run_quoted : s.run (q :: text ++ [q]) = { s with last := some q } := by
  rw [run_append]
  change ((s.step q).run text).step q = _
  rw [step_quote isQuote closed opens, run_inside rfl absent]
  simp [step, inside, closed]

include isQuote absent closed opens in
theorem stays_quoted : s.Stays (q :: text ++ [q]) := by
  have other : q ≠ '&' := by
    rintro rfl
    cases isQuote
  rw [List.cons_append]
  refine ⟨fun _ => other, ?_⟩
  rw [step_quote isQuote closed opens, stays_append, run_inside rfl absent]
  exact ⟨stays_inside rfl absent, fun _ => other, trivial⟩

end Quoted

end Scan

/-! ## Segments -/

theorem segmentsFrom_append (read rest : List Char) (stays : scan.Stays text) :
    segmentsFrom read scan (text ++ rest) =
      segmentsFrom (text.reverse ++ read) (scan.run text) rest := by
  induction text generalizing read scan with
  | nil => rfl
  | cons c text ih =>
    obtain ⟨noBreak, stays⟩ := stays
    have next : segmentsFrom read scan (c :: (text ++ rest)) =
        segmentsFrom (c :: read) (scan.step c) (text ++ rest) := by
      rw [segmentsFrom]
      unfold Scan.step
      cases open? : scan.quote with
      | some quote => rfl
      | none =>
        have : (c == '&') = false := by simpa using noBreak open?
        simp [this]
    rw [List.cons_append, next, ih _ stays, List.reverse_cons, List.append_assoc]
    rfl

theorem segmentsFrom_nil (closed : scan.quote = none) :
    segmentsFrom read scan [] = .ok [read.reverse] := by
  simp [segmentsFrom, closed]

theorem segmentsFrom_ampersand (closed : scan.quote = none) :
    segmentsFrom read scan ('&' :: rest) =
      (segmentsFrom [] .start rest).map (read.reverse :: ·) := by
  rw [segmentsFrom, closed]
  cases segmentsFrom [] .start rest <;> rfl

namespace Scan

/-- Whether a text is a segment by itself: it stays within one and closes its quotes. -/
def Closes (text : List Char) : Prop := start.Stays text ∧ (start.run text).quote = none

theorem Closes.space (h : Closes text) : Closes (text ++ [' ']) := by
  refine ⟨stays_append.mpr ⟨h.1, fun _ => by decide, trivial⟩, ?_⟩
  rw [run_append]
  change ((start.run text).step ' ').quote = none
  rw [step_space h.2]
  exact h.2

end Scan

theorem segments_of_closes (h : Scan.Closes text) : segments text = .ok [text] := by
  have := segmentsFrom_append [] [] h.1
  rw [List.append_nil, segmentsFrom_nil h.2] at this
  simpa [segments] using this

theorem segments_ampersand (h : Scan.Closes text) :
    segments (text ++ '&' :: rest) = (segments rest).map (text :: ·) := by
  unfold segments
  rw [segmentsFrom_append _ _ h.1, segmentsFrom_ampersand h.2]
  simp

/-- What was read before the scan stands at the beginning of the first segment. -/
theorem segmentsFrom_read (before : List Char) {first : List Char} {others : List (List Char)}
    (h : segmentsFrom read scan text = .ok (first :: others)) :
    segmentsFrom (read ++ before) scan text = .ok ((before.reverse ++ first) :: others) := by
  induction text generalizing read scan with
  | nil =>
    unfold segmentsFrom at h ⊢
    split at h
    · cases h
    · next closed =>
      cases h
      simp [closed]
  | cons c text ih =>
    unfold segmentsFrom at h ⊢
    cases open? : scan.quote with
    | some quote =>
      rw [open?] at h
      exact ih h
    | none =>
      rw [open?] at h
      by_cases ends : (c == '&') = true
      · simp only [ends, if_true] at h ⊢
        cases tail : segmentsFrom [] .start text with
        | error e =>
          rw [tail] at h
          cases h
        | ok parts =>
          rw [tail] at h
          cases h
          simp [bind, Except.bind, pure, Except.pure]
      · simp only [ends] at h ⊢
        exact ih h

theorem segments_space {first : List Char} {others : List (List Char)}
    (h : segments text = .ok (first :: others)) :
    segments (' ' :: text) = .ok ((' ' :: first) :: others) := by
  have stays : Scan.start.Stays [' '] := ⟨fun _ => by decide, trivial⟩
  have behind := segmentsFrom_append [] text stays
  have same : Scan.start.run [' '] = .start := Scan.step_space (s := .start) rfl
  rw [same] at behind
  exact behind.trans (segmentsFrom_read [' '] h)

theorem exists_of_segmentsFrom {parts : List (List Char)}
    (h : segmentsFrom read scan text = .ok parts) :
    ∃ first others, parts = (read.reverse ++ first) :: others := by
  induction text generalizing read scan with
  | nil =>
    unfold segmentsFrom at h
    split at h
    · cases h
    · cases h
      exact ⟨[], [], by simp⟩
  | cons c text ih =>
    unfold segmentsFrom at h
    split at h
    · obtain ⟨first, others, rfl⟩ := ih h
      exact ⟨c :: first, others, by simp⟩
    · split at h
      · cases tail : segmentsFrom [] .start text with
        | error e =>
          rw [tail] at h
          cases h
        | ok parts' =>
          rw [tail] at h
          cases h
          exact ⟨[], parts', by simp⟩
      · obtain ⟨first, others, rfl⟩ := ih h
        exact ⟨c :: first, others, by simp⟩

/-- A query of one segment is that segment. -/
theorem eq_of_segmentsFrom_singleton {part : List Char}
    (h : segmentsFrom read scan text = .ok [part]) : part = read.reverse ++ text := by
  induction text generalizing read scan with
  | nil =>
    unfold segmentsFrom at h
    split at h
    · cases h
    · cases h
      rw [List.append_nil]
  | cons c text ih =>
    have behind : (c :: read).reverse ++ text = read.reverse ++ c :: text := by simp
    unfold segmentsFrom at h
    split at h
    · rw [← behind]
      exact ih h
    · split at h
      · cases tail : segmentsFrom [] .start text with
        | error e =>
          rw [tail] at h
          cases h
        | ok parts =>
          rw [tail] at h
          obtain ⟨first, others, rfl⟩ := exists_of_segmentsFrom tail
          cases h
      · rw [← behind]
        exact ih h

/-- Segments that close their quotes are cut where they were joined, with the blanks beside the
ampersands left on them. -/
theorem segments_join {parts : List (List Char)} (nonempty : parts ≠ [])
    (closes : ∀ part ∈ parts, Scan.Closes part) :
    ∃ cuts, segments (" & ".toList.intercalate parts) = .ok cuts ∧
      List.Forall₂ (fun cut part => Text.trim cut = Text.trim part) cuts parts := by
  induction parts with
  | nil => exact absurd rfl nonempty
  | cons part parts ih =>
    have here := closes part List.mem_cons_self
    cases parts with
    | nil =>
      rw [List.intercalate_singleton]
      exact ⟨[part], segments_of_closes here, .cons rfl .nil⟩
    | cons next parts =>
      obtain ⟨cuts, cut, related⟩ :=
        ih (by simp) fun other mem => closes other (List.mem_cons_of_mem part mem)
      obtain ⟨first, others, rfl⟩ := exists_of_segmentsFrom cut
      rw [List.reverse_nil, List.nil_append] at cut related
      obtain ⟨same, related⟩ := List.forall₂_cons.mp related
      refine ⟨(part ++ [' ']) :: (' ' :: first) :: others, ?_, .cons ?_ (.cons ?_ related)⟩
      · have joined : " & ".toList.intercalate (part :: next :: parts) =
            (part ++ [' ']) ++ '&' :: ' ' :: " & ".toList.intercalate (next :: parts) := by
          rw [List.intercalate_cons_cons]
          simp
        rw [joined, segments_ampersand here.space, segments_space cut]
        rfl
      · exact Text.trim_concat (by decide) part
      · rw [Text.trim_cons (by decide), same]

/-! ## Where a text is cut -/

namespace Scan

/-- Whether a text is a segment with a quote that is never closed: it stands where an operand or an
item may begin, and does not occur again. -/
def IsUnclosed (text : List Char) : Prop :=
  ∃ before q behind, text = before ++ q :: behind ∧ start.Stays before ∧
    (start.run before).quote = none ∧ (start.run before).opensOperand = true ∧
      Text.isQuote q = true ∧ q ∉ behind

/-- A quote that is open behind a text was opened in it and has not occurred since. -/
theorem exists_of_quote_run (closed : s.quote = none) (opened : (s.run text).quote = some q) :
    ∃ before behind, text = before ++ q :: behind ∧ (s.run before).quote = none ∧
      (s.run before).opensOperand = true ∧ Text.isQuote q = true ∧ q ∉ behind := by
  induction text using List.reverseRecOn with
  | nil =>
    rw [run, List.foldl_nil, closed] at opened
    cases opened
  | append_singleton front c ih =>
    rw [run_append] at opened
    change ((s.run front).step c).quote = some q at opened
    cases open? : (s.run front).quote with
    | some q' =>
      simp only [step, open?, inside] at opened
      split at opened
      · cases opened
      · next other =>
        obtain rfl : q' = q := by simpa [open?] using opened
        obtain ⟨before, behind, rfl, closedBefore, opens, isQuote, absent⟩ := ih open?
        refine ⟨before, behind ++ [c], by simp, closedBefore, opens, isQuote, ?_⟩
        simp only [List.mem_append, List.mem_singleton, not_or]
        exact ⟨absent, fun same => other (by simp [same])⟩
    | none =>
      rcases quote_step (s := s.run front) c with same | none | ⟨isQuote, opens, here⟩
      · rw [same, open?] at opened
        cases opened
      · rw [none] at opened
        cases opened
      · rw [here] at opened
        cases opened
        exact ⟨front, [], rfl, open?, opens, isQuote, by simp⟩

theorem isUnclosed_iff : IsUnclosed text ↔ start.Stays text ∧ (start.run text).quote ≠ none := by
  constructor
  · rintro ⟨before, q, behind, rfl, stays, closed, opens, isQuote, absent⟩
    have opened := step_quote isQuote closed opens
    have inside : (start.run before).run (q :: behind) = (start.run before).step q :=
      run_inside (s := (start.run before).step q) (q := q) (by rw [opened]) absent
    have other : q ≠ '&' := by
      rintro rfl
      cases isQuote
    rw [stays_append, run_append, inside, opened]
    refine ⟨⟨stays, fun _ => other, ?_⟩, by simp⟩
    rw [opened]
    exact stays_inside rfl absent
  · rintro ⟨stays, opened⟩
    obtain ⟨q, open?⟩ := Option.ne_none_iff_exists'.mp opened
    obtain ⟨before, behind, rfl, facts⟩ := exists_of_quote_run (s := start) rfl open?
    exact ⟨before, q, behind, rfl, (stays_append.mp stays).1, facts⟩

/-- A text either stays within its segment or has an ampersand that ends it. -/
theorem stays_or_exists_ampersand (s : Scan) (text : List Char) :
    s.Stays text ∨ ∃ first rest, text = first ++ '&' :: rest ∧ s.Stays first ∧
      (s.run first).quote = none := by
  induction text generalizing s with
  | nil => exact .inl trivial
  | cons c text ih =>
    by_cases ends : s.quote = none ∧ c = '&'
    · exact .inr ⟨[], text, by rw [ends.2]; rfl, trivial, ends.1⟩
    · have noBreak : s.quote = none → c ≠ '&' := fun closed same => ends ⟨closed, same⟩
      rcases ih (s.step c) with stays | ⟨first, rest, rfl, stays, closed⟩
      · exact .inl ⟨noBreak, stays⟩
      · exact .inr ⟨c :: first, rest, rfl, ⟨noBreak, stays⟩, closed⟩

end Scan

theorem segments_of_isUnclosed (h : Scan.IsUnclosed text) : segments text = .error text := by
  obtain ⟨stays, opened⟩ := Scan.isUnclosed_iff.mp h
  have behind := segmentsFrom_append [] [] stays
  rw [List.append_nil] at behind
  obtain ⟨q, open?⟩ := Option.ne_none_iff_exists'.mp opened
  simp [segments, behind, segmentsFrom, open?]

/-- The segments of a text are what stands between those of its ampersands that are outside quoted
text, if no quote is left open. -/
theorem segments_cases (text : List Char) :
    (∃ parts, segments text = .ok parts ∧ parts ≠ [] ∧ (∀ part ∈ parts, Scan.Closes part) ∧
      text = ['&'].intercalate parts) ∨
    ∃ (parts : List (List Char)) (last : List Char), segments text = .error last ∧
      Scan.IsUnclosed last ∧ (∀ part ∈ parts, Scan.Closes part) ∧
        text = parts.flatMap (· ++ ['&']) ++ last := by
  induction h : text.length using Nat.strong_induction_on generalizing text with
  | _ n ih =>
    rcases Scan.stays_or_exists_ampersand .start text with stays | ⟨first, rest, rfl, closes⟩
    · by_cases closed : (Scan.start.run text).quote = none
      · refine .inl ⟨[text], segments_of_closes ⟨stays, closed⟩, by simp, ?_, by simp⟩
        simpa using ⟨stays, closed⟩
      · have opened := Scan.isUnclosed_iff.mpr ⟨stays, closed⟩
        exact .inr ⟨[], text, segments_of_isUnclosed opened, opened, by simp, by simp⟩
    · have shorter : rest.length < n := by
        simp only [List.length_append, List.length_cons] at h
        omega
      have cut : segments (first ++ '&' :: rest) = (segments rest).map (first :: ·) :=
        segments_ampersand closes
      rcases ih _ shorter rest rfl with ⟨parts, ok, nonempty, others, rfl⟩ |
          ⟨parts, last, refused, opened, others, rfl⟩
      · refine .inl ⟨first :: parts, by rw [cut, ok]; rfl, by simp, ?_, ?_⟩
        · exact List.forall_mem_cons.mpr ⟨closes, others⟩
        · obtain ⟨next, parts, rfl⟩ := List.exists_cons_of_ne_nil nonempty
          rw [List.intercalate_cons_cons]
          simp
      · refine .inr ⟨first :: parts, last, by rw [cut, refused]; rfl, opened, ?_, by simp⟩
        exact List.forall_mem_cons.mpr ⟨closes, others⟩

section Cut

variable {parts : List (List Char)}

theorem intercalate_concat (parts : List (List Char)) (last : List Char) :
    ['&'].intercalate (parts ++ [last]) = parts.flatMap (· ++ ['&']) ++ last := by
  induction parts with
  | nil => simp
  | cons part parts ih =>
    obtain ⟨next, others, h⟩ : ∃ next others, parts ++ [last] = next :: others :=
      List.exists_cons_of_ne_nil (by simp)
    rw [List.cons_append, h, List.intercalate_cons_cons, ← h, ih]
    simp

/-- Segments with an ampersand behind each are cut off one by one. -/
theorem segments_flatMap (closes : ∀ part ∈ parts, Scan.Closes part) (rest : List Char) :
    segments (parts.flatMap (· ++ ['&']) ++ rest) = (segments rest).map (parts ++ ·) := by
  induction parts with
  | nil => cases h : segments rest <;> simp [h, Except.map]
  | cons part parts ih =>
    obtain ⟨here, others⟩ := List.forall_mem_cons.mp closes
    have whole : (part :: parts).flatMap (· ++ ['&']) ++ rest =
        part ++ '&' :: (parts.flatMap (· ++ ['&']) ++ rest) := by
      simp
    rw [whole, segments_ampersand here, ih others]
    cases segments rest <;> rfl

theorem segments_eq_ok_iff :
    segments text = .ok parts ↔ parts ≠ [] ∧ (∀ part ∈ parts, Scan.Closes part) ∧
      text = ['&'].intercalate parts := by
  constructor
  · intro h
    rcases segments_cases text with ⟨parts', cut, facts⟩ | ⟨parts', last, refused, -⟩
    · rw [cut] at h
      cases h
      exact facts
    · rw [refused] at h
      cases h
  · rintro ⟨nonempty, closes, rfl⟩
    obtain ⟨front, last, rfl⟩ := (List.eq_nil_or_concat parts).resolve_left nonempty
    simp only [List.concat_eq_append, List.mem_append, List.mem_singleton] at closes
    rw [List.concat_eq_append, intercalate_concat,
      segments_flatMap fun part mem => closes part (.inl mem),
      segments_of_closes (closes last (.inr rfl))]
    rfl

theorem segments_append_ampersand (h : segments text = .ok parts) (rest : List Char) :
    segments (text ++ '&' :: rest) = (segments rest).map (parts ++ ·) := by
  obtain ⟨nonempty, closes, rfl⟩ := segments_eq_ok_iff.mp h
  obtain ⟨front, last, rfl⟩ := (List.eq_nil_or_concat parts).resolve_left nonempty
  rw [List.concat_eq_append] at closes ⊢
  rw [intercalate_concat, ← segments_flatMap closes]
  simp

end Cut

end SceneArchive.Query
