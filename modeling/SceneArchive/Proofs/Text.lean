import Mathlib.Data.List.TakeDrop
import Mathlib.Data.List.TakeWhile
import SceneArchive.Text.Blank
import SceneArchive.Text.Quoted

/-!
# Trimming and maximal runs

Readers take the longest run of characters of a class, and look at texts without the blanks
around them.

* `span_append`, `span_eq_iff`: a run ends where the class does.
* `trim_eq_self_iff`: what is left alone by trimming.
* `trim_cons`, `trim_concat`: a blank on either side makes no difference.
-/

namespace SceneArchive.Text

/-! ## Maximal runs -/

theorem span_append {p : Char → Bool} {run rest : List Char} (all : ∀ c ∈ run, p c = true)
    (stop : ∀ c ∈ rest.head?, p c = false) : (run ++ rest).span p = (run, rest) := by
  rw [List.span_eq_takeWhile_dropWhile, List.takeWhile_append_of_pos all,
    List.dropWhile_append_of_pos all]
  cases rest with
  | nil => simp
  | cons c rest =>
    have := stop c rfl
    simp [this]

theorem span_eq_iff {p : Char → Bool} {s run rest : List Char} :
    s.span p = (run, rest) ↔
      s = run ++ rest ∧ (∀ c ∈ run, p c = true) ∧ ∀ c ∈ rest.head?, p c = false := by
  constructor
  · intro h
    rw [List.span_eq_takeWhile_dropWhile] at h
    obtain ⟨rfl, rfl⟩ := Prod.mk.inj h
    refine ⟨List.takeWhile_append_dropWhile.symm, fun c hc => List.mem_takeWhile_imp hc, ?_⟩
    intro c hc
    have := List.head?_dropWhile_not p s
    rw [hc] at this
    simpa using this
  · rintro ⟨rfl, all, stop⟩
    exact span_append all stop

/-- Everything up to the first quote of one sort. -/
theorem span_until {q : Char} {text : List Char} (absent : q ∉ text) (rest : List Char) :
    (text ++ q :: rest).span (· != q) = (text, q :: rest) := by
  apply span_append
  · intro c hc
    have : c ≠ q := fun same => absent (same ▸ hc)
    simpa using this
  · simp

theorem span_absent {q : Char} {text : List Char} (absent : q ∉ text) :
    text.span (· != q) = (text, []) := by
  refine span_eq_iff.mpr ⟨(List.append_nil _).symm, fun c hc => ?_, by simp⟩
  rw [bne_iff_ne]
  rintro rfl
  exact absent hc

/-! ## Trimming -/

theorem isQuote_iff {c : Char} : isQuote c = true ↔ c = '\'' ∨ c = '"' := by
  simp [isQuote]

theorem isBlank_of_isQuote {c : Char} (h : isQuote c = true) : isBlank c = false := by
  rcases isQuote_iff.mp h with rfl | rfl <;> decide

theorem length_trimEnd_le (s : List Char) : (trimEnd s).length ≤ s.length := by
  have := (List.dropWhile_sublist isBlank (l := s.reverse)).length_le
  simpa [trimEnd] using this

theorem length_trimStart_le (s : List Char) : (trimStart s).length ≤ s.length :=
  (List.dropWhile_sublist isBlank (l := s)).length_le

theorem trimEnd_prefix (s : List Char) : trimEnd s <+: s := by
  have := List.reverse_prefix.mpr (List.dropWhile_suffix isBlank (l := s.reverse))
  rwa [List.reverse_reverse] at this

theorem trimStart_append {blanks : List Char} (blank : ∀ c ∈ blanks, isBlank c = true)
    (s : List Char) : trimStart (blanks ++ s) = trimStart s :=
  List.dropWhile_append_of_pos blank

theorem trim_append {blanks : List Char} (blank : ∀ c ∈ blanks, isBlank c = true)
    (s : List Char) : trim (blanks ++ s) = trim s := by
  rw [trim, trimStart_append blank, trim]

/-- The blanks that trimming takes away at the start. -/
theorem exists_blanks_trimStart (s : List Char) :
    ∃ blanks, s = blanks ++ trimStart s ∧ ∀ c ∈ blanks, isBlank c = true :=
  ⟨s.takeWhile isBlank, List.takeWhile_append_dropWhile.symm, fun _ => List.mem_takeWhile_imp⟩

theorem isBlank_head_trimStart (s : List Char) :
    ∀ c ∈ (trimStart s).head?, isBlank c = false := by
  intro c hc
  have := List.head?_dropWhile_not isBlank s
  rw [trimStart] at hc
  rw [hc] at this
  simpa using this

theorem trim_cons {b : Char} (blank : isBlank b = true) (s : List Char) :
    trim (b :: s) = trim s := by
  simp [trim, trimStart, blank]

theorem trim_concat {b : Char} (blank : isBlank b = true) (s : List Char) :
    trim (s ++ [b]) = trim s := by
  unfold trim trimStart
  rw [List.dropWhile_append]
  split
  · next empty =>
    rw [List.isEmpty_iff.mp empty]
    simp [blank]
  · simp [trimEnd, blank]

theorem trim_append_blanks (s : List Char) {blanks : List Char}
    (blank : ∀ c ∈ blanks, isBlank c = true) : trim (s ++ blanks) = trim s := by
  induction blanks generalizing s with
  | nil => rw [List.append_nil]
  | cons b blanks ih =>
    have split : s ++ b :: blanks = s ++ [b] ++ blanks := by simp
    rw [split, ih _ fun c hc => blank c (List.mem_cons_of_mem b hc),
      trim_concat (blank b List.mem_cons_self)]

theorem trimStart_of_visible {s : List Char} (first : ∀ c ∈ s.head?, isBlank c = false) :
    trimStart s = s :=
  dropWhile_eq_self first

theorem trimEnd_append {b : List Char} (kept : trimEnd b ≠ []) (a : List Char) :
    trimEnd (a ++ b) = a ++ trimEnd b := by
  unfold trimEnd at kept ⊢
  rw [List.reverse_append, List.dropWhile_append]
  split
  · next empty =>
    rw [List.isEmpty_iff.mp empty] at kept
    exact absurd rfl kept
  · rw [List.reverse_append, List.reverse_reverse]

/-- Behind a text that ends visibly, trimming at the end takes away nothing of the text. -/
theorem trimEnd_append_of_visible {a : List Char} (last : ∀ c ∈ a.getLast?, isBlank c = false)
    (b : List Char) : trimEnd (a ++ b) = a ++ trimEnd b := by
  by_cases kept : trimEnd b = []
  · have blank : b.reverse.dropWhile isBlank = [] := List.reverse_eq_nil_iff.mp kept
    rw [kept, List.append_nil]
    simp only [trimEnd, List.reverse_append, List.dropWhile_append, blank, List.isEmpty_nil,
      if_true]
    rw [dropWhile_eq_self (by simpa using last), List.reverse_reverse]
  · exact trimEnd_append kept a

theorem exists_blanks_trimEnd (s : List Char) :
    ∃ blanks, s = trimEnd s ++ blanks ∧ ∀ c ∈ blanks, isBlank c = true := by
  refine ⟨(s.reverse.takeWhile isBlank).reverse, ?_, fun c hc => ?_⟩
  · rw [trimEnd, ← List.reverse_append, List.takeWhile_append_dropWhile, List.reverse_reverse]
  · exact List.mem_takeWhile_imp (List.mem_reverse.mp hc)

/-- Trimming takes no character away that can be seen. -/
theorem mem_trimEnd {s : List Char} {c : Char} (mem : c ∈ s) (visible : isBlank c = false) :
    c ∈ trimEnd s := by
  rw [trimEnd, List.mem_reverse]
  have split := List.takeWhile_append_dropWhile (p := isBlank) (l := s.reverse)
  have mem : c ∈ s.reverse.takeWhile isBlank ++ s.reverse.dropWhile isBlank := by
    rw [split, List.mem_reverse]
    exact mem
  rcases List.mem_append.mp mem with blank | kept
  · have := List.mem_takeWhile_imp blank
    rw [visible] at this
    cases this
  · exact kept

theorem mem_trim {s : List Char} {c : Char} (mem : c ∈ s) (visible : isBlank c = false) :
    c ∈ trim s := by
  obtain ⟨blanks, whole, blank⟩ := exists_blanks_trimStart s
  rw [whole] at mem
  rcases List.mem_append.mp mem with hc | hc
  · rw [blank c hc] at visible
    cases visible
  · exact mem_trimEnd hc visible

theorem isBlank_getLast_trimEnd (s : List Char) :
    ∀ c ∈ (trimEnd s).getLast?, isBlank c = false := by
  intro c hc
  rw [trimEnd, List.getLast?_reverse] at hc
  have := List.head?_dropWhile_not isBlank s.reverse
  rw [hc] at this
  simpa using this

theorem trimStart_eq_nil_iff {s : List Char} :
    trimStart s = [] ↔ ∀ c ∈ s, isBlank c = true :=
  List.dropWhile_eq_nil_iff

theorem trim_eq_nil_iff {s : List Char} : trim s = [] ↔ ∀ c ∈ s, isBlank c = true := by
  rw [← trimStart_eq_nil_iff]
  constructor
  · intro empty
    by_contra visible
    obtain ⟨c, rest, h⟩ := List.exists_cons_of_ne_nil visible
    have blank : isBlank c = false := isBlank_head_trimStart s c (by simp [h])
    have kept : c ∈ trim s := mem_trimEnd (by simp [h]) blank
    rw [empty] at kept
    cases kept
  · intro empty
    rw [trim, empty]
    rfl

theorem trimStart_ne_nil_of_visible {s : List Char} (visible : ∃ c ∈ s, isBlank c = false) :
    trimStart s ≠ [] := by
  obtain ⟨c, mem, seen⟩ := visible
  intro empty
  rw [trimStart_eq_nil_iff.mp empty c mem] at seen
  cases seen

theorem trimStart_append_of_visible {s : List Char} (visible : ∃ c ∈ s, isBlank c = false)
    (t : List Char) : trimStart (s ++ t) = trimStart s ++ t := by
  have nonempty : (s.dropWhile isBlank).isEmpty = false :=
    List.isEmpty_eq_false_iff.mpr (trimStart_ne_nil_of_visible visible)
  rw [trimStart, List.dropWhile_append, nonempty]
  rfl

theorem mem_of_mem_trimStart {s : List Char} {c : Char} (mem : c ∈ trimStart s) : c ∈ s :=
  (List.dropWhile_sublist isBlank).subset mem

/-- The first character that can be seen in two texts is in the first one if any is. -/
theorem mem_of_trimStart_append {s t rest : List Char} {c : Char}
    (visible : ∃ d ∈ s, isBlank d = false) (start : trimStart (s ++ t) = c :: rest) : c ∈ s := by
  rw [trimStart_append_of_visible visible] at start
  obtain ⟨d, others, h⟩ := List.exists_cons_of_ne_nil (trimStart_ne_nil_of_visible visible)
  rw [h] at start
  cases start
  exact mem_of_mem_trimStart (h ▸ List.mem_cons_self)

theorem trim_trimStart (s : List Char) : trim (trimStart s) = trim s := by
  obtain ⟨blanks, whole, blank⟩ := exists_blanks_trimStart s
  conv_rhs => rw [whole, trim_append blank]

/-- Trimming leaves exactly those texts alone that neither begin nor end with a blank. -/
theorem trim_eq_self_iff {s : List Char} :
    trim s = s ↔ (∀ c ∈ s.head?, isBlank c = false) ∧ ∀ c ∈ s.getLast?, isBlank c = false := by
  refine ⟨?_, fun ends => trim_of_isBlank_eq_false ends.1 ends.2⟩
  intro same
  have length := congrArg List.length same
  refine ⟨?_, ?_⟩
  · intro c hc
    by_contra blank
    obtain ⟨rest, rfl⟩ := List.head?_eq_some_iff.mp hc
    rw [trim_cons (by simpa using blank)] at length
    have := Nat.le_trans (length_trimEnd_le (trimStart rest)) (length_trimStart_le rest)
    simp only [List.length_cons] at length
    unfold trim at length
    omega
  · intro c hc
    by_contra blank
    obtain ⟨front, rfl⟩ := List.getLast?_eq_some_iff.mp hc
    rw [trim_concat (by simpa using blank)] at length
    have := Nat.le_trans (length_trimEnd_le (trimStart front)) (length_trimStart_le front)
    simp only [List.length_append, List.length_singleton] at length
    unfold trim at length
    omega

theorem trim_trimEnd (s : List Char) : trim (trimEnd s) = trim s := by
  obtain ⟨blanks, whole, blank⟩ := exists_blanks_trimEnd s
  conv_rhs => rw [whole, trim_append_blanks _ blank]

/-- A text is what trimming leaves of it, between blanks. -/
theorem exists_blanks_trim (s : List Char) :
    ∃ before after, s = before ++ (trim s ++ after) ∧ (∀ c ∈ before, isBlank c = true) ∧
      ∀ c ∈ after, isBlank c = true := by
  obtain ⟨before, hBefore, blankBefore⟩ := exists_blanks_trimStart s
  obtain ⟨after, hAfter, blankAfter⟩ := exists_blanks_trimEnd (trimStart s)
  exact ⟨before, after, hAfter ▸ hBefore, blankBefore, blankAfter⟩

theorem trim_trim (s : List Char) : trim (trim s) = trim s := by
  refine trim_eq_self_iff.mpr ⟨fun c hc => ?_, isBlank_getLast_trimEnd (trimStart s)⟩
  obtain ⟨blanks, whole⟩ := trimEnd_prefix (trimStart s)
  refine isBlank_head_trimStart s c ?_
  have first : (trimEnd (trimStart s)).head? = some c := hc
  rw [← whole, List.head?_append, first]
  rfl

theorem mem_of_mem_trim {s : List Char} {c : Char} (mem : c ∈ trim s) : c ∈ s := by
  obtain ⟨before, after, whole, -⟩ := exists_blanks_trim s
  rw [whole]
  exact List.mem_append_right _ (List.mem_append_left _ mem)

/-- Trimming does not see a change of characters that keeps the blanks apart from the others. -/
theorem trim_map {f : Char → Char} (h : ∀ c, isBlank (f c) = isBlank c) (s : List Char) :
    trim (s.map f) = (trim s).map f := by
  have same : isBlank ∘ f = isBlank := funext h
  simp only [trim, trimEnd, trimStart, List.dropWhile_map, ← List.map_reverse, same]

/-! ## Quotes -/

/-- Either there is nothing to unquote, or it is between two equal quotes. -/
theorem unquote_cases (s : List Char) :
    unquote s = s ∨ ∃ q, isQuote q = true ∧ s = q :: unquote s ++ [q] := by
  unfold unquote
  split
  · next first second rest =>
    split
    · next quoted =>
      simp only [Bool.and_eq_true, beq_iff_eq] at quoted
      obtain ⟨front, whole⟩ := List.getLast?_eq_some_iff.mp quoted.2
      refine .inr ⟨first, quoted.1, ?_⟩
      rw [whole, List.dropLast_concat]
      rfl
    · exact .inl rfl
  · exact .inl rfl

theorem mem_of_mem_unquote {s : List Char} {c : Char} (mem : c ∈ unquote s) : c ∈ s := by
  rcases unquote_cases s with same | ⟨q, -, whole⟩
  · rwa [← same]
  · rw [whole]
    exact List.mem_append_left _ (List.mem_cons_of_mem _ mem)

/-- A change of characters that neither makes nor touches quotes may come before or after. -/
theorem unquote_map {f : Char → Char} (h : ∀ c q, isQuote q = true → (f c = q ↔ c = q))
    (s : List Char) : unquote (s.map f) = (unquote s).map f := by
  rcases s with _ | ⟨first, _ | ⟨second, rest⟩⟩
  · rfl
  · rfl
  · have paired : (isQuote (f first) && ((second :: rest).map f).getLast? == some (f first)) =
        (isQuote first && (second :: rest).getLast? == some first) := by
      by_cases quote : isQuote first = true
      · have fixed : f first = first := (h first first quote).mpr rfl
        rw [fixed, List.getLast?_map, Bool.eq_iff_iff]
        simp [h _ _ quote]
      · have other : ¬ isQuote (f first) = true := by
          intro quote'
          rw [← (h first (f first) quote').mp rfl] at quote'
          exact quote quote'
        simp [quote, other]
    simp only [List.map_cons] at paired ⊢
    simp only [unquote, paired]
    split
    · simp [List.map_dropLast]
    · rfl

end SceneArchive.Text
