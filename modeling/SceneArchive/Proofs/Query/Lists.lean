import SceneArchive.Proofs.Results
import SceneArchive.Proofs.Text
import SceneArchive.Query.LiteralList

/-!
# Written lists

The grammar of literal lists and the reader of lists agree. Items are separated by commas, blanks
around them do not matter, and one comma may stand behind the last item. An item is text between two
equal quotes that do not occur in it, or a run that has something to be seen in it and no comma,
quote or bracket.

* `firstItem_eq_ok_iff`: what a single item is read from, and where the reader goes on.
* `itemsWithin_eq_ok_iff`: the items between the brackets.
* `literalItems_eq_ok_iff`: the reader accepts just the lists, with just their items.
* `parseLiteralList_grammar`: the same for texts, with the items side by side.
-/

namespace SceneArchive

/-- Text between two equal quotes that do not occur in it. -/
structure QuotedText where
  quote : Char
  text : String
  isQuote : Text.isQuote quote = true
  absent : quote ∉ text.toList

namespace QuotedText

/-- The characters of the text and of its quotes. -/
def chars (t : QuotedText) : List Char := t.quote :: t.text.toList ++ [t.quote]

def written (t : QuotedText) : String := String.ofList t.chars

theorem trim_chars (t : QuotedText) : Text.trim t.chars = t.chars := by
  refine Text.trim_eq_self_iff.mpr ⟨?_, ?_⟩
  · intro c hc
    cases hc
    exact Text.isBlank_of_isQuote t.isQuote
  · intro c hc
    rw [chars, List.getLast?_concat] at hc
    cases hc
    exact Text.isBlank_of_isQuote t.isQuote

end QuotedText

namespace Query

/-- An item of a list with the blanks around it. -/
inductive ItemText : List Char → String → Prop
  | quoted (t : QuotedText) {before after : List Char}
      (blankBefore : ∀ c ∈ before, Text.isBlank c = true)
      (blankAfter : ∀ c ∈ after, Text.isBlank c = true) :
      ItemText (before ++ (t.chars ++ after)) t.written
  | bare {s : List Char} (visible : ∃ c ∈ s, Text.isBlank c = false)
      (plain : ∀ c ∈ s, c ≠ ',' ∧ breaksItem c = false) :
      ItemText s (String.ofList (Text.trim s))

/-- Items with a comma behind each, which may be missing behind the last one. -/
inductive ItemsText : List Char → List String → Prop
  | none {s : List Char} (blank : ∀ c ∈ s, Text.isBlank c = true) : ItemsText s []
  | last {s : List Char} {item : String} (h : ItemText s item) : ItemsText s [item]
  | cons {s rest : List Char} {item : String} {items : List String} (h : ItemText s item)
      (others : ItemsText rest items) : ItemsText (s ++ ',' :: rest) (item :: items)

/-- A list between square or round brackets. -/
inductive ListText : List Char → List String → Prop
  | square {inner : List Char} {items : List String} (h : ItemsText inner items) :
      ListText ('[' :: inner ++ [']']) items
  | round {inner : List Char} {items : List String} (h : ItemsText inner items) :
      ListText ('(' :: inner ++ [')']) items

variable {s rest text : List Char} {item : String} {items : List String}
  {more : Option (List Char)}

/-! ## Blanks before an item -/

theorem itemText_quoted (t : QuotedText) : ItemText t.chars t.written := by
  have noBlank : ∀ c ∈ ([] : List Char), Text.isBlank c = true := fun c hc => by cases hc
  simpa using ItemText.quoted t noBlank noBlank

theorem not_breaksItem_of_isBlank {c : Char} (blank : Text.isBlank c = true) :
    c ≠ ',' ∧ breaksItem c = false := by
  refine ⟨?_, ?_⟩
  · rintro rfl
    cases blank
  · by_contra breaks
    simp only [breaksItem, Text.isQuote, Bool.not_eq_false, Bool.or_eq_true, beq_iff_eq] at breaks
    rcases breaks with ((((rfl | rfl) | rfl) | rfl) | rfl) | rfl <;> cases blank

theorem ItemText.cons_blank {b : Char} (blank : Text.isBlank b = true) (h : ItemText s item) :
    ItemText (b :: s) item := by
  cases h with
  | quoted t blankBefore blankAfter =>
    exact .quoted t (List.forall_mem_cons.mpr ⟨blank, blankBefore⟩) blankAfter
  | bare visible plain =>
    obtain ⟨c, mem, seen⟩ := visible
    rw [← Text.trim_cons blank]
    exact .bare ⟨c, List.mem_cons_of_mem b mem, seen⟩
      (List.forall_mem_cons.mpr ⟨not_breaksItem_of_isBlank blank, plain⟩)

theorem ItemsText.cons_blank {b : Char} (blank : Text.isBlank b = true) (h : ItemsText s items) :
    ItemsText (b :: s) items := by
  cases h with
  | none blanks => exact .none (List.forall_mem_cons.mpr ⟨blank, blanks⟩)
  | last h => exact .last (h.cons_blank blank)
  | cons h others => exact .cons (h.cons_blank blank) others

/-! ## Reading one item -/

/-- What stands behind an item: nothing, or a comma and what follows it. -/
def behindItem : Option (List Char) → List Char
  | none => []
  | some rest => ',' :: rest

/-- Behind a quoted item there is nothing but blanks, or a comma comes next. -/
theorem afterItem_eq_ok_iff :
    afterItem s = .ok more ↔
      ∃ after, (∀ c ∈ after, Text.isBlank c = true) ∧ s = after ++ behindItem more := by
  obtain ⟨blanks, whole, blank⟩ := Text.exists_blanks_trimStart s
  constructor
  · intro h
    refine ⟨blanks, blank, ?_⟩
    unfold afterItem at h
    split at h
    · next nothing =>
      cases h
      rwa [nothing] at whole
    · next rest comma =>
      cases h
      rwa [comma] at whole
    · cases h
  · rintro ⟨after, blank, rfl⟩
    rw [afterItem, Text.trimStart_append blank]
    cases more <;> rfl

theorem quotedItem_eq_ok_iff {q : Char} (isQuote : Text.isQuote q = true) :
    quotedItem q s = .ok (item, more) ↔
      ∃ (t : QuotedText) (after : List Char), (∀ c ∈ after, Text.isBlank c = true) ∧
        t.written = item ∧ q :: s = t.chars ++ (after ++ behindItem more) := by
  constructor
  · intro h
    unfold quotedItem at h
    split at h
    · cases h
    · next text q' rest run =>
      obtain ⟨whole, inside, stop⟩ := Text.span_eq_iff.mp run
      obtain rfl : q' = q := by simpa using stop q' rfl
      obtain ⟨more', hMore, given⟩ := Results.bind_eq_ok_iff.mp h
      cases given
      obtain ⟨after, blank, rfl⟩ := afterItem_eq_ok_iff.mp hMore
      have absent : q' ∉ text := fun mem => by simpa using inside q' mem
      refine ⟨⟨q', String.ofList text, isQuote, by simpa using absent⟩, after, blank, ?_, ?_⟩
      · simp [QuotedText.written, QuotedText.chars]
      · simp [whole, QuotedText.chars]
  · rintro ⟨t, after, blank, rfl, whole⟩
    simp only [QuotedText.chars, List.cons_append, List.append_assoc] at whole
    obtain ⟨rfl, rfl⟩ := List.cons.inj whole
    have read : afterItem (after ++ behindItem more) = .ok more :=
      afterItem_eq_ok_iff.mpr ⟨after, blank, rfl⟩
    simp only [quotedItem, List.cons_append, List.nil_append, Text.span_until t.absent, read]
    rfl

theorem bareItem_eq_ok_iff :
    bareItem s = .ok (item, more) ↔
      ∃ text, (∀ c ∈ text, c ≠ ',' ∧ breaksItem c = false) ∧
        String.ofList (Text.trim text) = item ∧ s = text ++ behindItem more := by
  let p (c : Char) : Bool := c != ',' && !breaksItem c
  have inside (c : Char) : p c = true ↔ c ≠ ',' ∧ breaksItem c = false := by simp [p]
  constructor
  · intro h
    rcases run : s.span p with ⟨text, rest⟩
    obtain ⟨whole, plain, -⟩ := Text.span_eq_iff.mp run
    refine ⟨text, fun c hc => (inside c).mp (plain c hc), ?_⟩
    simp only [bareItem] at h
    rw [run] at h
    split at h
    · next nothing =>
      cases h
      obtain rfl : rest = [] := nothing
      exact ⟨rfl, whole⟩
    · next behind comma =>
      cases h
      obtain rfl : rest = ',' :: behind := comma
      exact ⟨rfl, whole⟩
    · cases h
  · rintro ⟨text, plain, rfl, rfl⟩
    have run : (text ++ behindItem more).span p = (text, behindItem more) := by
      apply Text.span_append fun c hc => (inside c).mpr (plain c hc)
      intro c hc
      cases more with
      | none => cases hc
      | some rest =>
        cases hc
        rfl
    simp only [bareItem]
    rw [run]
    cases more <;> rfl

theorem ItemText.exists_visible (h : ItemText text item) :
    ∃ c ∈ text, Text.isBlank c = false := by
  cases h with
  | quoted t _ _ =>
    exact ⟨t.quote, by simp [QuotedText.chars], Text.isBlank_of_isQuote t.isQuote⟩
  | bare visible _ => exact visible

theorem trimStart_quoted (t : QuotedText) {before : List Char}
    (blank : ∀ c ∈ before, Text.isBlank c = true) (behind : List Char) :
    Text.trimStart (before ++ (t.chars ++ behind)) = t.chars ++ behind := by
  rw [Text.trimStart_append blank]
  refine Text.trimStart_of_visible fun c hc => ?_
  cases hc
  exact Text.isBlank_of_isQuote t.isQuote

/-- The first character of an item that can be seen is no comma. -/
theorem ItemText.head_ne_comma (h : ItemText text item) {behind rest : List Char} {c : Char}
    (start : Text.trimStart (text ++ behind) = c :: rest) : c ≠ ',' := by
  cases h with
  | quoted t blankBefore _ =>
    rw [List.append_assoc, List.append_assoc, trimStart_quoted t blankBefore] at start
    cases start
    intro comma
    have := t.isQuote
    rw [comma] at this
    cases this
  | bare visible plain => exact (plain c (Text.mem_of_trimStart_append visible start)).1

/-- The reader of a single item takes just the items, with the blanks around them. -/
theorem firstItem_eq_ok_iff {c : Char} (start : Text.trimStart s = c :: rest) (noComma : c ≠ ',') :
    firstItem c rest = .ok (item, more) ↔
      ∃ text, ItemText text item ∧ s = text ++ behindItem more := by
  obtain ⟨blanks, whole, blank⟩ := Text.exists_blanks_trimStart s
  rw [start] at whole
  constructor
  · intro h
    unfold firstItem at h
    split at h
    · next isQuote =>
      obtain ⟨t, after, blankAfter, rfl, read⟩ := (quotedItem_eq_ok_iff isQuote).mp h
      exact ⟨_, .quoted t blank blankAfter, by simp [whole, read]⟩
    · obtain ⟨text, plain, rfl, read⟩ := bareItem_eq_ok_iff.mp h
      have mem : c ∈ text := by
        cases text with
        | nil =>
          cases more with
          | none => cases read
          | some _ => exact absurd (List.cons.inj read).1 noComma
        | cons d text =>
          obtain ⟨rfl, -⟩ := List.cons.inj read
          exact List.mem_cons_self
      refine ⟨blanks ++ text, ?_, by rw [whole, read, List.append_assoc]⟩
      have visible : Text.isBlank c = false := Text.isBlank_head_trimStart s c (by simp [start])
      rw [← Text.trim_append blank]
      refine .bare ⟨c, List.mem_append_right _ mem, visible⟩ fun d hd => ?_
      rcases List.mem_append.mp hd with hd | hd
      · exact not_breaksItem_of_isBlank (blank d hd)
      · exact plain d hd
  · rintro ⟨text, h, rfl⟩
    cases h with
    | quoted t blankBefore blankAfter =>
      rw [List.append_assoc, List.append_assoc, trimStart_quoted t blankBefore] at start
      have isQuote : Text.isQuote c = true := by
        cases start
        exact t.isQuote
      rw [firstItem, if_pos isQuote]
      exact (quotedItem_eq_ok_iff isQuote).mpr ⟨t, _, blankAfter, rfl, start.symm⟩
    | bare visible plain =>
      have noQuote : ¬ Text.isQuote c = true := by
        have := (plain c (Text.mem_of_trimStart_append visible start)).2
        simp only [breaksItem, Bool.or_eq_false_iff] at this
        simp [this]
      rw [Text.trimStart_append_of_visible visible] at start
      rw [firstItem, if_neg noQuote]
      exact bareItem_eq_ok_iff.mpr ⟨Text.trimStart text,
        fun d hd => plain d (Text.mem_of_mem_trimStart hd), by rw [Text.trim_trimStart], start.symm⟩

/-! ## Reading a list -/

/-- Items that are not only blanks begin with an item, and behind its comma there are others. -/
theorem itemsText_iff (visible : ∃ c ∈ s, Text.isBlank c = false) :
    ItemsText s items ↔
      ∃ item more text, ItemText text item ∧ s = text ++ behindItem more ∧
        match more with
        | none => items = [item]
        | some rest => ∃ others, ItemsText rest others ∧ items = item :: others := by
  constructor
  · intro h
    cases h with
    | none blank =>
      obtain ⟨c, mem, seen⟩ := visible
      rw [blank c mem] at seen
      cases seen
    | last h => exact ⟨_, none, s, h, by simp [behindItem], rfl⟩
    | cons h others => exact ⟨_, some _, _, h, rfl, _, others, rfl⟩
  · rintro ⟨item, more, text, h, rfl, others⟩
    cases more with
    | none =>
      obtain rfl := others
      simpa [behindItem] using ItemsText.last h
    | some rest =>
      obtain ⟨others, hOthers, rfl⟩ := others
      exact .cons h hOthers

theorem ItemsText.eq_nil_of_blank (h : ItemsText s items)
    (blank : ∀ c ∈ s, Text.isBlank c = true) : items = [] := by
  by_contra nonempty
  obtain ⟨c, mem, visible⟩ : ∃ c ∈ s, Text.isBlank c = false := by
    cases h with
    | none _ => exact absurd rfl nonempty
    | last h => exact h.exists_visible
    | cons _ _ => exact ⟨',', by simp, by decide⟩
  rw [blank c mem] at visible
  cases visible

theorem itemsWithin_eq_ok_iff {steps : Nat} (enough : s.length < steps) :
    itemsWithin steps s = .ok items ↔ ItemsText s items := by
  induction steps generalizing s items with
  | zero => cases enough
  | succ steps ih =>
    unfold itemsWithin
    split
    · next nothing =>
      have blank := Text.trimStart_eq_nil_iff.mp nothing
      constructor
      · intro h
        cases h
        exact .none blank
      · intro h
        rw [h.eq_nil_of_blank blank]
    · next rest start =>
      have visible : ∃ c ∈ s, Text.isBlank c = false :=
        ⟨',', Text.mem_of_mem_trimStart (start ▸ List.mem_cons_self), by decide⟩
      refine iff_of_false (fun h => by cases h) fun h => ?_
      obtain ⟨item, more, text, hItem, rfl, -⟩ := (itemsText_iff visible).mp h
      exact hItem.head_ne_comma start rfl
    · next c rest noComma start =>
      have visible : ∃ c ∈ s, Text.isBlank c = false :=
        ⟨c, Text.mem_of_mem_trimStart (start ▸ List.mem_cons_self),
          Text.isBlank_head_trimStart s c (by simp [start])⟩
      have first (item : String) (more : Option (List Char)) :
          firstItem c rest = .ok (item, more) ↔
            ∃ text, ItemText text item ∧ s = text ++ behindItem more :=
        firstItem_eq_ok_iff start noComma
      rw [itemsText_iff visible, Results.bind_eq_ok_iff]
      constructor
      · rintro ⟨⟨item, more⟩, hItem, hMore⟩
        obtain ⟨text, hText, rfl⟩ := (first item more).mp hItem
        refine ⟨item, more, text, hText, rfl, ?_⟩
        cases more with
        | none =>
          cases hMore
          rfl
        | some behind =>
          obtain ⟨others, hOthers, given⟩ := Results.bind_eq_ok_iff.mp hMore
          cases given
          -- The comma is one character less to be read.
          refine ⟨others, (ih ?_).mp hOthers, rfl⟩
          simp only [behindItem, List.length_append, List.length_cons] at enough
          omega
      · rintro ⟨item, more, text, hText, rfl, hMore⟩
        refine ⟨(item, more), (first item more).mpr ⟨text, hText, rfl⟩, ?_⟩
        cases more with
        | none => rw [hMore]; rfl
        | some behind =>
          obtain ⟨others, hOthers, rfl⟩ := hMore
          refine Results.bind_eq_ok_iff.mpr ⟨others, (ih ?_).mpr hOthers, rfl⟩
          simp only [behindItem, List.length_append, List.length_cons] at enough
          omega

theorem closedWith_eq_ok_iff {close : Char} {inner : List Char} :
    (if rest.getLast? == some close then Except.ok rest.dropLast
      else .error (QueryFault.listNotClosed close)) = .ok inner ↔ rest = inner ++ [close] := by
  constructor
  · intro h
    split at h
    · next closed =>
      cases h
      obtain ⟨front, rfl⟩ := List.getLast?_eq_some_iff.mp (beq_iff_eq.mp closed)
      rw [List.dropLast_concat]
    · cases h
  · rintro rfl
    simp

theorem betweenBrackets_eq_ok_iff {inner : List Char} :
    betweenBrackets s = .ok inner ↔ s = '[' :: inner ++ [']'] ∨ s = '(' :: inner ++ [')'] := by
  constructor
  · intro h
    unfold betweenBrackets at h
    split at h
    · exact .inl (closedWith_eq_ok_iff.mp h ▸ rfl)
    · exact .inr (closedWith_eq_ok_iff.mp h ▸ rfl)
    · cases h
  · rintro (rfl | rfl) <;> exact closedWith_eq_ok_iff.mpr rfl

/-- The reader of lists accepts just the lists, with just their items. -/
theorem literalItems_eq_ok_iff :
    literalItems s = .ok items ↔ ListText (Text.trim s) items := by
  have within {inner : List Char} : itemsWithin (inner.length + 1) inner = .ok items ↔
      ItemsText inner items := itemsWithin_eq_ok_iff (Nat.lt_succ_self _)
  rw [literalItems, Results.bind_eq_ok_iff]
  constructor
  · rintro ⟨inner, hInner, hItems⟩
    rcases betweenBrackets_eq_ok_iff.mp hInner with whole | whole
    · exact whole ▸ .square (within.mp hItems)
    · exact whole ▸ .round (within.mp hItems)
  · intro h
    generalize whole : Text.trim s = chars at h
    cases h with
    | square h => exact ⟨_, betweenBrackets_eq_ok_iff.mpr (.inl rfl), within.mpr h⟩
    | round h => exact ⟨_, betweenBrackets_eq_ok_iff.mpr (.inr rfl), within.mpr h⟩

/-! ## The grammar at a glance -/

/-- What may stand between the brackets of a list: nothing but blanks, or items with commas between
them and perhaps one comma more behind the last. -/
inductive SeparatedText : List Char → List String → Prop
  | none {s : List Char} (blank : ∀ c ∈ s, Text.isBlank c = true) : SeparatedText s []
  | some {texts : List (List Char)} {items : List String} (nonempty : texts ≠ [])
      (each : List.Forall₂ ItemText texts items) : SeparatedText ([','].intercalate texts) items
  | trailing {texts : List (List Char)} {items : List String} {behind : List Char}
      (nonempty : texts ≠ []) (each : List.Forall₂ ItemText texts items)
      (blank : ∀ c ∈ behind, Text.isBlank c = true) :
      SeparatedText ([','].intercalate texts ++ ',' :: behind) items

theorem intercalate_cons_of_ne_nil {texts : List (List Char)} (nonempty : texts ≠ [])
    (text : List Char) :
    [','].intercalate (text :: texts) = text ++ ',' :: [','].intercalate texts := by
  obtain ⟨next, others, rfl⟩ := List.exists_cons_of_ne_nil nonempty
  rw [List.intercalate_cons_cons]
  simp

theorem ItemsText.separated (h : ItemsText s items) : SeparatedText s items := by
  induction h with
  | none blank => exact .none blank
  | @last s item h =>
    have alone : [','].intercalate [s] = s := List.intercalate_singleton
    rw [← alone]
    exact .some (by simp) (.cons h .nil)
  | @cons s rest item items h _ ih =>
    cases ih with
    | none blank =>
      have alone : [','].intercalate [s] = s := List.intercalate_singleton
      rw [← alone]
      exact .trailing (by simp) (.cons h .nil) blank
    | some nonempty each =>
      rw [← intercalate_cons_of_ne_nil nonempty]
      exact .some (by simp) (.cons h each)
    | trailing nonempty each blank =>
      rw [← List.cons_append, ← List.append_assoc, ← intercalate_cons_of_ne_nil nonempty]
      exact .trailing (by simp) (.cons h each) blank

/-- Items whose texts are separated by commas, whatever follows the last of them. -/
theorem itemsText_intercalate {texts : List (List Char)} (nonempty : texts ≠ [])
    (each : List.Forall₂ ItemText texts items) :
    ItemsText ([','].intercalate texts) items ∧ ∀ behind, (∀ c ∈ behind, Text.isBlank c = true) →
      ItemsText ([','].intercalate texts ++ ',' :: behind) items := by
  induction each with
  | nil => exact absurd rfl nonempty
  | @cons text item texts items h each ih =>
    cases texts with
    | nil =>
      obtain rfl := List.forall₂_nil_left_iff.mp each
      rw [List.intercalate_singleton]
      exact ⟨.last h, fun behind blank => .cons h (.none blank)⟩
    | cons next texts =>
      obtain ⟨plain, trailing⟩ := ih (by simp)
      rw [intercalate_cons_of_ne_nil (by simp)]
      refine ⟨.cons h plain, fun behind blank => ?_⟩
      rw [List.append_assoc, List.cons_append]
      exact .cons h (trailing behind blank)

theorem itemsText_iff_separatedText : ItemsText s items ↔ SeparatedText s items := by
  refine ⟨ItemsText.separated, fun h => ?_⟩
  cases h with
  | none blank => exact .none blank
  | some nonempty each => exact (itemsText_intercalate nonempty each).1
  | trailing nonempty each blank => exact (itemsText_intercalate nonempty each).2 _ blank

/-- A list between brackets has nothing to be trimmed, and stands where blanks are taken away. -/
theorem trim_eq_brackets_iff {opening close : Char} (visibleOpening : Text.isBlank opening = false)
    (visibleClose : Text.isBlank close = false) {inner : List Char} :
    Text.trim s = opening :: inner ++ [close] ↔
      ∃ before after, (∀ c ∈ before, Text.isBlank c = true) ∧
        (∀ c ∈ after, Text.isBlank c = true) ∧
          s = before ++ (opening :: inner ++ [close] ++ after) := by
  constructor
  · intro h
    obtain ⟨before, after, whole, blankBefore, blankAfter⟩ := Text.exists_blanks_trim s
    exact ⟨before, after, blankBefore, blankAfter, h ▸ whole⟩
  · rintro ⟨before, after, blankBefore, blankAfter, rfl⟩
    rw [Text.trim_append blankBefore, Text.trim_append_blanks _ blankAfter]
    refine Text.trim_eq_self_iff.mpr ⟨fun c hc => ?_, fun c hc => ?_⟩
    · cases hc
      exact visibleOpening
    · rw [List.getLast?_concat] at hc
      cases hc
      exact visibleClose

/-- The reader of literal lists accepts exactly the texts that are, blanks around them apart,
separated items between two square or two round brackets, and gives exactly these items. -/
theorem parseLiteralList_grammar (t : String) (items : List String) :
    parseLiteralList t = .ok items ↔
      ∃ before inner after, (∀ c ∈ before, Text.isBlank c = true) ∧
        (∀ c ∈ after, Text.isBlank c = true) ∧ SeparatedText inner items ∧
          (t.toList = before ++ ('[' :: inner ++ [']'] ++ after) ∨
            t.toList = before ++ ('(' :: inner ++ [')'] ++ after)) := by
  have accepted : parseLiteralList t = .ok items ↔ literalItems t.toList = .ok items := by
    rw [parseLiteralList]
    cases literalItems t.toList <;> simp [Except.mapError]
  rw [accepted, literalItems_eq_ok_iff]
  constructor
  · intro h
    generalize whole : Text.trim t.toList = list at h
    cases h with
    | square h =>
      obtain ⟨before, after, blankBefore, blankAfter, written⟩ :=
        (trim_eq_brackets_iff (by decide) (by decide)).mp whole
      exact ⟨before, _, after, blankBefore, blankAfter, h.separated, .inl written⟩
    | round h =>
      obtain ⟨before, after, blankBefore, blankAfter, written⟩ :=
        (trim_eq_brackets_iff (by decide) (by decide)).mp whole
      exact ⟨before, _, after, blankBefore, blankAfter, h.separated, .inr written⟩
  · rintro ⟨before, inner, after, blankBefore, blankAfter, h, written | written⟩
    · rw [(trim_eq_brackets_iff (by decide) (by decide)).mpr
        ⟨before, after, blankBefore, blankAfter, written⟩]
      exact .square (itemsText_iff_separatedText.mpr h)
    · rw [(trim_eq_brackets_iff (by decide) (by decide)).mpr
        ⟨before, after, blankBefore, blankAfter, written⟩]
      exact .round (itemsText_iff_separatedText.mpr h)

example : parseLiteralList " [a b , 'c, d',] " = .ok ["a b", "'c, d'"] := by rfl

end Query

end SceneArchive
