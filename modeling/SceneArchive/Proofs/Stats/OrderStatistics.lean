import SceneArchive.Proofs.Decimal.Integers
import SceneArchive.Proofs.Stats.ScanOrder

/-!
# What summaries say about the values

The summary of numbers and that of texts, described by the values alone and by the comparison of
doubles that IEEE 754 has. The sorted list that they are computed from is a permutation of the
counted values; what stands at an index of it has at most so many values below it and at most the
rest of them above it.

* `Value.CountsAs`, `Picks`: which values count, and as what.
* `NumericStats.Describes`, `TextStats.Describes`: the least and the greatest number, the middle
  one, and the first of the distinct texts.
* `summarize_describes`: summaries are described so.
-/

namespace SceneArchive

/-- Whether a value counts as a number: a double does unless it is not a number, and an integer does
as the double that it is rounded to. -/
def Value.CountsAs : Value → Float → Prop
  | .integer n, x => x = Binary64.ofInt n ∧ (n.natAbs ≤ twoTo 63 → Binary64.IsRounding n x)
  | .float y, x => x = y ∧ y.isNaN = false
  | .null, _ | .text _, _ | .date _, _ => False

namespace Stats

/-- The second list has what the members of the first one count as, in order; those that count as
nothing are passed over. -/
inductive Picks {α β : Type} (counts : α → β → Prop) : List α → List β → Prop
  | nil : Picks counts [] []
  | counted {a : α} {b : β} {as : List α} {bs : List β} (h : counts a b)
      (rest : Picks counts as bs) : Picks counts (a :: as) (b :: bs)
  | passed {a : α} {as : List α} {bs : List β} (h : ∀ b, ¬ counts a b)
      (rest : Picks counts as bs) : Picks counts (a :: as) bs

theorem picks_filterMap {α β : Type} {counts : α → β → Prop} {f : α → Option β}
    (decides : ∀ a b, f a = some b ↔ counts a b) (as : List α) :
    Picks counts as (as.filterMap f) := by
  induction as with
  | nil => exact .nil
  | cons a as ih =>
    cases found : f a with
    | none =>
      rw [List.filterMap_cons_none found]
      refine .passed (fun b counted => ?_) ih
      rw [(decides a b).mpr counted] at found
      cases found
    | some b =>
      rw [List.filterMap_cons_some found]
      exact .counted ((decides a b).mp found) ih

end Stats

/-- What a summary says about the values and the numbers that they count as. -/
structure NumericStats.Describes (stats : NumericStats) (values : List Value)
    (numbers : List Float) : Prop where
  counted : Stats.Picks Value.CountsAs values numbers
  count : stats.count = numbers.length
  hasMissing : stats.hasMissing = true ↔ stats.count < values.length
  min : ∀ x, stats.min = some x → x ∈ numbers ∧ ∀ y ∈ numbers, x ≤ y
  max : ∀ x, stats.max = some x → x ∈ numbers ∧ ∀ y ∈ numbers, y ≤ x
  /-- The middle of an odd number of values. -/
  median : stats.count % 2 = 1 → ∃ x, stats.median = some x ∧ x ∈ numbers ∧
    2 * numbers.countP (· < x) ≤ stats.count ∧ 2 * numbers.countP (x < ·) ≤ stats.count
  min_absent : stats.min = none ↔ stats.count = 0
  max_absent : stats.max = none ↔ stats.count = 0
  mean_absent : stats.mean = none ↔ stats.count = 0
  median_absent : stats.median = none ↔ stats.count = 0

/-- What a summary says about the values and the texts among them. -/
structure TextStats.Describes (stats : TextStats) (values : List Value) (texts : List String) :
    Prop where
  counted : Stats.Picks (fun v s => v = .text s) values texts
  count : stats.count = texts.length
  uniqueCount : stats.uniqueCount = texts.toFinset.card
  /-- The least texts in increasing order, and a mark if there are more. -/
  sampleValues : ∃ least,
    stats.sampleValues = least ++ (if 10 < stats.uniqueCount then ["..."] else []) ∧
      least.Pairwise (· < ·) ∧ least.length = min 10 stats.uniqueCount ∧
      (∀ s ∈ least, s ∈ texts) ∧ ∀ s ∈ least, ∀ t ∈ texts, t ∉ least → s < t

namespace Stats

variable {values : List Value} {x y : Float}

/-! ## Numbers -/

theorem number?_eq_some_iff (v : Value) (x : Float) : number? v = some x ↔ v.CountsAs x := by
  rw [number?, Option.filter_eq_some_iff]
  cases v with
  | integer n =>
    constructor
    · rintro ⟨same, -⟩
      cases same
      exact ⟨rfl, Binary64.isRounding_ofInt⟩
    · rintro ⟨rfl, -⟩
      exact ⟨rfl, by rw [Binary64.isNaN_ofInt]; rfl⟩
  | float y =>
    constructor
    · rintro ⟨same, number⟩
      cases same
      rw [Bool.not_eq_true', ← Binary64.isNaN_eq] at number
      exact ⟨rfl, number⟩
    · rintro ⟨rfl, number⟩
      rw [Binary64.isNaN_eq] at number
      exact ⟨rfl, by rw [number]; rfl⟩
  | null | text | date =>
    constructor
    · rintro ⟨same, -⟩
      cases same
    · intro counted
      cases counted

theorem isNaN_of_mem (h : x ∈ sortedNumbers values) : Binary64.isNaN x = false := by
  obtain ⟨v, -, counted⟩ := List.mem_filterMap.mp ((sortedNumbers_perm values).mem_iff.mp h)
  simpa using (Option.filter_eq_some_iff.mp counted).2

theorem pairwise_le_sortedNumbers (values : List Value) :
    (sortedNumbers values).Pairwise (· ≤ ·) := by
  refine (pairwise_sortedNumbers values).imp_of_mem ?_
  intro x y hx hy le
  exact (Binary64.le_iff (isNaN_of_mem hx) (isNaN_of_mem hy)).mpr
    (Binary64.scaled_le_of_order_le le)

section Sorted

variable {xs : List Float} (sorted : xs.Pairwise (· ≤ ·))
  (counted : ∀ x ∈ xs, Binary64.isNaN x = false)
include sorted counted

theorem mem_and_le_of_head? (first : xs.head? = some x) : x ∈ xs ∧ ∀ y ∈ xs, x ≤ y := by
  obtain ⟨rest, rfl⟩ := List.head?_eq_some_iff.mp first
  have number := counted x List.mem_cons_self
  refine ⟨List.mem_cons_self, List.forall_mem_cons.mpr ⟨?_, (List.pairwise_cons.mp sorted).1⟩⟩
  exact (Binary64.le_iff number number).mpr le_rfl

theorem mem_and_le_of_getLast? (last : xs.getLast? = some x) : x ∈ xs ∧ ∀ y ∈ xs, y ≤ x := by
  obtain ⟨front, rfl⟩ := List.getLast?_eq_some_iff.mp last
  have here : x ∈ front ++ [x] := List.mem_append_right _ List.mem_cons_self
  refine ⟨here, fun y mem => ?_⟩
  rcases List.mem_append.mp mem with earlier | same
  · exact (List.pairwise_append.mp sorted).2.2 y earlier x List.mem_cons_self
  · obtain rfl := List.mem_singleton.mp same
    exact (Binary64.le_iff (counted y here) (counted y here)).mpr le_rfl

/-- In a sorted list only the numbers before a number can be less, and only those behind it
greater. -/
theorem countP_around {before after : List Float} (around : xs = before ++ x :: after) :
    xs.countP (· < x) ≤ before.length ∧ xs.countP (x < ·) ≤ after.length := by
  subst around
  have notLess {a b : Float} (ha : a ∈ before ++ x :: after) (hb : b ∈ before ++ x :: after)
      (le : a ≤ b) : ¬ b < a := by
    rw [Binary64.lt_iff (counted b hb) (counted a ha), not_lt]
    exact (Binary64.le_iff (counted a ha) (counted b hb)).mp le
  have here : x ∈ before ++ x :: after := List.mem_append_right _ List.mem_cons_self
  have self : ¬ x < x := by
    rw [Binary64.lt_iff (counted x here) (counted x here)]
    exact lt_irrefl _
  obtain ⟨-, sortedAfter, le⟩ := List.pairwise_append.mp sorted
  have behind : after.countP (· < x) = 0 := by
    rw [List.countP_eq_zero]
    intro y mem less
    exact notLess here (List.mem_append_right _ (List.mem_cons_of_mem _ mem))
      ((List.pairwise_cons.mp sortedAfter).1 y mem) (of_decide_eq_true less)
  have ahead : before.countP (x < ·) = 0 := by
    rw [List.countP_eq_zero]
    intro y mem greater
    exact notLess (List.mem_append_left _ mem) here (le y mem x List.mem_cons_self)
      (of_decide_eq_true greater)
  rw [List.countP_append, List.countP_append, List.countP_cons, List.countP_cons, behind, ahead,
    decide_eq_false self]
  exact ⟨List.countP_le_length, by simpa using List.countP_le_length⟩

end Sorted

theorem median?_eq_none_iff {xs : List Float} : median? xs = none ↔ xs = [] := by
  constructor
  · intro none
    by_contra nonempty
    have positive : 0 < xs.length := List.length_pos_iff.mpr nonempty
    have middle : xs.length / 2 < xs.length := by omega
    have before : xs.length / 2 - 1 < xs.length := by omega
    rw [median?, List.getElem?_eq_getElem middle, List.getElem?_eq_getElem before] at none
    split at none <;> cases none
  · rintro rfl
    rfl

theorem exists_median {xs : List Float} (odd : xs.length % 2 = 1) : ∃ before x after,
    xs = before ++ x :: after ∧ median? xs = some x ∧
      2 * before.length + 1 = xs.length ∧ 2 * after.length + 1 = xs.length := by
  have middle : xs.length / 2 < xs.length := by omega
  refine ⟨xs.take (xs.length / 2), xs[xs.length / 2], xs.drop (xs.length / 2 + 1), ?_, ?_, ?_, ?_⟩
  · rw [List.cons_getElem_drop_succ, List.take_append_drop]
  · rw [median?, if_pos odd, List.getElem?_eq_getElem middle]
  · rw [List.length_take]
    omega
  · rw [List.length_drop]
    omega

theorem numeric_describes (values : List Value) :
    (numeric values).Describes values (values.filterMap number?) := by
  have perm := sortedNumbers_perm values
  have sorted := pairwise_le_sortedNumbers values
  have numbers : ∀ x ∈ sortedNumbers values, Binary64.isNaN x = false := fun x => isNaN_of_mem
  have empty : (numeric values).count = 0 ↔ sortedNumbers values = [] := List.length_eq_zero_iff
  constructor
  case counted => exact picks_filterMap number?_eq_some_iff values
  case count => exact perm.length_eq
  case hasMissing =>
    calc (numeric values).hasMissing = true ↔ ∃ v ∈ values, number? v = none := by
          simp only [numeric, List.any_eq_true, Option.isNone_iff_eq_none]
      _ ↔ (values.filterMap number?).length < values.length := by
          rw [List.length_filterMap_lt_length_iff_exists]
          simp only [exists_prop]
      _ ↔ (numeric values).count < values.length := by
          rw [← perm.length_eq]
          rfl
  case min =>
    intro x least
    obtain ⟨mem, le⟩ := mem_and_le_of_head? sorted numbers least
    exact ⟨perm.mem_iff.mp mem, fun y listed => le y (perm.mem_iff.mpr listed)⟩
  case max =>
    intro x greatest
    obtain ⟨mem, le⟩ := mem_and_le_of_getLast? sorted numbers greatest
    exact ⟨perm.mem_iff.mp mem, fun y listed => le y (perm.mem_iff.mpr listed)⟩
  case median =>
    intro odd
    obtain ⟨before, x, after, all, middle, lengths⟩ := exists_median odd
    have around := countP_around sorted numbers all
    have member : x ∈ sortedNumbers values :=
      all ▸ List.mem_append_right _ List.mem_cons_self
    rw [perm.countP_eq, perm.countP_eq] at around
    change 2 * before.length + 1 = (numeric values).count ∧
      2 * after.length + 1 = (numeric values).count at lengths
    refine ⟨x, middle, perm.mem_iff.mp member, ?_, ?_⟩ <;> omega
  case min_absent => exact List.head?_eq_none_iff.trans empty.symm
  case max_absent => exact List.getLast?_eq_none_iff.trans empty.symm
  case mean_absent =>
    rw [empty, numeric, mean?]
    cases sortedNumbers values <;> simp
  case median_absent => exact median?_eq_none_iff.trans empty.symm

/-! ## Texts -/

theorem text?_eq_some_iff (v : Value) (s : String) : text? v = some s ↔ v = .text s := by
  cases v <;> simp [text?]

theorem text_describes (values : List Value) :
    (text values).Describes values (values.filterMap text?) := by
  have sorted := pairwise_distinctTexts (values.filterMap text?)
  constructor
  case counted => exact picks_filterMap text?_eq_some_iff values
  case count => rfl
  case uniqueCount =>
    have same : (distinctTexts (values.filterMap text?)).toFinset =
        (values.filterMap text?).toFinset := by
      ext s
      rw [List.mem_toFinset, List.mem_toFinset, mem_distinctTexts]
    rw [← same, List.toFinset_card_of_nodup (nodup_distinctTexts _)]
    rfl
  case sampleValues =>
    refine ⟨(distinctTexts (values.filterMap text?)).take 10, rfl, sorted.sublist
      (List.take_sublist _ _), List.length_take, ?_, ?_⟩
    · intro s mem
      exact mem_distinctTexts.mp (List.mem_of_mem_take mem)
    · intro s mem t present left
      have later : t ∈ (distinctTexts (values.filterMap text?)).drop 10 := by
        have distinct := mem_distinctTexts.mpr present
        rw [← List.take_append_drop 10 (distinctTexts (values.filterMap text?))] at distinct
        exact (List.mem_append.mp distinct).resolve_left left
      rw [← List.take_append_drop 10 (distinctTexts (values.filterMap text?))] at sorted
      exact (List.pairwise_append.mp sorted).2.2 s mem t later

/-! ## Summaries -/

/-- For the types of numbers a summary says what the least, the greatest and the middle of the
counted numbers are, and for texts how many there are and which come first. -/
theorem summarize_describes (values : List Value) :
    (∃ (stats : NumericStats) (numbers : List Float),
      summarize .integer values = .numeric stats ∧ summarize .float values = .numeric stats ∧
        stats.Describes values numbers) ∧
    ∃ (stats : TextStats) (texts : List String),
      summarize .text values = .text stats ∧ stats.Describes values texts :=
  ⟨⟨numeric values, _, rfl, rfl, numeric_describes values⟩,
    ⟨text values, _, rfl, text_describes values⟩⟩

/-- Eleven texts, the first of them twice, and three numbers beside values that count as nothing. -/
def elevenTexts : List Value :=
  [ .text "a", .text "k", .text "j", .null, .text "i", .text "h", .integer 3, .text "g", .text "f",
    .float (0.0 / 0.0), .text "e", .text "d", .text "c", .float 2.5, .text "b", .integer (-7),
    .text "a" ]

theorem sortedNumbers_elevenTexts : sortedNumbers elevenTexts = [-7, 2.5, 3] := by
  have counted : elevenTexts.filterMap number? = [3, 2.5, -7] := by decide +kernel
  have perm : (sortedNumbers elevenTexts).Perm [-7, 2.5, 3] := by
    refine (sortedNumbers_perm elevenTexts).trans ?_
    rw [counted]
    decide +kernel
  refine perm.eq_of_pairwise ?_ (pairwise_sortedNumbers elevenTexts) (by decide +kernel)
  intro x y _ _ le ge
  exact Binary64.order_inj.mp (le_antisymm le ge)

theorem summarize_describes_elevenTexts :
    (∃ (stats : NumericStats) (numbers : List Float),
      summarize .float elevenTexts = .numeric stats ∧ stats.Describes elevenTexts numbers ∧
        stats.count = 3 ∧ stats.hasMissing = true ∧ stats.min = some (-7) ∧ stats.max = some 3 ∧
        stats.median = some 2.5) ∧
    ∃ (stats : TextStats) (texts : List String),
      summarize .text elevenTexts = .text stats ∧ stats.Describes elevenTexts texts ∧
        stats.count = 12 ∧ stats.uniqueCount = 11 ∧
        stats.sampleValues = ["a", "b", "c", "d", "e", "f", "g", "h", "i", "j", "..."] := by
  obtain ⟨⟨_, numbers, -, ofNumbers, describes⟩, _, texts, ofTexts, describes'⟩ :=
    summarize_describes elevenTexts
  cases ofNumbers
  cases ofTexts
  refine ⟨⟨_, numbers, rfl, describes, ?_⟩, _, texts, rfl, describes', by decide +kernel⟩
  simp only [numeric, sortedNumbers_elevenTexts]
  decide +kernel

end Stats

end SceneArchive
