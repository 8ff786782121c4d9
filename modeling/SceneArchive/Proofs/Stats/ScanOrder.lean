import SceneArchive.Proofs.Decimal.TotalOrder
import SceneArchive.Proofs.NameMap
import SceneArchive.Proofs.Results
import SceneArchive.Store.Search

/-!
# Summaries in any order of the values

A table is scanned in no particular order, and the sum of doubles depends on the order. Values are
sorted before anything is computed from them: numbers by the total order of doubles, in which two
numbers at the same place are one and the same double, and texts into a set. What is sorted is the
same for every order of the values, and so is the summary, to the last bit.

* `sortedNumbers_eq_of_perm`, `distinctTexts_eq_of_perm`: there is one way to sort.
* `summarize_perm`: a summary does not depend on the order of the values.
* `fieldInfo_of_perm`: nor does the summary of a field on the order of the scan.
-/

namespace SceneArchive

namespace Stats

variable {values other : List Value} {texts others : List String}

/-! ## Numbers -/

theorem sortedNumbers_perm (values : List Value) :
    (sortedNumbers values).Perm (values.filterMap number?) :=
  List.mergeSort_perm _ _

theorem pairwise_sortedNumbers (values : List Value) :
    (sortedNumbers values).Pairwise fun x y => Binary64.order x ≤ Binary64.order y := by
  rw [sortedNumbers]
  refine (List.pairwise_mergeSort ?_ ?_ _).imp of_decide_eq_true
  · intro x y z le le'
    exact decide_eq_true ((of_decide_eq_true le).trans (of_decide_eq_true le'))
  · intro x y
    simpa using le_total (Binary64.order x) (Binary64.order y)

theorem sortedNumbers_eq_of_perm (h : values.Perm other) :
    sortedNumbers values = sortedNumbers other := by
  have perm : (sortedNumbers values).Perm (sortedNumbers other) :=
    ((sortedNumbers_perm values).trans (h.filterMap number?)).trans (sortedNumbers_perm other).symm
  refine perm.eq_of_pairwise ?_ (pairwise_sortedNumbers values) (pairwise_sortedNumbers other)
  intro x y _ _ le ge
  exact Binary64.order_inj.mp (le_antisymm le ge)

theorem numeric_perm (h : values.Perm other) : numeric values = numeric other := by
  rw [numeric, numeric, sortedNumbers_eq_of_perm h, h.any_eq]

/-! ## Texts -/

theorem pairwise_distinctTexts (texts : List String) : (distinctTexts texts).Pairwise (· < ·) :=
  List.pairwise_map.mpr (NameMap.increasing_insertAll NameMap.increasing_nil)

theorem mem_distinctTexts {s : String} : s ∈ distinctTexts texts ↔ s ∈ texts := by
  constructor
  · intro mem
    obtain ⟨entry, inMap, rfl⟩ := List.mem_map.mp mem
    rcases NameMap.mem_insertAll inMap with set | none
    · obtain ⟨s, present, rfl⟩ := List.mem_map.mp set
      exact present
    · cases none
  · intro mem
    have found : NameMap.get? (NameMap.insertAll [] (texts.map fun s => (s, ()))) s = some () :=
      NameMap.get?_insertAll_of_mem (fun _ _ => rfl) (List.mem_map_of_mem mem)
    exact List.mem_map_of_mem (NameMap.mem_of_get? found)

theorem nodup_distinctTexts (texts : List String) : (distinctTexts texts).Nodup :=
  (pairwise_distinctTexts texts).imp ne_of_lt

theorem distinctTexts_eq_of_perm (h : texts.Perm others) :
    distinctTexts texts = distinctTexts others := by
  have perm : (distinctTexts texts).Perm (distinctTexts others) := by
    rw [List.perm_ext_iff_of_nodup (nodup_distinctTexts texts) (nodup_distinctTexts others)]
    intro s
    rw [mem_distinctTexts, mem_distinctTexts, h.mem_iff]
  refine perm.eq_of_pairwise ?_ (pairwise_distinctTexts texts) (pairwise_distinctTexts others)
  intro s t _ _ less greater
  exact absurd greater less.asymm

theorem text_perm (h : values.Perm other) : text values = text other := by
  have perm := h.filterMap text?
  rw [text, text, distinctTexts_eq_of_perm perm, perm.length_eq]

/-! ## Summaries -/

/-- The values of a summary can come in any order: the summary is the same, every double of it to
the last bit. -/
theorem summarize_perm (type : ValueType) (h : values.Perm other) :
    summarize type values = summarize type other := by
  cases type with
  | integer | float => exact congrArg FieldStats.numeric (numeric_perm h)
  | text => exact congrArg FieldStats.text (text_perm h)
  | date => rfl

/-- Values of every kind, both zeros and numbers whose sum depends on the order among them. -/
def mixedValues : List Value :=
  [ .null, .float 1e16, .integer 1, .float (-0.0), .float (0.0 / 0.0), .text "b",
    .float (1.0 / 0.0), .float (-1e16), .float 0.0, .date ⟨2024, 2, 29, by decide⟩, .text "a" ]

theorem summarize_perm_mixedValues :
    mixedValues.Perm mixedValues.reverse ∧ mixedValues ≠ mixedValues.reverse ∧
      ∀ type, summarize type mixedValues = summarize type mixedValues.reverse := by
  have perm : mixedValues.Perm mixedValues.reverse := (List.reverse_perm mixedValues).symm
  refine ⟨perm, ?_, fun type => summarize_perm type perm⟩
  intro same
  cases congrArg List.head? same

end Stats

namespace Store

variable {s : Store} {name : String} {field : FieldSpec} {scan values : List Value}

/-- Whatever order the distinct values of a field are scanned in, their summary is the summary of
the field. -/
theorem fieldInfo_of_perm (resolved : Catalog.standard.resolve name = .ok field)
    (any : scan.Perm (distinctValues (s.columnValues field.kind field.name)))
    (read : scan.mapM readValue = .ok values) :
    s.fieldInfo name = .ok ⟨name, field.kind, field.type, Stats.summarize field.type values⟩ := by
  obtain ⟨inOrder, all, perm⟩ :=
    List.perm_comp_forall₂ any.symm (Results.mapM_eq_ok_iff.mp read)
  have first : (distinctValues (s.columnValues field.kind field.name)).mapM readValue =
      .ok inOrder := Results.mapM_eq_ok_iff.mpr all
  have same : Stats.summarize field.type inOrder = Stats.summarize field.type values := by
    simp only [Stats.summarize, Stats.numeric_perm perm, Stats.text_perm perm]
  rw [fieldInfo, resolved, ← same]
  simp only [bind, Except.bind, first]
  rfl

end Store

end SceneArchive
