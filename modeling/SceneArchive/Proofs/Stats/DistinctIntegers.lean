import SceneArchive.Proofs.Decimal.Integers
import SceneArchive.Proofs.FirstAppearance
import SceneArchive.Proofs.Schema.Resolution
import SceneArchive.Proofs.Stats.ScanOrder
import SceneArchive.Proofs.Store.Search

/-!
# How many different integers a summary counts

Integers are counted as doubles. Every integer is a number then, so none of them is missed. But
two integers beyond fifty-three binary digits can be rounded to the same double, and those are
counted as one: a column can have more integers than its summary tells apart, although the values
that are summarized are the distinct values of the column.

* `length_dedup_sortedNumbers`: what is counted are different doubles.
* `countsIntegers_iff`: the integers are counted right exactly if no two of them share a double.
* `not_countsIntegers_pastFiftyThreeBits`: the least two positive integers that do.
-/

namespace SceneArchive

namespace Stats

open Binary64 (ofInt scaled)

variable {values : List Value} {xs : List Float} {ns : List Int}

/-! ## Counting sorted numbers -/

theorem mem_scaled_dedup {z : Int} : z ∈ (dedup xs).map scaled ↔ z ∈ xs.map scaled := by
  induction xs using dedup.induct with
  | case1 | case2 => simp only [dedup]
  | case3 x y rest same ih =>
    rw [dedup, if_pos same, ih, List.map_cons, List.map_cons, List.map_cons, ← same]
    simp
  | case4 x y rest other ih =>
    rw [dedup, if_neg other, List.map_cons, List.mem_cons, ih, List.map_cons (l := y :: rest),
      List.mem_cons]

theorem pairwise_dedup (sorted : xs.Pairwise fun x y => scaled x ≤ scaled y) :
    ((dedup xs).map scaled).Pairwise (· < ·) := by
  induction xs using dedup.induct with
  | case1 => simp [dedup]
  | case2 x => simp [dedup]
  | case3 x y rest same ih =>
    rw [dedup, if_pos same]
    exact ih (sorted.sublist ((List.sublist_cons_self y rest).cons_cons x))
  | case4 x y rest other ih =>
    obtain ⟨least, sorted⟩ := List.pairwise_cons.mp sorted
    -- What is kept from here on is `y` or above it.
    have below := lt_of_le_of_ne (least y List.mem_cons_self) other
    rw [dedup, if_neg other, List.map_cons, List.pairwise_cons]
    refine ⟨fun z mem => ?_, ih sorted⟩
    obtain ⟨w, later, rfl⟩ := List.mem_map.mp (mem_scaled_dedup.mp mem)
    rcases List.mem_cons.mp later with rfl | later
    · exact below
    · exact below.trans_le ((List.pairwise_cons.mp sorted).1 w later)

theorem length_dedup (sorted : xs.Pairwise fun x y => scaled x ≤ scaled y) :
    (dedup xs).length = (xs.map scaled).toFinset.card := by
  have same : ((dedup xs).map scaled).toFinset = (xs.map scaled).toFinset := by
    ext z
    rw [List.mem_toFinset, List.mem_toFinset, mem_scaled_dedup]
  rw [← same, List.toFinset_card_of_nodup ((pairwise_dedup sorted).imp ne_of_lt), List.length_map]

theorem length_dedup_sortedNumbers (values : List Value) :
    (dedup (sortedNumbers values)).length =
      ((values.filterMap number?).map scaled).toFinset.card := by
  rw [length_dedup ((pairwise_sortedNumbers values).imp Binary64.scaled_le_of_order_le),
    List.toFinset_eq_of_perm _ _ ((sortedNumbers_perm values).map scaled)]

/-! ## Integers among the values -/

/-- The integer that a value is. -/
def integer? : Value → Option Int
  | .integer n => some n
  | _ => none

/-- Whether different integers of a list are different as doubles. -/
def SeparatesIntegers (ns : List Int) : Prop :=
  ∀ m ∈ ns, ∀ n ∈ ns, ofInt m = ofInt n → m = n

/-- Whether the summary of a list of integers says how many there are, and how many different
ones. -/
def CountsIntegers (ns : List Int) : Prop :=
  ∃ stats : NumericStats, summarize .integer (ns.map .integer) = .numeric stats ∧
    stats.count = ns.length ∧ stats.uniqueCount = ns.toFinset.card

theorem filterMap_number? (typed : ∀ v ∈ values, v.HasType .integer) :
    values.filterMap number? = (values.filterMap integer?).map ofInt := by
  rw [List.map_filterMap]
  apply List.filterMap_congr
  intro v mem
  rcases typed v mem with rfl | type
  · rfl
  · cases v <;> cases type
    simp only [number?, integer?, Value.toFloat?, Option.filter_some, Binary64.isNaN_ofInt,
      Bool.not_false, if_true, Option.map_some]

theorem filterMap_integer?_map (ns : List Int) :
    (ns.map Value.integer).filterMap integer? = ns := by
  rw [List.filterMap_map]
  exact List.filterMap_some

theorem card_map_ofInt (ns : List Int) :
    ((ns.map ofInt).map scaled).toFinset.card = (ns.map ofInt).toFinset.card := by
  have image : ((ns.map ofInt).map scaled).toFinset = (ns.map ofInt).toFinset.image scaled := by
    ext z
    simp only [List.mem_toFinset, List.mem_map, Finset.mem_image]
  rw [image, Finset.card_image_iff]
  intro x hx y hy same
  obtain ⟨m, -, rfl⟩ := List.mem_map.mp (List.mem_toFinset.mp hx)
  obtain ⟨n, -, rfl⟩ := List.mem_map.mp (List.mem_toFinset.mp hy)
  exact Binary64.scaled_ofInt_eq_iff.mp same

theorem card_eq_iff_separatesIntegers (ns : List Int) :
    (ns.map ofInt).toFinset.card = ns.toFinset.card ↔ SeparatesIntegers ns := by
  have image : (ns.map ofInt).toFinset = ns.toFinset.image ofInt := by
    ext x
    simp only [List.mem_toFinset, List.mem_map, Finset.mem_image]
  rw [image, Finset.card_image_iff]
  simp only [Set.InjOn, Finset.mem_coe, List.mem_toFinset, SeparatesIntegers]

theorem count_numeric (typed : ∀ v ∈ values, v.HasType .integer) :
    (numeric values).count = (values.filterMap integer?).length := by
  change (sortedNumbers values).length = _
  rw [(sortedNumbers_perm values).length_eq, filterMap_number? typed, List.length_map]

theorem uniqueCount_numeric (typed : ∀ v ∈ values, v.HasType .integer) :
    (numeric values).uniqueCount = ((values.filterMap integer?).map ofInt).toFinset.card := by
  change (dedup (sortedNumbers values)).length = _
  rw [length_dedup_sortedNumbers, filterMap_number? typed, card_map_ofInt]

theorem separatesIntegers_of_natAbs_lt (small : ∀ n ∈ ns, n.natAbs < twoTo 53) :
    SeparatesIntegers ns := by
  intro m hm n hn same
  have exactly := Binary64.value_ofInt (small m hm)
  rw [same, Binary64.value_ofInt (small n hn)] at exactly
  exact (Int.cast_inj.mp exactly).symm

theorem summarize_integers (ns : List Int) :
    ∃ stats : NumericStats, summarize .integer (ns.map .integer) = .numeric stats ∧
      stats.count = ns.length ∧ stats.uniqueCount = (ns.map ofInt).toFinset.card := by
  have typed : ∀ v ∈ ns.map Value.integer, v.HasType .integer := by
    intro v mem
    obtain ⟨n, -, rfl⟩ := List.mem_map.mp mem
    exact .inr rfl
  refine ⟨numeric (ns.map .integer), rfl, ?_, ?_⟩
  · rw [count_numeric typed, filterMap_integer?_map]
  · rw [uniqueCount_numeric typed, filterMap_integer?_map]

theorem countsIntegers_iff_separatesIntegers (ns : List Int) :
    CountsIntegers ns ↔ SeparatesIntegers ns := by
  obtain ⟨stats, summary, count, unique⟩ := summarize_integers ns
  rw [← card_eq_iff_separatesIntegers, ← unique]
  constructor
  · rintro ⟨other, same, -, distinct⟩
    rw [summary] at same
    cases same
    exact distinct
  · intro distinct
    exact ⟨stats, summary, count, distinct⟩

end Stats

/-! ## Integers of a column -/

namespace Store

open Stats (CountsIntegers SeparatesIntegers integer?)

variable {s : Store} {name : String} {field : FieldSpec} {values : List Value}

/-- The integers that stand in the column of a field. -/
def storedIntegers (s : Store) (field : FieldSpec) : List Int :=
  (s.columnValues field.kind field.name).filterMap integer?

theorem columnValues_typed (declared : field ∈ Catalog.standard.fields) :
    ∀ v ∈ s.columnValues field.kind field.name, v.HasType field.type := by
  intro v mem
  obtain ⟨e, row, rfl⟩ := List.mem_map.mp mem
  obtain ⟨w, typed, has, -⟩ := Entity.exists_attribute declared (kind_of_mem_rows row)
  have found := (Keys.find?_eq_some_iff e.nodup_names_attributes).mpr ⟨has, rfl⟩
  rwa [found]

theorem sameCell_iff {v w : Value} (hv : v.HasType .integer) (hw : w.HasType .integer) :
    sameCell v w = true ↔ v = w := by
  rcases hv with rfl | hv <;> rcases hw with rfl | hw
  · exact iff_of_true rfl rfl
  · cases w <;> cases hw
    simp [sameCell, Statement.matches?, Statement.Cell.ofValue, Statement.Cell.isNull,
      Statement.Cell.order?]
  · cases v <;> cases hv
    simp [sameCell, Statement.matches?, Statement.Cell.ofValue, Statement.Cell.isNull,
      Statement.Cell.order?]
  · cases v <;> cases hv
    cases w <;> cases hw
    simp [sameCell, Statement.matches?, Statement.Cell.ofValue, Statement.Cell.isNull,
      Statement.Cell.order?_integer]

theorem listsFirsts_distinctValues (typed : ∀ v ∈ values, v.HasType .integer) :
    ListsFirsts (distinctValues values) values :=
  listsFirsts_foldl fun v hv w hw => sameCell_iff (typed v hv) (typed w hw)

theorem mapM_readValue (typed : ∀ v ∈ values, v.HasType .integer) :
    values.mapM readValue = .ok values := by
  rw [Results.mapM_eq_ok_iff, List.forall₂_same]
  intro v mem
  rcases typed v mem with rfl | type
  · rfl
  · cases v <;> cases type
    rfl

/-- The values that are summarized have the integers of the column, each once. -/
theorem exists_distinct_integers (typed : ∀ v ∈ values, v.HasType .integer) :
    ((distinctValues values).filterMap integer?).Nodup ∧
      ∀ n, n ∈ (distinctValues values).filterMap integer? ↔ n ∈ values.filterMap integer? := by
  have distinct := listsFirsts_distinctValues typed
  constructor
  · refine distinct.nodup.filterMap ?_
    intro v w n hv hw
    cases v <;> cases hv
    cases w <;> cases hw
    rfl
  · intro n
    simp only [List.mem_filterMap, distinct.mem_iff]

theorem fieldInfo_integer (resolved : Catalog.standard.resolve name = .ok field)
    (type : field.type = .integer) :
    ∃ stats : NumericStats, s.fieldInfo name = .ok ⟨name, field.kind, .integer, .numeric stats⟩ ∧
      stats.count = (s.storedIntegers field).toFinset.card ∧
      (stats.uniqueCount = stats.count ↔ SeparatesIntegers (s.storedIntegers field)) := by
  have typed := columnValues_typed (s := s) (Catalog.mem_of_resolve resolved)
  rw [type] at typed
  have scanned : ∀ v ∈ distinctValues (s.columnValues field.kind field.name),
      v.HasType .integer :=
    fun v mem => typed v (((listsFirsts_distinctValues typed).mem_iff v).mp mem)
  obtain ⟨nodup, same⟩ := exists_distinct_integers typed
  have count := Stats.count_numeric scanned
  refine ⟨Stats.numeric (distinctValues (s.columnValues field.kind field.name)), ?_, ?_, ?_⟩
  · rw [fieldInfo, resolved]
    simp only [bind, Except.bind, mapM_readValue scanned]
    rw [type]
    rfl
  · rw [count, ← List.toFinset_card_of_nodup nodup]
    congr 1
    ext n
    rw [List.mem_toFinset, List.mem_toFinset, same, storedIntegers]
  · rw [count, Stats.uniqueCount_numeric scanned, ← List.toFinset_card_of_nodup nodup,
      Stats.card_eq_iff_separatesIntegers]
    simp only [SeparatesIntegers, same, storedIntegers]

/-- Of the integers of a list, and of those in a column, a summary says how many there are. It
says that they are as many different ones as they are exactly if no two of them are rounded to the
same double, as is so for integers of fifty-three binary digits. -/
theorem countsIntegers_iff (ns : List Int) (resolved : Catalog.standard.resolve name = .ok field)
    (type : field.type = .integer) :
    ((∃ stats : NumericStats, Stats.summarize .integer (ns.map .integer) = .numeric stats ∧
        stats.count = ns.length ∧ stats.uniqueCount = (ns.map Binary64.ofInt).toFinset.card) ∧
      (CountsIntegers ns ↔ SeparatesIntegers ns) ∧
      ((∀ n ∈ ns, n.natAbs < twoTo 53) → SeparatesIntegers ns)) ∧
    ∃ stats : NumericStats, s.fieldInfo name = .ok ⟨name, field.kind, .integer, .numeric stats⟩ ∧
      stats.count = (s.storedIntegers field).toFinset.card ∧
      (stats.uniqueCount = stats.count ↔ SeparatesIntegers (s.storedIntegers field)) :=
  ⟨⟨Stats.summarize_integers ns, Stats.countsIntegers_iff_separatesIntegers ns,
    Stats.separatesIntegers_of_natAbs_lt⟩, fieldInfo_integer resolved type⟩

/-- A complete record with the given batch and size. -/
def sized (batch : String) (size : Int) : RawRecord :=
  [ ("acquisitio", .string "1988-01-01"),
    ("batch", .string batch),
    ("cloudperce", .number (.int 0)),
    ("orbitid", .number (.int 1)),
    ("satellite", .string "LT5"),
    ("scenepath", .number (.int 1)),
    ("scenerow", .number (.int 1)),
    ("sensorid", .string "TM"),
    ("tarsize", .number (.int size)) ]

/-- A history that stores two observations with these sizes. -/
def twoSizes (size size' : Int) : List Step :=
  [ ⟨"2024-01-01T00:00:00Z", .storeObservation (.named "19880101" "a") (sized "b1" size)⟩,
    ⟨"2024-01-01T00:00:00Z", .storeObservation (.named "19880101" "a") (sized "b2" size')⟩ ]

theorem resolve_tarsize : ∃ field, Catalog.standard.resolve "tarsize" = .ok field ∧
    field.kind = .observationRecord ∧ field.name = "tarsize" ∧ field.type = .integer := by
  have found : (Catalog.standard.resolve "tarsize").toOption.map (fun field =>
      (field.kind, field.name, field.type)) = some (.observationRecord, "tarsize", .integer) := by
    decide +kernel
  cases resolved : Catalog.standard.resolve "tarsize" with
  | error e => simp [resolved, Except.toOption] at found
  | ok field =>
    simp only [resolved, Except.toOption, Option.map_some, Option.some.injEq, Prod.mk.injEq]
      at found
    exact ⟨field, rfl, found⟩

theorem countsIntegers_iff_smallSizes : CountsIntegers [1, 2] ∧
    ∃ kind, ∃ stats : NumericStats, (after (fun _ => true) (twoSizes 1 2)).fieldInfo "tarsize" =
        .ok ⟨"tarsize", kind, .integer, .numeric stats⟩ ∧
      stats.count = 2 ∧ stats.uniqueCount = 2 := by
  obtain ⟨field, resolved, kind, name, type⟩ := resolve_tarsize
  have sizes : (after (fun _ => true) (twoSizes 1 2)).storedIntegers field = [1, 2] := by
    rw [storedIntegers, kind, name]
    decide +kernel
  obtain ⟨⟨-, list, small⟩, stats, info, count, unique⟩ :=
    countsIntegers_iff (s := after (fun _ => true) (twoSizes 1 2)) [1, 2] resolved type
  have separates := small (by decide)
  rw [sizes] at count unique
  have two : stats.count = 2 := count
  exact ⟨list.mpr separates, _, stats, info, two, (unique.mpr separates).trans two⟩

/-- The first two positive integers that share a double are counted as one, in a list and in a
column. -/
theorem not_countsIntegers_pastFiftyThreeBits :
    ¬ CountsIntegers [9007199254740992, 9007199254740993] ∧
    ∃ s, Reachable (fun _ => true) s ∧ ∃ info stats, s.fieldInfo "tarsize" = .ok info ∧
      info.stats = .numeric stats ∧ stats.count = 2 ∧ stats.uniqueCount ≠ stats.count := by
  have shared : ¬ SeparatesIntegers [9007199254740992, 9007199254740993] := by
    intro separates
    have same : Binary64.ofInt 9007199254740992 = Binary64.ofInt 9007199254740993 := by
      decide +kernel
    exact absurd (separates _ (by simp) _ (by simp) same) (by decide)
  refine ⟨fun counts => shared ((Stats.countsIntegers_iff_separatesIntegers _).mp counts),
    _, ⟨twoSizes 9007199254740992 9007199254740993, rfl⟩, ?_⟩
  obtain ⟨field, resolved, kind, name, type⟩ := resolve_tarsize
  have sizes : (after (fun _ => true)
      (twoSizes 9007199254740992 9007199254740993)).storedIntegers field =
        [9007199254740992, 9007199254740993] := by
    rw [storedIntegers, kind, name]
    decide +kernel
  obtain ⟨stats, info, count, unique⟩ := fieldInfo_integer
    (s := after (fun _ => true) (twoSizes 9007199254740992 9007199254740993)) resolved type
  rw [sizes] at count unique
  exact ⟨_, stats, info, rfl, count, fun same => shared (unique.mp same)⟩

end Store

end SceneArchive
