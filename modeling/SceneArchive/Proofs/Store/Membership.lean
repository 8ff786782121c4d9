import SceneArchive.Proofs.Store.Conjunction

/-!
# Tests of membership

What tests of membership abbreviate, beside any other conditions: `in` is equality with one of the
values, `not in` is inequality with all of them, and `not in` no list at all asks only that there
is a value. The choice of joined records is the same for a test of membership as for the
comparisons, since all of them are on one field and so on one record.

* `execute_membership`: the searches for all these.
* `not_execute_membership_manyValues`: the comparisons may be too many where the test is not.
-/

namespace SceneArchive

/-- A comparison of a field with a value. -/
def FieldSpec.compared (f : FieldSpec) (c : Comparison) (v : Value) : BoundCondition :=
  ⟨f, .comparison c, .scalar v⟩

/-- A test whether a field is among values, or among none of them. -/
def FieldSpec.among (f : FieldSpec) (negated : Bool) (vs : List Value) : BoundCondition :=
  ⟨f, .membership negated, .list vs⟩

/-- Whether a record has a value for a field. -/
def FieldSpec.PresentOn (f : FieldSpec) (e : Entity) : Prop :=
  ∃ v, (f.name, v) ∈ e.attributes ∧ v.IsPresent

variable {f : FieldSpec} {e : Entity} {vs : List Value}

/-! ## On one record -/

theorem holdsOn_in_iff : (f.among false vs).HoldsOn e ↔ ∃ v ∈ vs, (f.compared .eq v).HoldsOn e := by
  constructor
  · rintro ⟨a, mem, v, hv, equal⟩
    exact ⟨v, hv, a, mem, equal⟩
  · rintro ⟨v, hv, a, mem, equal⟩
    exact ⟨a, mem, v, hv, equal⟩

theorem holdsOn_notIn_nil : (f.among true []).HoldsOn e ↔ f.PresentOn e := by
  constructor
  · rintro ⟨a, mem, present, -⟩
    exact ⟨a, mem, present⟩
  · rintro ⟨a, mem, present⟩
    exact ⟨a, mem, present, fun _ h => absurd h List.not_mem_nil⟩

/-- Values of one type differ where they are present and not equal. -/
theorem Value.compares_ne_iff {type : ValueType} {v w : Value} (hv : v.HasType type)
    (hw : w.type? = some type) (present : w.IsPresent) :
    v.Compares .ne w ↔ v.IsPresent ∧ ¬ v.Compares .eq w := by
  rcases hv with rfl | hv
  · simp [Compares, IsPresent]
  · cases v with
    | null => cases hv
    | float x =>
      cases hv
      cases w with
      | float y =>
        constructor
        · rintro ⟨hx, -, differ⟩
          exact ⟨hx, fun equal => differ equal.2.2⟩
        · rintro ⟨hx, differ⟩
          exact ⟨hx, present, fun equal => differ ⟨hx, present, equal⟩⟩
      | _ => cases hw
    | _ =>
      cases hv
      cases w <;> cases hw
      simp [Compares, Comparison.Relates, IsPresent]

theorem holdsOn_notIn_iff (declared : f ∈ Catalog.standard.fields) (kind : e.kind = f.kind)
    (typed : ∀ v ∈ vs, v.type? = some f.type) (present : ∀ v ∈ vs, v.IsPresent)
    (nonempty : vs ≠ []) :
    (f.among true vs).HoldsOn e ↔ ∀ v ∈ vs, (f.compared .ne v).HoldsOn e := by
  obtain ⟨a, hType, mem, -⟩ := Entity.exists_attribute declared kind
  have differs {v : Value} (hv : v ∈ vs) : a.Compares .ne v ↔ a.IsPresent ∧ ¬ a.Compares .eq v :=
    Value.compares_ne_iff hType (typed v hv) (present v hv)
  constructor
  · rintro ⟨a', mem', hPresent, none⟩ v hv
    rw [Entity.attribute_unique mem' mem] at hPresent none
    exact ⟨a, mem, (differs hv).mpr ⟨hPresent, none v hv⟩⟩
  · intro all
    have each : ∀ v ∈ vs, a.Compares .ne v := by
      intro v hv
      obtain ⟨a', mem', differ⟩ := all v hv
      rw [Entity.attribute_unique mem' mem] at differ
      exact differ
    obtain ⟨first, hFirst⟩ := List.exists_mem_of_ne_nil vs nonempty
    have hPresent := ((differs hFirst).mp (each first hFirst)).1
    exact ⟨a, mem, hPresent, fun v hv => ((differs hv).mp (each v hv)).2⟩

namespace Store

open Statement

variable {isFile : String → Bool} {s : Store} {g : Stored (Owned Georeference)} {c : Choice}
  {R : List BoundCondition}

/-! ## On chosen records -/

theorem satisfies_in_iff : c.Satisfies g (R ++ [f.among false vs]) ↔
    ∃ v ∈ vs, c.Satisfies g (R ++ [f.compared .eq v]) := by
  simp only [Choice.satisfies_append, Choice.satisfies_singleton]
  constructor
  · rintro ⟨others, e, chosen, holds⟩
    obtain ⟨v, hv, holds⟩ := holdsOn_in_iff.mp holds
    exact ⟨v, hv, others, e, chosen, holds⟩
  · rintro ⟨v, hv, others, e, chosen, holds⟩
    exact ⟨others, e, chosen, holdsOn_in_iff.mpr ⟨v, hv, holds⟩⟩

theorem satisfies_notIn_iff (declared : f ∈ Catalog.standard.fields)
    (typed : ∀ v ∈ vs, v.type? = some f.type) (present : ∀ v ∈ vs, v.IsPresent)
    (nonempty : vs ≠ []) : c.Satisfies g (R ++ [f.among true vs]) ↔
      c.Satisfies g (R ++ vs.map (f.compared .ne)) := by
  rw [Choice.satisfies_append, Choice.satisfies_append, Choice.satisfies_singleton]
  apply and_congr_right
  intro _
  constructor
  · rintro ⟨e, chosen, holds⟩ b hb
    obtain ⟨v, hv, rfl⟩ := List.mem_map.mp hb
    have kind := Choice.kind_of_mem_record? chosen
    exact ⟨e, chosen, (holdsOn_notIn_iff declared kind typed present nonempty).mp holds v hv⟩
  · intro all
    obtain ⟨first, hFirst⟩ := List.exists_mem_of_ne_nil vs nonempty
    obtain ⟨e, chosen, -⟩ := all _ (List.mem_map_of_mem hFirst)
    have kind := Choice.kind_of_mem_record? chosen
    refine ⟨e, chosen, (holdsOn_notIn_iff declared kind typed present nonempty).mpr ?_⟩
    intro v hv
    obtain ⟨e', chosen', holds⟩ := all _ (List.mem_map_of_mem hv)
    rw [Option.mem_unique chosen chosen']
    exact holds

/-! ## Searches -/

theorem wellTyped_among (declared : f ∈ Catalog.standard.fields)
    (typed : ∀ v ∈ vs, v.type? = some f.type) (present : ∀ v ∈ vs, v.IsPresent)
    (negated : Bool) : (f.among negated vs).WellTyped .standard :=
  ⟨declared, rfl, typed, present⟩

theorem wellTyped_compared (declared : f ∈ Catalog.standard.fields) {v : Value}
    (typed : v.type? = some f.type) (present : v.IsPresent) (comparison : Comparison) :
    (f.compared comparison v).WellTyped .standard :=
  ⟨declared, rfl, fun _ h => List.mem_singleton.mp h ▸ typed,
    fun _ h => List.mem_singleton.mp h ▸ present⟩

theorem wellTyped_append {as bs : List BoundCondition} {catalog : Catalog}
    (has : Predicate.WellTyped catalog ⟨as⟩) (hbs : ∀ b ∈ bs, b.WellTyped catalog) :
    Predicate.WellTyped catalog ⟨as ++ bs⟩ :=
  List.forall_mem_append.mpr ⟨has, hbs⟩

/-- Equality with one of some values makes a statement that is no larger than a test whether one
of them is equal. -/
theorem smaller_of_in {v : Value} (hv : v ∈ vs) :
    List.SublistForall₂ Clause.NoLarger
      (standardSelect ⟨R ++ [f.compared .eq v]⟩).clauses
      (standardSelect ⟨R ++ [f.among false vs]⟩).clauses := by
  have last : (Clause.ofCondition (f.compared .eq v)).NoLarger
      (Clause.ofCondition (f.among false vs)) := by
    obtain ⟨w, ws, rfl⟩ := List.exists_cons_of_ne_nil (List.ne_nil_of_mem hv)
    exact ⟨le_rfl, Nat.succ_le_succ (Nat.zero_le _)⟩
  rw [List.sublistForall₂_iff]
  refine ⟨_, ?_, List.Sublist.refl _⟩
  simp only [standardSelect, List.map_append]
  exact List.rel_append (List.forall₂_same.mpr fun c _ => noLarger_refl c) (.cons last .nil)

/-- What searches for tests of membership find beside other conditions. -/
structure MembershipLaws (s : Store) (R : List BoundCondition) (f : FieldSpec)
    (vs : List Value) : Prop where
  /-- A test whether a field is among values finds what equality with one of them finds. -/
  among : ∀ files, s.execute ⟨R ++ [f.among false vs]⟩ = .ok files → ∀ g, g ∈ files ↔
    ∃ v ∈ vs, ∃ files', s.execute ⟨R ++ [f.compared .eq v]⟩ = .ok files' ∧ g ∈ files'
  /-- A test whether it is none of them finds what inequality with all of them finds. -/
  none : vs ≠ [] → ∀ files files', s.execute ⟨R ++ [f.among true vs]⟩ = .ok files →
    s.execute ⟨R ++ vs.map (f.compared .ne)⟩ = .ok files' → files = files'
  /-- Where there are no values at all it is enough that the field has one. -/
  empty : ∀ files, s.execute ⟨R ++ [f.among true []]⟩ = .ok files → ∀ g, g ∈ files ↔
    g ∈ s.georeferences.rows ∧ ∃ c : Choice, c.Joined s g ∧ c.Satisfies g R ∧
      ∃ e ∈ c.record? g f.kind, f.PresentOn e
  /-- None of these searches fails but for its size. -/
  refused : ∀ last : List BoundCondition,
    (∃ negated, last = [f.among negated vs]) ∨ (∃ v ∈ vs, last = [f.compared .eq v]) ∨
      last = vs.map (f.compared .ne) ∨ last = [f.among true []] →
    ∀ e, s.execute ⟨R ++ last⟩ = .error e →
      e.IsLimit ∧ ¬ Predicate.WithinLimits ⟨R ++ last⟩

section Laws

variable (hs : s.WellFormed isFile) (hR : Predicate.WellTyped .standard ⟨R⟩)
  (declared : f ∈ Catalog.standard.fields) (typed : ∀ v ∈ vs, v.type? = some f.type)
  (present : ∀ v ∈ vs, v.IsPresent) {files files' : List (Stored (Owned Georeference))}

include hR declared typed present

theorem wellTyped_with_among (negated : Bool) :
    Predicate.WellTyped .standard ⟨R ++ [f.among negated vs]⟩ :=
  wellTyped_append hR (List.forall_mem_singleton.mpr
    (wellTyped_among declared typed present negated))

theorem wellTyped_with_eq {v : Value} (hv : v ∈ vs) :
    Predicate.WellTyped .standard ⟨R ++ [f.compared .eq v]⟩ :=
  wellTyped_append hR (List.forall_mem_singleton.mpr
    (wellTyped_compared declared (typed v hv) (present v hv) .eq))

theorem wellTyped_with_ne : Predicate.WellTyped .standard ⟨R ++ vs.map (f.compared .ne)⟩ :=
  wellTyped_append hR (List.forall_mem_map.mpr fun v hv =>
    wellTyped_compared declared (typed v hv) (present v hv) .ne)

include hs

theorem mem_execute_in_iff (h : s.execute ⟨R ++ [f.among false vs]⟩ = .ok files) :
    g ∈ files ↔ ∃ v ∈ vs, ∃ files', s.execute ⟨R ++ [f.compared .eq v]⟩ = .ok files' ∧
      g ∈ files' := by
  have hIn := wellTyped_with_among hR declared typed present false
  have hEq {v : Value} (hv : v ∈ vs) := wellTyped_with_eq hR declared typed present hv
  constructor
  · intro hg
    obtain ⟨-, answers⟩ := ((execute_ok hs hIn h).2 g).mp hg
    obtain ⟨c, joined, satisfies⟩ := answers.exists_choice
    obtain ⟨v, hv, equal⟩ := satisfies_in_iff.mp satisfies
    have answers : s.Answers ⟨R ++ [f.compared .eq v]⟩ g := answers_of_choice joined equal
    have found := exists_execute_of_mem hs hIn (hEq hv) (smaller_of_in hv) h hg answers
    exact ⟨v, hv, found⟩
  · rintro ⟨v, hv, files', h', hg⟩
    obtain ⟨stored, answers⟩ := ((execute_ok hs (hEq hv) h').2 g).mp hg
    obtain ⟨c, joined, satisfies⟩ := answers.exists_choice
    have member := satisfies_in_iff.mpr ⟨v, hv, satisfies⟩
    exact ((execute_ok hs hIn h).2 g).mpr ⟨stored, answers_of_choice joined member⟩

theorem execute_notIn_eq (nonempty : vs ≠ [])
    (h : s.execute ⟨R ++ [f.among true vs]⟩ = .ok files)
    (h' : s.execute ⟨R ++ vs.map (f.compared .ne)⟩ = .ok files') : files = files' := by
  obtain ⟨increasing, found⟩ :=
    execute_ok hs (wellTyped_with_among hR declared typed present true) h
  obtain ⟨increasing', found'⟩ :=
    execute_ok hs (wellTyped_with_ne hR declared typed present) h'
  apply eq_of_mem_iff increasing increasing'
  intro g
  rw [found, found', answers_iff_exists_choice, answers_iff_exists_choice]
  simp only [satisfies_notIn_iff declared typed present nonempty]

omit typed present

theorem mem_execute_notIn_nil_iff (h : s.execute ⟨R ++ [f.among true []]⟩ = .ok files) :
    g ∈ files ↔ g ∈ s.georeferences.rows ∧ ∃ c : Choice, c.Joined s g ∧ c.Satisfies g R ∧
      ∃ e ∈ c.record? g f.kind, f.PresentOn e := by
  have hNone : Predicate.WellTyped .standard ⟨R ++ [f.among true []]⟩ :=
    wellTyped_with_among hR declared (by simp) (by simp) true
  rw [(execute_ok hs hNone h).2, answers_iff_exists_choice]
  simp only [Choice.satisfies_append, Choice.satisfies_singleton, holdsOn_notIn_nil]
  rfl

end Laws

theorem execute_membership (hs : Reachable isFile s) (hR : Predicate.WellTyped .standard ⟨R⟩)
    (declared : f ∈ Catalog.standard.fields) (typed : ∀ v ∈ vs, v.type? = some f.type)
    (present : ∀ v ∈ vs, v.IsPresent) : s.MembershipLaws R f vs := by
  have hs := hs.wellFormed
  constructor
  · intro files h g
    exact mem_execute_in_iff hs hR declared typed present h
  · intro nonempty files files' h h'
    exact execute_notIn_eq hs hR declared typed present nonempty h h'
  · intro files h g
    exact mem_execute_notIn_nil_iff hs hR declared h
  · intro last hLast e failed
    have hWhole : Predicate.WellTyped .standard ⟨R ++ last⟩ := by
      rcases hLast with ⟨negated, rfl⟩ | ⟨v, hv, rfl⟩ | rfl | rfl
      · exact wellTyped_with_among hR declared typed present negated
      · exact wellTyped_with_eq hR declared typed present hv
      · exact wellTyped_with_ne hR declared typed present
      · exact wellTyped_with_among hR declared (by simp) (by simp) true
    exact execute_error hWhole failed

/-- The field of the satellites of observations. -/
def satelliteField : FieldSpec := ⟨.observationRecord, "satellite", .text⟩

/-- The field of their orbits. -/
def orbitField : FieldSpec := ⟨.observationRecord, "orbitid", .integer⟩

/-- The field of the abbreviations of axes. -/
def abbreviationField : FieldSpec := ⟨.axisEntry, "abbreviation", .text⟩

/-- A file of a pass is found by the axis that is among the values, and by the other axis, which is
not. -/
theorem execute_membership_twoDirectories :
    let s := after (fun _ => true) twoDirectories
    let R := [satelliteField.compared .eq (.text "LT5"), orbitField.compared .eq (.integer 2)]
    let vs := [.text "E", .text "H"]
    let found (last : List BoundCondition) := (s.execute ⟨R ++ last⟩).toOption.map (·.map (·.id))
    found [abbreviationField.among false vs] = some [2] ∧
      found [abbreviationField.among true vs] = some [2] ∧
      found (vs.map (abbreviationField.compared .ne)) = some [2] ∧
      found [abbreviationField.among false []] = some [] ∧
      found [abbreviationField.among true []] = some [2] ∧
      s.MembershipLaws R abbreviationField vs := by
  intro s R vs found
  have declared : satelliteField ∈ Catalog.standard.fields ∧
      orbitField ∈ Catalog.standard.fields ∧ abbreviationField ∈ Catalog.standard.fields := by
    decide +kernel
  have hR : Predicate.WellTyped .standard ⟨R⟩ := by
    refine List.forall_mem_cons.mpr ⟨?_, List.forall_mem_singleton.mpr ?_⟩
    · exact wellTyped_compared (v := .text "LT5") declared.1 rfl trivial .eq
    · exact wellTyped_compared (v := .integer 2) declared.2.1 rfl trivial .eq
  have typed : ∀ v ∈ vs, v.type? = some abbreviationField.type := by
    simp [vs, Value.type?, abbreviationField]
  have present : ∀ v ∈ vs, v.IsPresent := by simp [vs, Value.IsPresent]
  refine ⟨?_, ?_, ?_, ?_, ?_,
    execute_membership ⟨twoDirectories, rfl⟩ hR declared.2.2 typed present⟩ <;>
    decide +kernel

/-- The field of the paths of georeference files. -/
def pathField : FieldSpec := ⟨.georeferenceFile, "path", .text⟩

theorem pathField_mem : pathField ∈ Catalog.standard.fields := by decide +kernel

/-- A test whether a path is none of many names is small enough where the inequalities with all
of them are not. -/
theorem not_execute_membership_manyValues :
    let s := after (fun _ => true) oneFile
    let vs := List.replicate 1001 (Value.text "x")
    vs ≠ [] ∧ (∀ v ∈ vs, v.type? = some pathField.type ∧ v.IsPresent) ∧
      s.execute ⟨[] ++ [pathField.among true vs]⟩ ≠
        s.execute ⟨[] ++ vs.map (pathField.compared .ne)⟩ := by
  intro s vs
  have length : vs.length = 1001 := List.length_replicate
  have ofText {v : Value} (hv : v ∈ vs) : v = .text "x" := List.eq_of_mem_replicate hv
  have typed : ∀ v ∈ vs, v.type? = some pathField.type ∧ v.IsPresent := by
    intro v hv
    rw [ofText hv]
    exact ⟨rfl, trivial⟩
  have nonempty : vs ≠ [] := by
    intro none
    rw [none] at length
    cases length
  refine ⟨nonempty, typed, ?_⟩
  have within : Predicate.WithinLimits ⟨[] ++ [pathField.among true vs]⟩ := by
    constructor
    · simp [greatestDepth]
    · simp [Predicate.valueCount, FieldSpec.among, Operand.values, length, mostMarks]
  have hIn : Predicate.WellTyped .standard ⟨[] ++ [pathField.among true vs]⟩ :=
    List.forall_mem_singleton.mpr (wellTyped_among pathField_mem (fun v hv => (typed v hv).1)
      (fun v hv => (typed v hv).2) true)
  intro same
  cases h : s.execute ⟨[] ++ [pathField.among true vs]⟩ with
  | error e => exact (execute_error hIn h).2 within
  | ok files =>
    rw [h] at same
    refine execute_comparisons ?_ ?_ s files same.symm
    · intro c hc
      obtain ⟨v, -, rfl⟩ := List.mem_map.mp hc
      rfl
    · simp [length, greatestDepth]

end Store

end SceneArchive
