import Mathlib.Data.List.Sort
import SceneArchive.Proofs.Statement.Size
import SceneArchive.Proofs.Store.Choice
import SceneArchive.Proofs.Store.Search

/-!
# Searches for conjunctions

What the search for a conjunction has to do with the searches for its parts. The parts are
compiled to other statements, with other joins and other limits, so the statements are compared
by what they find.

* `exists_execute_of_mem`: where a file is found, smaller predicates that it answers are not
  refused, and find it.
* `search_conjunction`: the order of the parts does not matter, every part finds what the
  conjunction finds, and parts that choose no records apart from each other find nothing else
  together.
* `not_search_conjunction_repeated`: parts that are small enough may be too large together.
-/

namespace SceneArchive

namespace Store

open Statement

variable {isFile : String → Bool} {s : Store} {p q : Predicate} {g : Stored (Owned Georeference)}
  {files files' : List (Stored (Owned Georeference))}

/-! ## Searches that succeed -/

/-- Files by increasing identifier are told apart by their members alone. -/
theorem eq_of_mem_iff (h : files.Pairwise fun a b => a.id < b.id)
    (h' : files'.Pairwise fun a b => a.id < b.id) (same : ∀ g, g ∈ files ↔ g ∈ files') :
    files = files' := by
  let less (a b : Stored (Owned Georeference)) : Prop := a.id < b.id
  have : Std.Irrefl less := ⟨fun a => Int.lt_irrefl a.id⟩
  have : Std.Antisymm less := ⟨fun a b hab hba => absurd hba (Int.lt_asymm hab)⟩
  exact List.Pairwise.eq_of_mem_iff (r := less) h h' same

theorem exists_execute_iff :
    (∃ files, s.execute p = .ok files) ↔ (standardSelect p).check = .ok () := by
  rw [execute_eq]
  change _ ↔ Select.check ⟨standardJoins p, p.conditions.map Clause.ofCondition⟩ = .ok ()
  cases Select.check ⟨standardJoins p, p.conditions.map Clause.ofCondition⟩ <;> simp

/-- Nothing is a member of no list at all. -/
theorem not_holdsOn_of_isNever {c : BoundCondition} (h : (Clause.ofCondition c).isNever = true)
    (e : Entity) : ¬ c.HoldsOn e := by
  obtain ⟨field, operator, operand⟩ := c
  rintro ⟨v, -, accepts⟩
  unfold Clause.ofCondition at h
  split at h
  · next negated hOperator hOperand =>
    cases negated with
    | false =>
      cases hOperator
      cases hOperand
      obtain ⟨w, mem, -⟩ := accepts
      cases mem
    | true => cases h
  · cases h

/-- A file answers no predicate with an impossible clause. -/
theorem Answers.possible (h : s.Answers p g) :
    ∀ clause ∈ (standardSelect p).clauses, clause.isNever = false := by
  obtain ⟨c, -, satisfies⟩ := h.exists_choice
  intro clause hClause
  obtain ⟨b, hb, rfl⟩ := List.mem_map.mp hClause
  obtain ⟨e, -, holds⟩ := satisfies b hb
  rw [Bool.eq_false_iff]
  exact fun never => not_holdsOn_of_isNever never e holds

theorem exists_execute_of_mem (hs : s.WellFormed isFile) (hp : p.WellTyped .standard)
    (hq : q.WellTyped .standard)
    (smaller : List.SublistForall₂ Clause.NoLarger (standardSelect q).clauses
      (standardSelect p).clauses)
    (h : s.execute p = .ok files) (hg : g ∈ files) (answers : s.Answers q g) :
    ∃ files', s.execute q = .ok files' ∧ g ∈ files' := by
  obtain ⟨stored, found⟩ := ((execute_ok hs hp h).2 g).mp hg
  have check := check_of_smaller hq smaller found.possible (exists_execute_iff.mp ⟨files, h⟩)
  obtain ⟨files', h'⟩ := exists_execute_iff.mpr check
  exact ⟨files', h', ((execute_ok hs hq h').2 g).mpr ⟨stored, answers⟩⟩

/-- More comparisons than the depth that is allowed are refused. -/
theorem execute_comparisons (compares : ∀ c ∈ p.conditions, c.operator.isMembership = false)
    (many : greatestDepth < p.conditions.length) (s : Store)
    (files : List (Stored (Owned Georeference))) : s.execute p ≠ .ok files := by
  intro h
  refine check_tooDeep ?_ many (exists_execute_iff.mp ⟨files, h⟩)
  intro clause hClause
  obtain ⟨⟨field, operator, operand⟩, hc, rfl⟩ := List.mem_map.mp hClause
  cases operator with
  | comparison c => rfl
  | membership negated => cases compares _ hc

theorem noLarger_refl (clause : Clause) : clause.NoLarger clause := ⟨le_rfl, le_rfl⟩

/-- Clauses may be left out. -/
theorem smaller_of_sublist (h : q.conditions.Sublist p.conditions) :
    List.SublistForall₂ Clause.NoLarger (standardSelect q).clauses (standardSelect p).clauses := by
  rw [List.sublistForall₂_iff]
  exact ⟨_, List.forall₂_same.mpr fun c _ => noLarger_refl c, h.map Clause.ofCondition⟩

/-! ## Predicates -/

theorem wellTyped_conjoin {catalog : Catalog} :
    (p.conjoin q).WellTyped catalog ↔ p.WellTyped catalog ∧ q.WellTyped catalog :=
  List.forall_mem_append

theorem withinLimits_symm (h : (p.conjoin q).WithinLimits) : (q.conjoin p).WithinLimits := by
  obtain ⟨conditions, values⟩ := h
  simp only [Predicate.WithinLimits, Predicate.valueCount, Predicate.conjoin, List.flatMap_append,
    List.length_append] at conditions values ⊢
  omega

theorem withinLimits_left (h : (p.conjoin q).WithinLimits) : p.WithinLimits := by
  obtain ⟨conditions, values⟩ := h
  simp only [Predicate.WithinLimits, Predicate.valueCount, Predicate.conjoin, List.flatMap_append,
    List.length_append] at conditions values ⊢
  omega

theorem execute_conjoin_comm (hs : s.WellFormed isFile) (hp : p.WellTyped .standard)
    (hq : q.WellTyped .standard) (h : s.execute (p.conjoin q) = .ok files)
    (h' : s.execute (q.conjoin p) = .ok files') : files = files' := by
  obtain ⟨increasing, found⟩ := execute_ok hs (wellTyped_conjoin.mpr ⟨hp, hq⟩) h
  obtain ⟨increasing', found'⟩ := execute_ok hs (wellTyped_conjoin.mpr ⟨hq, hp⟩) h'
  apply eq_of_mem_iff increasing increasing'
  intro g
  rw [found, found']
  exact and_congr_right fun _ => ⟨Answers.symm, Answers.symm⟩

theorem exists_execute_of_conjoin (hs : s.WellFormed isFile) (hp : p.WellTyped .standard)
    (hq : q.WellTyped .standard) (h : s.execute (p.conjoin q) = .ok files) (hg : g ∈ files) :
    (∃ files', s.execute p = .ok files' ∧ g ∈ files') ∧
      ∃ files', s.execute q = .ok files' ∧ g ∈ files' := by
  have typed := wellTyped_conjoin.mpr ⟨hp, hq⟩
  obtain ⟨first, second⟩ := (((execute_ok hs typed h).2 g).mp hg).2.of_conjoin
  have left := smaller_of_sublist (List.sublist_append_left p.conditions q.conditions)
  have right := smaller_of_sublist (List.sublist_append_right p.conditions q.conditions)
  exact ⟨exists_execute_of_mem hs typed hp left h hg first,
    exists_execute_of_mem hs typed hq right h hg second⟩

theorem mem_execute_conjoin_iff (hs : s.WellFormed isFile) (hp : p.WellTyped .standard)
    (hq : q.WellTyped .standard)
    (observations : ¬ (p.Tests .observationRecord ∧ q.Tests .observationRecord))
    (axes : ¬ (p.Tests .axisEntry ∧ q.Tests .axisEntry))
    {filesP filesQ : List (Stored (Owned Georeference))}
    (h : s.execute (p.conjoin q) = .ok files) (first : s.execute p = .ok filesP)
    (second : s.execute q = .ok filesQ) : g ∈ files ↔ g ∈ filesP ∧ g ∈ filesQ := by
  rw [(execute_ok hs (wellTyped_conjoin.mpr ⟨hp, hq⟩) h).2, (execute_ok hs hp first).2,
    (execute_ok hs hq second).2]
  constructor
  · rintro ⟨stored, answers⟩
    exact ⟨⟨stored, answers.of_conjoin.1⟩, stored, answers.of_conjoin.2⟩
  · rintro ⟨⟨stored, answersP⟩, -, answersQ⟩
    exact ⟨stored, answersP.conjoin hs answersQ observations axes⟩

/-! ## Queries -/

/-- Whether a search succeeds and finds a file. -/
def Finds (s : Store) (query : String) (g : Stored (Owned Georeference)) : Prop :=
  ∃ files, s.search query = .ok files ∧ g ∈ files

/-- How the search for a conjunction relates to those for its parts. -/
structure ConjunctionLaws (s : Store) (q₁ q₂ : String) (p₁ p₂ : Predicate) : Prop where
  /-- The order of the parts does not matter. -/
  commutes : ∀ files files', s.search (q₁ ++ " & " ++ q₂) = .ok files →
    s.search (q₂ ++ " & " ++ q₁) = .ok files' → files = files'
  /-- Every part finds what the conjunction finds. -/
  narrows : ∀ files, s.search (q₁ ++ " & " ++ q₂) = .ok files →
    ∀ g ∈ files, s.Finds q₁ g ∧ s.Finds q₂ g
  /-- Parts that choose neither observations nor axes apart from each other find nothing else
  together. -/
  intersects : ¬ (p₁.Tests .observationRecord ∧ p₂.Tests .observationRecord) →
    ¬ (p₁.Tests .axisEntry ∧ p₂.Tests .axisEntry) →
    ∀ files files₁ files₂, s.search (q₁ ++ " & " ++ q₂) = .ok files →
      s.search q₁ = .ok files₁ → s.search q₂ = .ok files₂ →
        (files.Pairwise fun a b => a.id < b.id) ∧ ∀ g, g ∈ files ↔ g ∈ files₁ ∧ g ∈ files₂
  /-- None of the searches fails but for its size. -/
  refused : ∀ q ∈ [q₁, q₂, q₁ ++ " & " ++ q₂, q₂ ++ " & " ++ q₁], ∀ e, s.search q = .error e →
    e.IsLimit ∧ ¬ (p₁.conjoin p₂).WithinLimits

theorem search_error {query : String} (h : Predicate.compile .standard query = .ok p)
    (within : q.WithinLimits → p.WithinLimits) {e : IndexError}
    (failed : s.search query = .error e) : e.IsLimit ∧ ¬ q.WithinLimits := by
  rw [search_of_compile h] at failed
  obtain ⟨isLimit, large⟩ := execute_error (Predicate.compile_wellTyped h) failed
  exact ⟨isLimit, fun small => large (within small)⟩

theorem search_conjunction (hs : Reachable isFile s) {q₁ q₂ : String} {p₁ p₂ : Predicate}
    (h₁ : Predicate.compile .standard q₁ = .ok p₁)
    (h₂ : Predicate.compile .standard q₂ = .ok p₂) : s.ConjunctionLaws q₁ q₂ p₁ p₂ := by
  have hs := hs.wellFormed
  have typed₁ := Predicate.compile_wellTyped h₁
  have typed₂ := Predicate.compile_wellTyped h₂
  have forward := Predicate.compile_conjunction h₁ h₂
  have backward := Predicate.compile_conjunction h₂ h₁
  constructor
  · intro files files' h h'
    rw [search_of_compile forward] at h
    rw [search_of_compile backward] at h'
    exact execute_conjoin_comm hs typed₁ typed₂ h h'
  · intro files h g hg
    rw [search_of_compile forward] at h
    unfold Finds
    rw [search_of_compile h₁, search_of_compile h₂]
    exact exists_execute_of_conjoin hs typed₁ typed₂ h hg
  · intro observations axes files files₁ files₂ h found₁ found₂
    rw [search_of_compile forward] at h
    rw [search_of_compile h₁] at found₁
    rw [search_of_compile h₂] at found₂
    refine ⟨(execute_ok hs (wellTyped_conjoin.mpr ⟨typed₁, typed₂⟩) h).1, ?_⟩
    intro g
    exact mem_execute_conjoin_iff hs typed₁ typed₂ observations axes h found₁ found₂
  · simp only [List.mem_cons, List.not_mem_nil, or_false]
    rintro q (rfl | rfl | rfl | rfl) e failed
    · exact search_error h₁ withinLimits_left failed
    · exact search_error h₂ (fun small => withinLimits_left (withinLimits_symm small)) failed
    · exact search_error forward id failed
    · exact search_error backward withinLimits_symm failed

/-- A query with conditions on an observation. -/
def observationQuery : String := "satellite = LT5 & orbitid = 2"

/-- A query with conditions on an axis and its projection. -/
def axisQuery : String := "abbreviation = N & datum_id_code = 6047"

/-- A file has to have both a pass of the first query and an axis of the second one. -/
theorem search_conjunction_twoDirectories :
    let s := after (fun _ => true) twoDirectories
    ∃ p₁ p₂ files files₁ files₂,
      Predicate.compile .standard observationQuery = .ok p₁ ∧
      Predicate.compile .standard axisQuery = .ok p₂ ∧
      s.ConjunctionLaws observationQuery axisQuery p₁ p₂ ∧
      s.search observationQuery = .ok files₁ ∧ files₁.map (·.id) = [2] ∧
      s.search axisQuery = .ok files₂ ∧ files₂.map (·.id) = [1, 2] ∧
      s.search (observationQuery ++ " & " ++ axisQuery) = .ok files ∧ files.map (·.id) = [2] ∧
      ∀ g, g ∈ files ↔ g ∈ files₁ ∧ g ∈ files₂ := by
  intro s
  have first : searched observationQuery =
      some ([.observationRecord, .observationRecord], [2]) := by
    decide +kernel
  have second : searched axisQuery = some ([.axisEntry, .projectionDefinition], [1, 2]) := by
    decide +kernel
  have both : searched (observationQuery ++ " & " ++ axisQuery) =
      some ([.observationRecord, .observationRecord, .axisEntry, .projectionDefinition], [2]) := by
    decide +kernel
  obtain ⟨p₁, files₁, compiled₁, kinds₁, found₁, ids₁⟩ := exists_of_searched first
  obtain ⟨p₂, files₂, compiled₂, kinds₂, found₂, ids₂⟩ := exists_of_searched second
  obtain ⟨-, files, -, -, found, ids⟩ := exists_of_searched both
  have laws : s.ConjunctionLaws observationQuery axisQuery p₁ p₂ :=
    search_conjunction ⟨twoDirectories, rfl⟩ compiled₁ compiled₂
  have tests₁ : ¬ p₁.Tests .axisEntry := by
    rintro ⟨c, hc, kind⟩
    have mem : c.field.kind ∈ p₁.conditions.map (·.field.kind) := List.mem_map_of_mem hc
    simp [kinds₁, kind] at mem
  have tests₂ : ¬ p₂.Tests .observationRecord := by
    rintro ⟨c, hc, kind⟩
    have mem : c.field.kind ∈ p₂.conditions.map (·.field.kind) := List.mem_map_of_mem hc
    simp [kinds₂, kind] at mem
  obtain ⟨-, same⟩ := laws.intersects (fun both => tests₂ both.2) (fun both => tests₁ both.1)
    files files₁ files₂ found found₁ found₂
  exact ⟨p₁, p₂, files, files₁, files₂, compiled₁, compiled₂, laws, found₁, ids₁, found₂, ids₂,
    found, ids, same⟩

/-! ### Parts that are too large together -/

/-- A query once more than a number of times, with ampersands between. -/
def repeated (query : String) : Nat → String
  | 0 => query
  | n + 1 => query ++ " & " ++ repeated query n

/-- A condition a number of times. -/
def copies (c : BoundCondition) (n : Nat) : Predicate := ⟨List.replicate n c⟩

theorem compile_repeated {query : String} {c : BoundCondition}
    (h : Predicate.compile .standard query = .ok ⟨[c]⟩) (n : Nat) :
    Predicate.compile .standard (repeated query n) = .ok (copies c (n + 1)) := by
  induction n with
  | zero => exact h
  | succ n ih => exact Predicate.compile_conjunction h ih

theorem withinLimits_copies {c : BoundCondition} {n : Nat} (few : n + 3 ≤ greatestDepth)
    (values : n * c.operand.values.length ≤ mostMarks) : (copies c n).WithinLimits := by
  constructor
  · simpa [copies] using few
  · simpa [copies, Predicate.valueCount, List.length_flatMap] using values

theorem not_tests_copies {c : BoundCondition} {n : Nat} {kind : Kind}
    (other : c.field.kind ≠ kind) : ¬ (copies c n).Tests kind := by
  rintro ⟨b, hb, rfl⟩
  rw [List.eq_of_mem_replicate hb] at other
  exact other rfl

/-- Copies of a comparison, more than the depth that is allowed, are refused. -/
theorem execute_copies {c : BoundCondition} (compares : c.operator.isMembership = false)
    {m n : Nat} (many : greatestDepth < m + n) (s : Store)
    (files : List (Stored (Owned Georeference))) :
    s.execute ((copies c m).conjoin (copies c n)) ≠ .ok files := by
  apply execute_comparisons
  · intro b hb
    have same : b = c := by
      rcases List.mem_append.mp hb with hb | hb <;> exact List.eq_of_mem_replicate hb
    rw [same]
    exact compares
  · simpa [copies, Predicate.conjoin] using many

/-- A history that stores one georeference file. -/
def oneFile : List Step :=
  let one := Binary64.ofInt 1
  let zero := Binary64.ofInt 0
  [ ⟨"2024-01-01T00:00:00Z", .storeGeoreference (.named "19880101" "a/19880101")
      ⟨"b.jgw", none, one, zero, zero, one, zero, zero⟩⟩ ]

/-- A query for a path, five hundred and one times. -/
def manyPaths : String := repeated "path = b.jgw" 500

theorem exists_compile_path : ∃ c : BoundCondition,
    Predicate.compile .standard "path = b.jgw" = .ok ⟨[c]⟩ ∧ c.field.kind = .georeferenceFile ∧
      c.operator.isMembership = false ∧ c.operand.values.length = 1 := by
  have read : (Predicate.compile .standard "path = b.jgw").toOption.map (fun p =>
      p.conditions.map fun c =>
        (c.field.kind, c.operator.isMembership, c.operand.values.length)) =
        some [(.georeferenceFile, false, 1)] := by
    decide +kernel
  cases h : Predicate.compile .standard "path = b.jgw" with
  | error e => simp [h, Except.toOption] at read
  | ok p =>
    simp only [h, Except.toOption, Option.map_some, Option.some.injEq] at read
    obtain ⟨c, conditions, same⟩ := List.map_eq_singleton_iff.mp read
    obtain ⟨kind, rest⟩ := Prod.mk.inj same
    obtain ⟨compares, length⟩ := Prod.mk.inj rest
    refine ⟨c, ?_, kind, compares, length⟩
    rw [← conditions]

/-- Each of two parts is small enough, and both together are too large. -/
theorem not_search_conjunction_repeated :
    let s := after (fun _ => true) oneFile
    ¬ ∀ p₁ p₂, Predicate.compile .standard manyPaths = .ok p₁ →
      Predicate.compile .standard manyPaths = .ok p₂ →
      ¬ (p₁.Tests .observationRecord ∧ p₂.Tests .observationRecord) →
      ¬ (p₁.Tests .axisEntry ∧ p₂.Tests .axisEntry) →
      ∀ files₁ files₂, s.search manyPaths = .ok files₁ → s.search manyPaths = .ok files₂ →
        ∃ files, s.search (manyPaths ++ " & " ++ manyPaths) = .ok files ∧
          ∀ g, g ∈ files ↔ g ∈ files₁ ∧ g ∈ files₂ := by
  intro s claim
  obtain ⟨c, single, kind, compares, length⟩ := exists_compile_path
  have compiles : Predicate.compile .standard manyPaths = .ok (copies c 501) :=
    compile_repeated single 500
  have within : (copies c 501).WithinLimits := by
    apply withinLimits_copies
    · decide
    · rw [length]
      decide
  have observations : ¬ (copies c 501).Tests .observationRecord :=
    not_tests_copies (by rw [kind]; decide)
  have axes : ¬ (copies c 501).Tests .axisEntry := not_tests_copies (by rw [kind]; decide)
  cases h : s.search manyPaths with
  | error e =>
    rw [search_of_compile compiles] at h
    exact (execute_error (Predicate.compile_wellTyped compiles) h).2 within
  | ok files₁ =>
    obtain ⟨files, both, -⟩ := claim _ _ compiles compiles (fun both => observations both.1)
      (fun both => axes both.1) files₁ files₁ h h
    rw [search_of_compile (Predicate.compile_conjunction compiles compiles)] at both
    exact execute_copies compares (by decide) s files both

end Store

end SceneArchive
