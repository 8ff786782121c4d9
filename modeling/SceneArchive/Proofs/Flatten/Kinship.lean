import SceneArchive.Flatten
import SceneArchive.Proofs.Schema.Ancestry

/-!
# Kinship of records

Where the links of a source agree with a schema whose kinds form a forest, its records form a
forest too. Seen from one record, the others of its tree are its descendants and what lies above
it: its ancestors, and their descendants on other branches than the one it is on.

* `above_iff`: what lies above a record is its parent, the other branches of its parent, and what
  lies above its parent.
* `not_descends_of_above`, `disjoint_of_siblings`: none of these parts meets another.
-/

namespace SceneArchive

namespace Source

/-- Whether a source lists a record and leads to it. -/
def Holds (s : Source) (e : Entity) : Prop := e.ref ∈ s.refs ∧ s.load e.ref = .ok e

/-- Links that agree with the schema: every listed reference leads to its record, a parent that the
schema knows of is a listed record of the kind that the schema names, and the children of a kind
are the records of that kind with this parent, each once and by identifier. -/
structure Consistent (s : Source) : Prop where
  loads : ∀ r ∈ s.refs, ∃ e, s.load r = .ok e ∧ e.ref = r
  parents : ∀ e, s.Holds e → ∀ relation, s.schema.parentOf e.kind = some relation →
    ∀ p, e.parent? = some p → p.kind = relation.parent ∧ p ∈ s.refs
  children : ∀ e, s.Holds e → ∀ kind, s.schema.Wired kind e.kind →
    ∃ es, s.children e.ref kind = .ok es ∧ es.Pairwise (·.id < ·.id) ∧
      ∀ c, c ∈ es ↔ s.Holds c ∧ c.kind = kind ∧ c.parent? = some e.ref

/-- Whether a record names another as its parent and its kind belongs to the kind of the other. -/
structure BelongsTo (s : Source) (e parent : Entity) : Prop where
  held : s.Holds e
  parentHeld : s.Holds parent
  wired : s.schema.Wired e.kind parent.kind
  named : e.parent? = some parent.ref

/-- Whether a record is another one or belongs to it, directly or through others. -/
def Descends (s : Source) : Entity → Entity → Prop := Relation.ReflTransGen s.BelongsTo

/-- What lies above a record: its ancestors, and for each of them the descendants of its children
of other kinds than the child that leads to the record. -/
def Above (s : Source) (e d : Entity) : Prop :=
  ∃ x a, s.Descends e x ∧ s.BelongsTo x a ∧
    (d = a ∨ ∃ c, s.BelongsTo c a ∧ c.kind ≠ x.kind ∧ s.Descends d c)

variable {s : Source} {e a c d : Entity}

theorem Holds.unique (h : s.Holds e) (h' : s.Holds d) (same : e.ref = d.ref) : e = d := by
  have loaded := h.2
  rw [same, h'.2] at loaded
  cases loaded
  rfl

theorem BelongsTo.unique (h : s.BelongsTo e a) (h' : s.BelongsTo e d) : a = d := by
  have same := h.named
  rw [h'.named] at same
  exact h.parentHeld.unique h'.parentHeld (Option.some.inj same).symm

theorem Descends.held (h : s.Descends d e) (held : s.Holds e) : s.Holds d := by
  rcases Relation.ReflTransGen.cases_head h with rfl | ⟨_, first, -⟩
  · exact held
  · exact first.held

theorem Descends.kind_eq_or_below (h : s.Descends d e) :
    d.kind = e.kind ∨ s.schema.Below d.kind e.kind := by
  induction h with
  | refl => exact .inl rfl
  | tail _ last ih =>
    rcases ih with same | below
    · exact .inr (same ▸ last.wired.below)
    · exact .inr (Relation.TransGen.tail below last.wired)

theorem descends_iff : s.Descends d e ↔ d = e ∨ ∃ c, s.BelongsTo c e ∧ s.Descends d c := by
  unfold Descends
  rw [Relation.ReflTransGen.cases_tail_iff, eq_comm]
  simp only [and_comm]

/-! ## What lies above -/

theorem not_above_of_no_parent (none : ∀ a, ¬ s.BelongsTo e a) : ¬ s.Above e d := by
  rintro ⟨x, a, path, last, -⟩
  rcases Relation.ReflTransGen.cases_head path with rfl | ⟨p, first, -⟩
  · exact none a last
  · exact none p first

theorem above_iff (h : s.BelongsTo e a) :
    s.Above e d ↔
      d = a ∨ s.Above a d ∨ ∃ c, s.BelongsTo c a ∧ c.kind ≠ e.kind ∧ s.Descends d c := by
  constructor
  · rintro ⟨x, p, path, last, reached⟩
    rcases Relation.ReflTransGen.cases_head path with rfl | ⟨q, first, rest⟩
    · obtain rfl := last.unique h
      rcases reached with rfl | branch
      · exact .inl rfl
      · exact .inr (.inr branch)
    · obtain rfl := first.unique h
      exact .inr (.inl ⟨x, p, rest, last, reached⟩)
  · rintro (rfl | ⟨x, p, path, last, reached⟩ | branch)
    · exact ⟨e, d, .refl, h, .inl rfl⟩
    · exact ⟨x, p, .head h path, last, reached⟩
    · exact ⟨e, a, .refl, h, .inr branch⟩

theorem Above.held (h : s.Above e d) : s.Holds d := by
  obtain ⟨x, a, -, last, rfl | ⟨c, branch, -, path⟩⟩ := h
  · exact last.parentHeld
  · exact path.held branch.held

/-! ## Parts that do not meet -/

variable (forest : s.schema.IsForest)

include forest

/-- A record does not descend from its children. -/
theorem not_descends_child (h : s.BelongsTo c e) : ¬ s.Descends e c := by
  intro path
  apply forest.acyclic c.kind
  rcases path.kind_eq_or_below with same | below
  · exact same ▸ h.wired.below
  · exact Relation.TransGen.head h.wired below

/-- Nothing descends from two children of a record. -/
theorem disjoint_of_siblings {c' : Entity} (h : s.BelongsTo c e) (h' : s.BelongsTo c' e)
    (path : s.Descends d c) (path' : s.Descends d c') : c = c' := by
  have up {x y : Entity} (hx : s.BelongsTo x e) (hy : s.BelongsTo y e) (between : s.Descends x y) :
      x = y := by
    rcases Relation.ReflTransGen.cases_head between with same | ⟨p, first, rest⟩
    · exact same
    · obtain rfl := first.unique hx
      exact absurd rest (not_descends_child forest hy)
  have unique : Relator.RightUnique s.BelongsTo := fun _ _ _ first second => first.unique second
  rcases Relation.ReflTransGen.total_of_right_unique unique path path' with between | between
  · exact up h h' between
  · exact (up h' h between).symm

/-- Nothing above a record descends from it. -/
theorem not_descends_of_above (h : s.Above e d) : ¬ s.Descends d e := by
  intro below
  obtain ⟨x, a, path, last, rfl | ⟨c, branch, other, path'⟩⟩ := h
  · exact not_descends_child forest last (Relation.ReflTransGen.trans below path)
  · have same := disjoint_of_siblings forest branch last path'
      (Relation.ReflTransGen.trans below path)
    exact other (congrArg Entity.kind same)

end Source

/-! ## Lists of records -/

namespace Source

variable {schema : Schema} {records : List Entity} (distinct : (records.map (·.ref)).Nodup)

include distinct

theorem holds_ofRecords_iff {e : Entity} : (ofRecords schema records).Holds e ↔ e ∈ records := by
  have load : (ofRecords schema records).load e.ref = .ok e ↔
      records.find? (·.ref == e.ref) = some e := by
    simp only [ofRecords]
    split
    · next found => simp [found]
    · next found => simp [found]
  rw [Holds, load, Keys.find?_eq_some_iff distinct]
  exact ⟨fun holds => holds.2.1, fun mem => ⟨List.mem_map_of_mem mem, mem, rfl⟩⟩

/-- Records with references of their own are consistent if the parents that the schema knows of are
among them and have the kinds that it names. -/
theorem consistent_ofRecords
    (parents : ∀ e ∈ records, ∀ relation, schema.parentOf e.kind = some relation →
      ∀ p, e.parent? = some p → p.kind = relation.parent ∧ p ∈ records.map (·.ref)) :
    (ofRecords schema records).Consistent where
  loads := by
    intro r listed
    obtain ⟨e, mem, rfl⟩ := List.mem_map.mp listed
    exact ⟨e, ((holds_ofRecords_iff distinct).mpr mem).2, rfl⟩
  parents := fun e held => parents e ((holds_ofRecords_iff distinct).mp held)
  children := by
    intro e _ kind _
    refine ⟨_, rfl, ?_, ?_⟩
    · let chosen := records.filter fun c => c.kind == kind && c.parent? == some e.ref
      let sorted := chosen.mergeSort fun a b => decide (a.id ≤ b.id)
      have ordered : sorted.Pairwise fun a b => decide (a.id ≤ b.id) = true := by
        apply List.pairwise_mergeSort
        · intro a b c hab hbc
          rw [decide_eq_true_eq] at hab hbc ⊢
          exact le_trans hab hbc
        · intro a b
          simpa using le_total a.id b.id
      have apart : (sorted.map (·.ref)).Pairwise (· ≠ ·) := by
        refine ((List.mergeSort_perm chosen _).map (·.ref)).nodup_iff.mpr ?_
        exact distinct.sublist (List.filter_sublist.map _)
      refine (ordered.and (List.pairwise_map.mp apart)).imp_of_mem ?_
      rintro a b first later ⟨before, other⟩
      -- Records of one kind with references of their own have identifiers of their own.
      have kindOf {c : Entity} (mem : c ∈ sorted) : c.kind = kind := by
        have chosen := (List.mem_filter.mp (List.mem_mergeSort.mp mem)).2
        simp only [Bool.and_eq_true, beq_iff_eq] at chosen
        exact chosen.1
      refine lt_of_le_of_ne (of_decide_eq_true before) ?_
      intro same
      apply other
      rw [Entity.ref, Entity.ref, kindOf first, kindOf later, same]
    · intro c
      rw [List.mem_mergeSort, List.mem_filter, holds_ofRecords_iff distinct]
      simp

end Source

/-! ## What a traversal looks at next -/

namespace Flatten

variable {s : Source} {path : List Kind} {e : Entity}

theorem mem_openChildKinds (forest : s.schema.IsForest) {kind parent : Kind} :
    kind ∈ openChildKinds s path parent ↔ s.schema.Wired kind parent ∧ kind ∉ path := by
  unfold openChildKinds
  rw [List.mem_filter, forest.mem_childrenOf]
  simp

theorem nodup_openChildKinds (forest : s.schema.IsForest) (parent : Kind) :
    (openChildKinds s path parent).Nodup :=
  forest.nodup_childrenOf.filter _

/-- The parent is looked at if there is one whose kind is not on the path. -/
theorem openParent?_cases (consistent : s.Consistent) (held : s.Holds e) (path : List Kind) :
    (openParent? s path e = none ∧ ∀ p, s.BelongsTo e p → p.kind ∈ path) ∨
      ∃ relation p, openParent? s path e = some (relation, p.ref) ∧
        s.schema.parentOf e.kind = some relation ∧ s.BelongsTo e p ∧ p.kind ∉ path := by
  cases related : s.schema.parentOf e.kind with
  | none =>
    refine .inl ⟨by simp [openParent?, related], ?_⟩
    intro p belongs
    obtain ⟨relation, related', -⟩ := belongs.wired
    rw [related] at related'
    cases related'
  | some relation =>
    cases named : e.parent? with
    | none =>
      refine .inl ⟨by simp [openParent?, related, named], ?_⟩
      intro p belongs
      have named' := belongs.named
      rw [named] at named'
      cases named'
    | some r =>
      obtain ⟨kind, listed⟩ := consistent.parents e held relation related r named
      obtain ⟨p, loaded, rfl⟩ := consistent.loads r listed
      have belongs : s.BelongsTo e p :=
        ⟨held, ⟨listed, loaded⟩, ⟨relation, related, kind.symm⟩, named⟩
      have parentKind : relation.parent = p.kind := kind.symm
      by_cases onPath : p.kind ∈ path
      · refine .inl ⟨by simp [openParent?, related, named, parentKind, onPath], ?_⟩
        intro q belongs'
        rwa [← belongs.unique belongs']
      · refine .inr ⟨relation, p, ?_, rfl, belongs, onPath⟩
        simp [openParent?, related, named, parentKind, onPath]

end Flatten

end SceneArchive
