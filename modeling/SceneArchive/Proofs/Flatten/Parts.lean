import SceneArchive.Proofs.Flatten.Encounters
import SceneArchive.Proofs.Flatten.Shown

/-!
# A tree put together from its parts

The tree of a record is made of the trees of its parent and its children. If each of them is shown
wherever nothing in it is visited yet, then so is the record: on records that form a forest, its
parts have nothing in common, so they may be shown one after the other.

* `run_members`: parts that have nothing in common are shown one after the other.
* `exists_found`: the parts that the traversal looks at are those of the record.
* `exists_expansion`: the parts of a record put together.
-/

namespace SceneArchive

/-- Whether the name of each relationship differs from the names of the attributes beside it and
from those of kinds. -/
def Source.NamesApart (s : Source) : Prop :=
  ∀ e, s.Holds e → ∀ relation, s.schema.parentOf e.kind = some relation →
    (∀ a ∈ e.attributes, a.1 ≠ relation.slot.field) ∧ ∀ kind : Kind, kind.name ≠ relation.slot.field

/-- Whether the names of the relationships that a schema knows of are apart in this way. -/
def Schema.NamesApart (schema : Schema) : Prop :=
  ∀ e : Entity, ∀ relation, schema.parentOf e.kind = some relation →
    (∀ a ∈ e.attributes, a.1 ≠ relation.slot.field) ∧ ∀ kind : Kind, kind.name ≠ relation.slot.field

theorem Schema.namesApart_standard : standard.NamesApart := by
  intro e relation related
  have apart : ∀ kind : Kind, ∀ relation ∈ standard.parentOf kind,
      relation.slot.field ∉ auditColumns ++ (standard.fieldsOf kind).map (·.name) ∧
        ∀ other : Kind, other.name ≠ relation.slot.field := by
    decide +kernel
  obtain ⟨attributes, kinds⟩ := apart e.kind relation related
  refine ⟨?_, kinds⟩
  intro a mem same
  rw [← e.names_attributes, ← same] at attributes
  exact attributes (List.mem_map_of_mem mem)

namespace Flatten

/-- Whether the records shown in a tree are those of a collection. -/
def Shown.Covers (t : Shown) (R : Entity → Prop) : Prop := ∀ r, r ∈ t.refs ↔ ∃ d, R d ∧ d.ref = r

/-- Whether the traversal gives a tree for its record wherever nothing in the tree is visited yet,
and the tree shows the record. -/
structure Expansion (s : Source) (path : List Kind) (t : Shown) : Prop where
  shows : Shows s path t
  distinct : t.refs.Nodup
  runs : ∀ visited, (∀ r ∈ t.refs, r ∉ visited) → ∀ depth, unvisited s visited < depth →
    (expand s depth path t.record).run visited = (.ok t.tree, t.refs.reverse ++ visited)

/-! ## Parts one after the other -/

section

variable {α β : Type} {visited after : List Ref}

theorem Traversal.run_bind_of_ok {x : Traversal α} {f : α → Traversal β} {a : α}
    (h : x.run visited = (.ok a, after)) : (x >>= f).run visited = (f a).run after := by
  rw [Traversal.run_bind, h]

theorem run_mapM {γ : Type} {f : γ → Traversal β} {key : α → γ} {result : α → β}
    {refs : α → List Ref} {xs : List α} (distinct : (xs.flatMap refs).Nodup)
    (apart : ∀ r ∈ xs.flatMap refs, r ∉ visited)
    (each : ∀ x ∈ xs, ∀ after, visited ⊆ after → (∀ r ∈ refs x, r ∉ after) →
      (f (key x)).run after = (.ok (result x), (refs x).reverse ++ after)) :
    ((xs.map key).mapM f).run visited =
      (.ok (xs.map result), (xs.flatMap refs).reverse ++ visited) := by
  induction xs generalizing visited with
  | nil => rfl
  | cons x xs ih =>
    rw [List.flatMap_cons] at distinct apart ⊢
    obtain ⟨-, others, disjoint⟩ := List.nodup_append.mp distinct
    have first := each x List.mem_cons_self visited (List.Subset.refl _)
      fun r mem => apart r (List.mem_append_left _ mem)
    have rest : ((xs.map key).mapM f).run ((refs x).reverse ++ visited) =
        (.ok (xs.map result), (xs.flatMap refs).reverse ++ ((refs x).reverse ++ visited)) := by
      apply ih others
      · intro r mem
        rw [List.mem_append, List.mem_reverse, not_or]
        refine ⟨?_, apart r (List.mem_append_right _ mem)⟩
        intro shared
        exact disjoint r shared r mem rfl
      · intro x' mem after grown
        apply each x' (List.mem_cons_of_mem x mem)
        intro r seen
        exact grown (List.mem_append_right _ seen)
    rw [List.map_cons, List.mapM_cons, Traversal.run_bind_of_ok first,
      Traversal.run_bind_of_ok rest, List.reverse_append, List.append_assoc]
    rfl

end

/-- Whether a traversal that has visited at least the given references gives a tree for its record,
if nothing in the tree is among them. -/
def Shown.RunsAfter (t : Shown) (next : Entity → Traversal Json) (visited : List Ref) : Prop :=
  ∀ after, visited ⊆ after → (∀ r ∈ t.refs, r ∉ after) →
    (next t.record).run after = (.ok t.tree, t.refs.reverse ++ after)

/-- Whether parts are those that a traversal looks at. -/
structure Parts.Found (parts : Parts) (s : Source) (path : List Kind) (e : Entity) : Prop where
  parent : openParent? s path e = parts.parent.map fun x => (x.1, x.2.record.ref)
  loads : ∀ x ∈ parts.parent, s.load x.2.record.ref = .ok x.2.record
  kinds : parts.children.map (·.1) = openChildKinds s path e.kind
  children : ∀ g ∈ parts.children, s.children e.ref g.1 = .ok (g.2.map (·.record))

section

variable {s : Source} {path : List Kind} {e : Entity} {parts : Parts} {visited : List Ref}
  {next : Entity → Traversal Json}

theorem run_parentMember (found : parts.Found s path e)
    (runs : ∀ x ∈ parts.parent,
      (next x.2.record).run visited = (.ok x.2.tree, x.2.refs.reverse ++ visited)) :
    (parentMember s next path e).run visited =
      (.ok (parts.parent.map fun x => (x.1.slot.field, x.2.tree)).toList,
        ((parts.parent.map (·.2)).toList.flatMap (·.refs)).reverse ++ visited) := by
  unfold parentMember
  rw [found.parent]
  cases shown : parts.parent with
  | none => rfl
  | some x =>
    have load : (MonadExcept.ofExcept (s.load x.2.record.ref) : Traversal Entity).run visited =
        (.ok x.2.record, visited) := by
      rw [found.loads x shown]
      rfl
    change ((MonadExcept.ofExcept (s.load x.2.record.ref) : Traversal Entity) >>= _).run visited = _
    rw [Traversal.run_bind_of_ok load, Traversal.run_bind_of_ok (runs x shown)]
    simp only [Option.map_some, Option.toList_some, List.flatMap_singleton]
    rfl

theorem run_childrenMember (found : parts.Found s path e) {g : Kind × List Shown}
    (mem : g ∈ parts.children) (distinct : (g.2.flatMap (·.refs)).Nodup)
    (apart : ∀ r ∈ g.2.flatMap (·.refs), r ∉ visited)
    (runs : ∀ t ∈ g.2, t.RunsAfter next visited) :
    (childrenMember s next e.ref g.1).run visited =
      (.ok (g.1.name, .array (g.2.map (·.tree))), (g.2.flatMap (·.refs)).reverse ++ visited) := by
  have listed : (MonadExcept.ofExcept (s.children e.ref g.1) : Traversal _).run visited =
      (.ok (g.2.map (·.record)), visited) := by
    rw [found.children g mem]
    rfl
  unfold childrenMember
  rw [Traversal.run_bind_of_ok listed, Traversal.run_bind_of_ok (run_mapM distinct apart runs)]
  rfl

/-- Parts that have nothing in common are shown one after the other. -/
theorem run_members (found : parts.Found s path e)
    (distinct : (parts.shown.flatMap (·.refs)).Nodup)
    (apart : ∀ r ∈ parts.shown.flatMap (·.refs), r ∉ visited)
    (runs : ∀ t ∈ parts.shown, t.RunsAfter next visited) :
    (members s next path e).run visited =
      (.ok (.object (NameMap.insertAll e.fields parts.entries)),
        (parts.shown.flatMap (·.refs)).reverse ++ visited) := by
  have split : parts.shown.flatMap (·.refs) =
      (parts.parent.map (·.2)).toList.flatMap (·.refs) ++
        parts.children.flatMap fun g => g.2.flatMap (·.refs) := by
    rw [Parts.shown, List.flatMap_append, List.flatMap_assoc]
  rw [split] at distinct apart ⊢
  obtain ⟨-, distinctBelow, disjoint⟩ := List.nodup_append.mp distinct
  have runsAbove : ∀ x ∈ parts.parent,
      (next x.2.record).run visited = (.ok x.2.tree, x.2.refs.reverse ++ visited) := by
    intro x mem
    apply runs x.2 (Parts.mem_shown.mpr (.inl ⟨x, mem, rfl⟩)) visited (List.Subset.refl _)
    intro r shown
    apply apart r
    apply List.mem_append_left
    exact List.mem_flatMap.mpr ⟨x.2, Option.mem_toList.mpr (Option.mem_map_of_mem _ mem), shown⟩
  have above := run_parentMember found runsAbove
  generalize (parts.parent.map (·.2)).toList.flatMap (·.refs) = refs at above apart disjoint ⊢
  have apartBelow : ∀ r ∈ parts.children.flatMap fun g => g.2.flatMap (·.refs),
      r ∉ refs.reverse ++ visited := by
    intro r shown
    rw [List.mem_append, List.mem_reverse, not_or]
    refine ⟨?_, apart r (List.mem_append_right _ shown)⟩
    intro shared
    exact disjoint r shared r shown rfl
  have runsBelow : ∀ g ∈ parts.children, ∀ after, refs.reverse ++ visited ⊆ after →
      (∀ r ∈ g.2.flatMap (·.refs), r ∉ after) →
      (childrenMember s next e.ref g.1).run after =
        (.ok (g.1.name, .array (g.2.map (·.tree))), (g.2.flatMap (·.refs)).reverse ++ after) := by
    intro g mem after grown apart'
    refine run_childrenMember found mem ?_ apart' ?_
    · exact (List.nodup_flatMap.mp distinctBelow).1 g mem
    · intro t mem' after' grown'
      apply runs t (Parts.mem_shown.mpr (.inr ⟨g, mem, mem'⟩))
      intro r seen
      exact grown' (grown (List.mem_append_right _ seen))
  have below := run_mapM distinctBelow apartBelow runsBelow
  rw [found.kinds] at below
  unfold members
  rw [Traversal.run_bind_of_ok above, Traversal.run_bind_of_ok below, List.reverse_append,
    List.append_assoc]
  rfl

end

/-! ## The parts of a record -/

section

variable {s : Source} {path : List Kind} {e : Entity} {parts : Parts}

theorem Parts.Found.parent_of_mem (found : parts.Found s path e) (consistent : s.Consistent)
    (held : s.Holds e) {x : Relation × Shown} (mem : x ∈ parts.parent) :
    s.schema.parentOf e.kind = some x.1 ∧ s.BelongsTo e x.2.record ∧ x.2.record.kind ∉ path := by
  have looked : openParent? s path e = some (x.1, x.2.record.ref) := by
    rw [found.parent, Option.mem_def.mp mem, Option.map_some]
  rcases openParent?_cases consistent held path with
    ⟨none, -⟩ | ⟨relation, p, some, related, belongs, off⟩
  · rw [none] at looked
    cases looked
  · rw [looked] at some
    obtain ⟨rfl, same⟩ := Prod.mk.inj (Option.some.inj some)
    have loaded := found.loads x mem
    rw [same, belongs.parentHeld.2] at loaded
    cases loaded
    exact ⟨related, belongs, off⟩

theorem Parts.Found.of (found : parts.Found s path e) (forest : s.schema.IsForest)
    (consistent : s.Consistent) (held : s.Holds e) : parts.Of s path e where
  parentOpen := by
    intro p belongs off
    rcases openParent?_cases consistent held path with ⟨-, closed⟩ | ⟨relation, q, looked, -⟩
    · exact absurd (closed p belongs) off
    · rw [found.parent] at looked
      obtain ⟨x, mem, -⟩ := Option.map_eq_some_iff.mp looked
      exact ⟨x, mem, (found.parent_of_mem consistent held mem).2.1.unique belongs⟩
  parent := fun _ mem => found.parent_of_mem consistent held mem
  kinds := by
    intro kind
    rw [found.kinds, mem_openChildKinds forest]
  distinct := found.kinds ▸ nodup_openChildKinds forest e.kind
  children := by
    intro g mem
    have listed : g.1 ∈ openChildKinds s path e.kind := found.kinds ▸ List.mem_map_of_mem mem
    have wired := ((mem_openChildKinds forest).mp listed).1
    obtain ⟨es, children, sorted, complete⟩ := consistent.children e held g.1 wired
    rw [found.children g mem] at children
    cases children
    rw [List.pairwise_map] at sorted
    refine ⟨sorted, ?_⟩
    intro c
    rw [complete]
    constructor
    · rintro ⟨heldC, kind, named⟩
      exact ⟨kind, heldC, held, kind ▸ wired, named⟩
    · rintro ⟨kind, belongs⟩
      exact ⟨belongs.held, kind, belongs.named⟩

theorem exists_map_eq {α β : Type} {f : α → β} {P : α → Prop} {ys : List β}
    (each : ∀ y ∈ ys, ∃ x, f x = y ∧ P x) : ∃ xs : List α, xs.map f = ys ∧ ∀ x ∈ xs, P x := by
  induction ys with
  | nil => exact ⟨[], rfl, by simp⟩
  | cons y ys ih =>
    obtain ⟨x, rfl, hx⟩ := each y List.mem_cons_self
    obtain ⟨xs, rfl, hxs⟩ := ih fun y mem => each y (List.mem_cons_of_mem _ mem)
    exact ⟨x :: xs, rfl, List.forall_mem_cons.mpr ⟨hx, hxs⟩⟩

/-- The traversal finds the parts of a record, if each of them can be shown. -/
theorem exists_found (forest : s.schema.IsForest) (consistent : s.Consistent) (held : s.Holds e)
    (path : List Kind) {P : Shown → Prop}
    (above : ∀ p, s.BelongsTo e p → p.kind ∉ path → ∃ t : Shown, t.record = p ∧ P t)
    (below : ∀ c, s.BelongsTo c e → c.kind ∉ path → ∃ t : Shown, t.record = c ∧ P t) :
    ∃ parts : Parts, parts.Found s path e ∧ ∀ t ∈ parts.shown, P t := by
  have parent : ∃ parent : Option (Relation × Shown),
      (openParent? s path e = parent.map fun x => (x.1, x.2.record.ref)) ∧
        ∀ x ∈ parent, s.load x.2.record.ref = .ok x.2.record ∧ P x.2 := by
    rcases openParent?_cases consistent held path with
      ⟨none, -⟩ | ⟨relation, p, some, -, belongs, off⟩
    · exact ⟨.none, none, by simp⟩
    · obtain ⟨t, rfl, shown⟩ := above p belongs off
      refine ⟨.some (relation, t), some, ?_⟩
      rintro x ⟨⟩
      exact ⟨belongs.parentHeld.2, shown⟩
  have children : ∀ kind ∈ openChildKinds s path e.kind, ∃ g : Kind × List Shown, g.1 = kind ∧
      s.children e.ref g.1 = .ok (g.2.map (·.record)) ∧ ∀ t ∈ g.2, P t := by
    intro kind mem
    obtain ⟨wired, off⟩ := (mem_openChildKinds forest).mp mem
    obtain ⟨es, listed, -, complete⟩ := consistent.children e held kind wired
    have each : ∀ c ∈ es, ∃ t : Shown, t.record = c ∧ P t := by
      intro c mem
      obtain ⟨heldC, rfl, named⟩ := (complete c).mp mem
      exact below c ⟨heldC, held, wired, named⟩ off
    obtain ⟨ts, rfl, shown⟩ := exists_map_eq each
    exact ⟨(kind, ts), rfl, listed, shown⟩
  obtain ⟨parent, looked, loads⟩ := parent
  obtain ⟨groups, kinds, children⟩ := exists_map_eq children
  refine ⟨⟨parent, groups⟩, ⟨looked, fun x mem => (loads x mem).1, kinds,
    fun g mem => (children g mem).1⟩, ?_⟩
  intro t mem
  rcases Parts.mem_shown.mp mem with ⟨x, found, rfl⟩ | ⟨g, found, listed⟩
  · exact (loads x found).2
  · exact (children g found).2 t listed

/-! ## A record put together from its parts -/

/-- Whether a tree shows the parent of a record with what lies above it, or a child with its
descendants. -/
def IsPartOf (s : Source) (e : Entity) (t : Shown) : Prop :=
  (s.BelongsTo e t.record ∧ t.Covers (s.Above e)) ∨
    (s.BelongsTo t.record e ∧ t.Covers (s.Descends · t.record))

theorem Parts.Of.belongsTo_of_mem (of : parts.Of s path e) {g : Kind × List Shown}
    (mem : g ∈ parts.children) {t : Shown} (listed : t ∈ g.2) :
    t.record.kind = g.1 ∧ s.BelongsTo t.record e :=
  ((of.children g mem).2 t.record).mp (List.mem_map_of_mem listed)

/-- A part is the parent or one of the children. -/
theorem Parts.Of.mem_shown_cases (of : parts.Of s path e) {t : Shown} (mem : t ∈ parts.shown) :
    (s.BelongsTo e t.record ∧ t.record.kind ∉ path) ∨
      (s.BelongsTo t.record e ∧ t.record.kind ∉ path) := by
  rcases Parts.mem_shown.mp mem with ⟨x, found, rfl⟩ | ⟨g, found, listed⟩
  · exact .inl (of.parent x found).2
  · obtain ⟨kind, belongs⟩ := of.belongsTo_of_mem found listed
    exact .inr ⟨belongs, kind ▸ ((of.kinds g.1).mp (List.mem_map_of_mem found)).2⟩

/-! ### Its members -/

theorem Parts.map_entries (parts : Parts) : parts.entries.map (·.1) =
    (parts.parent.map fun x => x.1.slot.field).toList ++
      (parts.children.map (·.1)).map Kind.name := by
  obtain ⟨parent, children⟩ := parts
  cases parent <;> simp [Parts.entries, Function.comp_def]

theorem Parts.Of.nodup_entries (of : parts.Of s path e) (names : s.NamesApart)
    (held : s.Holds e) : (parts.entries.map (·.1)).Nodup := by
  rw [parts.map_entries, List.nodup_append]
  refine ⟨?_, of.distinct.map Kind.name_injective, ?_⟩
  · cases parts.parent <;> simp
  · intro name first other later
    obtain ⟨x, found, rfl⟩ := Option.mem_map.mp (Option.mem_toList.mp first)
    obtain ⟨kind, -, rfl⟩ := List.mem_map.mp later
    exact ((names e held x.1 (of.parent x found).1).2 kind).symm

theorem Parts.Of.attribute_not_mem (of : parts.Of s path e) (names : s.NamesApart)
    (held : s.Holds e) {a : String × Value} (mem : a ∈ e.attributes) :
    a.1 ∉ parts.entries.map (·.1) := by
  rw [parts.map_entries, List.mem_append]
  rintro (first | later)
  · obtain ⟨x, found, same⟩ := Option.mem_map.mp (Option.mem_toList.mp first)
    exact (names e held x.1 (of.parent x found).1).1 a mem same.symm
  · obtain ⟨kind, -, same⟩ := List.mem_map.mp later
    exact Entity.name_ne_attribute kind mem same.symm

/-- The tree of a record with given parts. -/
def Parts.node (parts : Parts) (e : Entity) : Shown :=
  ⟨e, .object (NameMap.insertAll e.fields parts.entries), e.ref :: parts.shown.flatMap (·.refs)⟩

theorem Parts.Of.hasMembers (of : parts.Of s path e) (names : s.NamesApart) (held : s.Holds e) :
    (parts.node e).HasMembers parts (NameMap.insertAll e.fields parts.entries) where
  tree := rfl
  refs := rfl
  attributes := by
    intro a mem
    rw [NameMap.get?_insertAll_of_not_mem (of.attribute_not_mem names held mem)]
    exact Entity.get?_fields mem
  entries := fun _ mem => NameMap.get?_insertAll_of_nodup (of.nodup_entries names held) mem
  nothingElse := by
    intro m mem
    rcases NameMap.mem_insertAll mem with part | own
    · exact .inr part
    · exact .inl (Entity.exists_of_mem_fields own)

/-! ### Its references -/

theorem Shown.Covers.disjoint {t u : Shown} {R R' : Entity → Prop} (h : t.Covers R)
    (h' : u.Covers R') (held : ∀ d, R d → s.Holds d) (held' : ∀ d, R' d → s.Holds d)
    (apart : ∀ d, R d → ¬ R' d) : t.refs.Disjoint u.refs := by
  intro r mem mem'
  obtain ⟨d, inR, rfl⟩ := (h r).mp mem
  obtain ⟨d', inR', same⟩ := (h' d.ref).mp mem'
  obtain rfl := (held d inR).unique (held' d' inR') same.symm
  exact apart d inR inR'

theorem IsPartOf.covers_above (forest : s.schema.IsForest) {t : Shown} (h : IsPartOf s e t)
    (belongs : s.BelongsTo e t.record) : t.Covers (s.Above e) := by
  rcases h with ⟨-, covers⟩ | ⟨back, -⟩
  · exact covers
  · exact absurd (.single back) (Source.not_descends_child forest belongs)

theorem IsPartOf.covers_below (forest : s.schema.IsForest) {t : Shown} (h : IsPartOf s e t)
    (belongs : s.BelongsTo t.record e) : t.Covers (s.Descends · t.record) := by
  rcases h with ⟨back, -⟩ | ⟨-, covers⟩
  · exact absurd (.single back) (Source.not_descends_child forest belongs)
  · exact covers

theorem not_mem_refs (forest : s.schema.IsForest) (held : s.Holds e) {t : Shown}
    (h : IsPartOf s e t) : e.ref ∉ t.refs := by
  intro mem
  rcases h with ⟨-, covers⟩ | ⟨belongs, covers⟩
  · obtain ⟨d, above, same⟩ := (covers e.ref).mp mem
    obtain rfl := above.held.unique held same
    exact Source.not_descends_of_above forest above .refl
  · obtain ⟨d, below, same⟩ := (covers e.ref).mp mem
    obtain rfl := (below.held belongs.held).unique held same
    exact Source.not_descends_child forest belongs below

theorem disjoint_of_children (forest : s.schema.IsForest) {t u : Shown} (h : IsPartOf s e t)
    (h' : IsPartOf s e u) (belongs : s.BelongsTo t.record e) (belongs' : s.BelongsTo u.record e)
    (other : t.record ≠ u.record) : t.refs.Disjoint u.refs := by
  apply (h.covers_below forest belongs).disjoint (h'.covers_below forest belongs')
  · exact fun d below => below.held belongs.held
  · exact fun d below => below.held belongs'.held
  · exact fun d below below' =>
      other (Source.disjoint_of_siblings forest belongs belongs' below below')

theorem disjoint_of_parent_child (forest : s.schema.IsForest) {t u : Shown} (h : IsPartOf s e t)
    (h' : IsPartOf s e u) (belongs : s.BelongsTo e t.record) (belongs' : s.BelongsTo u.record e) :
    t.refs.Disjoint u.refs := by
  apply (h.covers_above forest belongs).disjoint (h'.covers_below forest belongs')
  · exact fun d above => above.held
  · exact fun d below => below.held belongs'.held
  · exact fun d above below =>
      Source.not_descends_of_above forest above (Relation.ReflTransGen.tail below belongs')

/-- The parts of a record have nothing in common with it or with each other. -/
theorem Parts.Of.nodup_node (of : parts.Of s path e) (forest : s.schema.IsForest)
    (held : s.Holds e) (isPart : ∀ t ∈ parts.shown, IsPartOf s e t)
    (each : ∀ t ∈ parts.shown, t.refs.Nodup) :
    (parts.node e).refs.Nodup := by
  refine List.nodup_cons.mpr ⟨?_, List.nodup_flatMap.mpr ⟨each, ?_⟩⟩
  · intro mem
    obtain ⟨t, shown, mem⟩ := List.mem_flatMap.mp mem
    exact not_mem_refs forest held (isPart t shown) mem
  have child {g : Kind × List Shown} (mem : g ∈ parts.children) {t : Shown} (listed : t ∈ g.2) :
      IsPartOf s e t :=
    isPart t (Parts.mem_shown.mpr (.inr ⟨g, mem, listed⟩))
  refine List.pairwise_append.mpr ⟨?_, List.pairwise_flatMap.mpr ⟨?_, ?_⟩, ?_⟩
  · cases parts.parent <;> simp
  · -- Children of one kind differ by their identifiers.
    intro g mem
    refine (of.children g mem).1.imp_of_mem ?_
    intro t u first later before
    apply disjoint_of_children forest (child mem first) (child mem later)
      (of.belongsTo_of_mem mem first).2 (of.belongsTo_of_mem mem later).2
    intro same
    rw [same] at before
    exact lt_irrefl _ before
  · -- Children of two kinds are two records.
    refine (List.pairwise_map.mp of.distinct).imp_of_mem ?_
    intro g g' mem mem' other t first u later
    obtain ⟨kind, belongs⟩ := of.belongsTo_of_mem mem first
    obtain ⟨kind', belongs'⟩ := of.belongsTo_of_mem mem' later
    apply disjoint_of_children forest (child mem first) (child mem' later) belongs belongs'
    intro same
    rw [same, kind'] at kind
    exact other kind.symm
  · intro t first u later
    have parent : IsPartOf s e t := isPart t (List.mem_append_left _ first)
    obtain ⟨x, found, rfl⟩ := Option.mem_map.mp (Option.mem_toList.mp first)
    obtain ⟨g, found', listed⟩ := List.mem_flatMap.mp later
    exact disjoint_of_parent_child forest parent (child found' listed)
      (of.parent x found).2.1 (of.belongsTo_of_mem found' listed).2

/-- What the tree of a record shows besides it: what lies above it, and the descendants of its
children, as far as their kinds are not on the path. -/
theorem Parts.Of.covers_node (of : parts.Of s path e) (forest : s.schema.IsForest)
    (isPart : ∀ t ∈ parts.shown, IsPartOf s e t) :
    (parts.node e).Covers fun d => d = e ∨ (∃ p, s.BelongsTo e p ∧ p.kind ∉ path ∧ s.Above e d) ∨
      ∃ c, s.BelongsTo c e ∧ c.kind ∉ path ∧ s.Descends d c := by
  intro r
  have split : r ∈ (parts.node e).refs ↔ r = e.ref ∨ ∃ t ∈ parts.shown, r ∈ t.refs := by
    rw [Parts.node, List.mem_cons, List.mem_flatMap]
  rw [split]
  constructor
  · rintro (rfl | ⟨t, shown, mem⟩)
    · exact ⟨e, .inl rfl, rfl⟩
    · rcases of.mem_shown_cases shown with ⟨belongs, off⟩ | ⟨belongs, off⟩
      · obtain ⟨d, above, same⟩ := ((isPart t shown).covers_above forest belongs r).mp mem
        exact ⟨d, .inr (.inl ⟨t.record, belongs, off, above⟩), same⟩
      · obtain ⟨d, below, same⟩ := ((isPart t shown).covers_below forest belongs r).mp mem
        exact ⟨d, .inr (.inr ⟨t.record, belongs, off, below⟩), same⟩
  · rintro ⟨d, rfl | ⟨p, belongs, off, above⟩ | ⟨c, belongs, off, below⟩, rfl⟩
    · exact .inl rfl
    · obtain ⟨x, found, rfl⟩ := of.parentOpen p belongs off
      have shown : x.2 ∈ parts.shown := Parts.mem_shown.mpr (.inl ⟨x, found, rfl⟩)
      exact .inr ⟨x.2, shown, ((isPart _ shown).covers_above forest belongs _).mpr ⟨d, above, rfl⟩⟩
    · obtain ⟨g, found, kind⟩ := List.mem_map.mp ((of.kinds c.kind).mpr ⟨belongs.wired, off⟩)
      obtain ⟨t, listed, rfl⟩ :=
        List.mem_map.mp (((of.children g found).2 c).mpr ⟨kind.symm, belongs⟩)
      have shown : t ∈ parts.shown := Parts.mem_shown.mpr (.inr ⟨g, found, listed⟩)
      exact .inr ⟨t, shown, ((isPart t shown).covers_below forest belongs _).mpr ⟨d, below, rfl⟩⟩

theorem exists_expansion (forest : s.schema.IsForest) (consistent : s.Consistent)
    (names : s.NamesApart) (held : s.Holds e) (path : List Kind)
    (above : ∀ p, s.BelongsTo e p → p.kind ∉ e.kind :: path →
      ∃ t : Shown, t.record = p ∧ Expansion s (e.kind :: path) t ∧ t.Covers (s.Above e))
    (below : ∀ c, s.BelongsTo c e → c.kind ∉ e.kind :: path →
      ∃ t : Shown, t.record = c ∧ Expansion s (e.kind :: path) t ∧ t.Covers (s.Descends · c)) :
    ∃ t : Shown, t.record = e ∧ Expansion s path t ∧ t.Covers fun d => d = e ∨
      (∃ p, s.BelongsTo e p ∧ p.kind ∉ e.kind :: path ∧ s.Above e d) ∨
        ∃ c, s.BelongsTo c e ∧ c.kind ∉ e.kind :: path ∧ s.Descends d c := by
  have parts : ∃ parts : Parts, parts.Found s (e.kind :: path) e ∧
      ∀ t ∈ parts.shown, Expansion s (e.kind :: path) t ∧ IsPartOf s e t := by
    apply exists_found forest consistent held
    · intro p belongs off
      obtain ⟨t, rfl, expansion, covers⟩ := above p belongs off
      exact ⟨t, rfl, expansion, .inl ⟨belongs, covers⟩⟩
    · intro c belongs off
      obtain ⟨t, rfl, expansion, covers⟩ := below c belongs off
      exact ⟨t, rfl, expansion, .inr ⟨belongs, covers⟩⟩
  obtain ⟨parts, found, shown⟩ := parts
  have of : parts.Of s (e.kind :: path) e := found.of forest consistent held
  have isPart : ∀ t ∈ parts.shown, IsPartOf s e t := fun t mem => (shown t mem).2
  have distinct : (parts.node e).refs.Nodup :=
    of.nodup_node forest held isPart fun t mem => (shown t mem).1.distinct
  refine ⟨parts.node e, rfl, ⟨?_, distinct, ?_⟩, of.covers_node forest isPart⟩
  · exact .node of (of.hasMembers names held) fun t mem => (shown t mem).1.shows
  · intro visited apart depth enough
    obtain ⟨depth, rfl⟩ := Nat.exists_eq_add_one.mpr (Nat.zero_lt_of_lt enough)
    have new : e.ref ∉ visited := apart e.ref List.mem_cons_self
    have distinct' : (parts.shown.flatMap (·.refs)).Nodup := (List.nodup_cons.mp distinct).2
    have apart' : ∀ r ∈ parts.shown.flatMap (·.refs), r ∉ e.ref :: visited := by
      intro r mem seen
      rcases List.mem_cons.mp seen with rfl | seen
      · exact (List.nodup_cons.mp distinct).1 mem
      · exact apart r (List.mem_cons_of_mem _ mem) seen
    have runs : ∀ t ∈ parts.shown,
        t.RunsAfter (expand s depth (e.kind :: path)) (e.ref :: visited) := by
      intro t mem after grown apart
      have fewer : unvisited s after < unvisited s visited := unvisited_lt held.1 new grown
      exact (shown t mem).1.runs after apart depth (by omega)
    change (visit s (expand s depth) path e).run visited = _
    rw [Traversal.run_visit, if_neg new, run_members found distinct' apart' runs]
    simp [Parts.node]

end

end Flatten

end SceneArchive
