import SceneArchive.Proofs.Flatten.Expansions

/-!
# What a traversal accounts for

A traversal writes down each record that it visits before it knows whether the tree of the record
will be given. If a tree is given in the end, then so are all the trees inside it: they expand the
records that were visited in the meantime, each of them, and no others.

* `Accounts`: trees that expand what was visited between two moments.
* `ends_explore`: every tree that is given accounts for what was visited, whatever the links.
-/

namespace SceneArchive

namespace Flatten

/-- Whether trees that are given between two moments expand exactly the records visited in between,
and have markers for visited records only. -/
structure Accounts (visited : List Ref) (ts : List Json) (after : List Ref) : Prop where
  compound : ∀ t ∈ ts, IsCompound t
  expands : ∀ r, (∃ t ∈ ts, Expands t r) ↔ r ∈ after ∧ r ∉ visited
  marks : ∀ t ∈ ts, ∀ r, (marker r).Within t → r ∈ after

namespace Accounts

variable {visited middle after : List Ref} {ts us : List Json}

theorem nil (visited : List Ref) : Accounts visited [] visited where
  compound := by simp
  expands := by simp
  marks := by simp

theorem append (h : Accounts visited ts middle) (h' : Accounts middle us after)
    (grown : visited ⊆ middle) (grown' : middle ⊆ after) : Accounts visited (ts ++ us) after where
  compound := List.forall_mem_append.mpr ⟨h.compound, h'.compound⟩
  expands := by
    intro r
    have split : (∃ t ∈ ts ++ us, Expands t r) ↔
        (∃ t ∈ ts, Expands t r) ∨ ∃ t ∈ us, Expands t r := by
      simp only [List.mem_append, or_and_right, exists_or]
    rw [split, h.expands, h'.expands]
    constructor
    · rintro (⟨seen, new⟩ | ⟨seen, new⟩)
      · exact ⟨grown' seen, new⟩
      · exact ⟨seen, fun before => new (grown before)⟩
    · rintro ⟨seen, new⟩
      by_cases before : r ∈ middle
      · exact .inl ⟨before, new⟩
      · exact .inr ⟨seen, before⟩
  marks := by
    intro t mem r inside
    rcases List.mem_append.mp mem with mem | mem
    · exact grown' (h.marks t mem r inside)
    · exact h'.marks t mem r inside

theorem array (h : Accounts visited ts after) : Accounts visited [.array ts] after where
  compound := List.forall_mem_singleton.mpr (isCompound_array ts)
  expands := by
    intro r
    rw [← h.expands]
    simp only [List.mem_singleton, exists_eq_left, expands_array_iff]
  marks := by
    intro t mem r inside
    obtain rfl := List.mem_singleton.mp mem
    rcases Json.within_array_iff.mp inside with same | ⟨t, mem, inside⟩
    · cases same
    · exact h.marks t mem r inside

theorem marker {r : Ref} (seen : r ∈ visited) : Accounts visited [marker r] visited where
  compound := List.forall_mem_singleton.mpr (isCompound_object _)
  expands := by
    intro r'
    simp [not_expands_marker]
  marks := by
    intro t mem r' inside
    obtain rfl := List.mem_singleton.mp mem
    rwa [marker_within_marker_iff.mp inside]

theorem node {e : Entity} {entries : Fields}
    (h : Accounts (e.ref :: visited) (entries.map (·.2)) after) (beside : Beside entries e)
    (new : e.ref ∉ visited) (grown : e.ref :: visited ⊆ after) :
    Accounts visited [.object (NameMap.insertAll e.fields entries)] after where
  compound := List.forall_mem_singleton.mpr (isCompound_object _)
  expands := by
    intro r
    have below := h.expands r
    simp only [List.mem_map, exists_exists_and_eq_and, List.mem_cons, not_or] at below
    simp only [List.mem_singleton, exists_eq_left, beside.expands_iff, below]
    constructor
    · rintro (rfl | ⟨seen, -, before⟩)
      · exact ⟨grown List.mem_cons_self, new⟩
      · exact ⟨seen, before⟩
    · rintro ⟨seen, before⟩
      by_cases own : r = e.ref
      · exact .inl own
      · exact .inr ⟨seen, own, before⟩
  marks := by
    intro t mem r inside
    obtain rfl := List.mem_singleton.mp mem
    obtain ⟨m, mem, inside⟩ := beside.marker_within_iff.mp inside
    exact h.marks m.2 (List.mem_map_of_mem mem) r inside

end Accounts

/-! ## Whatever a traversal gives -/

section

variable {α β : Type} {P Q : List Ref → α → List Ref → Prop}

/-- Whether an exploration that ends has forgotten no visited record, and a result that it gives
satisfies `P` together with what was visited before and after. -/
def Exploration.Ends (x : Exploration α) (P : List Ref → α → List Ref → Prop) : Prop :=
  ∀ visited met answer after met',
    (x.run.run visited).run met = some ((answer, after), met') →
      visited ⊆ after ∧ ∀ a, answer = .ok a → P visited a after

theorem Exploration.Ends.imp {x : Exploration α} (h : x.Ends P)
    (weaker : ∀ visited a after, visited ⊆ after → P visited a after → Q visited a after) :
    x.Ends Q := by
  intro visited met answer after met' run
  obtain ⟨grown, given⟩ := h visited met answer after met' run
  exact ⟨grown, fun a ok => weaker visited a after grown (given a ok)⟩

theorem ends_pure {a : α} (h : ∀ visited, P visited a visited) :
    (pure a : Exploration α).Ends P := by
  intro visited met answer after met' run
  cases run
  refine ⟨List.Subset.refl _, ?_⟩
  rintro a ⟨⟩
  exact h visited

theorem ends_bind {x : Exploration α} {f : α → Exploration β}
    {R : α → List Ref → β → List Ref → Prop} (first : x.Ends P) (next : ∀ a, (f a).Ends (R a)) :
    (x >>= f).Ends fun visited b after =>
      ∃ a middle, visited ⊆ middle ∧ middle ⊆ after ∧ P visited a middle ∧ R a middle b after := by
  intro visited met answer after met' run
  rw [Exploration.run_bind] at run
  obtain ⟨⟨⟨answer', middle⟩, met''⟩, ended, rest⟩ := Option.bind_eq_some_iff.mp run
  obtain ⟨grown, given⟩ := first visited met answer' middle met'' ended
  cases answer' with
  | error fault =>
    cases rest
    exact ⟨grown, fun a ok => nomatch ok⟩
  | ok a =>
    obtain ⟨grown', given'⟩ := next a middle met'' answer after met' rest
    refine ⟨List.Subset.trans grown grown', ?_⟩
    intro b ok
    exact ⟨a, middle, grown, grown', given a rfl, given' b ok⟩

theorem ends_ofExcept (x : Except IndexError α) :
    (MonadExcept.ofExcept x : Exploration α).Ends fun visited _ after => after = visited := by
  intro visited met answer after met' run
  cases x with
  | ok a =>
    cases run
    exact ⟨List.Subset.refl _, fun _ _ => rfl⟩
  | error fault =>
    cases run
    exact ⟨List.Subset.refl _, fun _ ok => nomatch ok⟩

end

/-- Trees given one after the other are accounted for together. -/
theorem ends_mapM {α β : Type} {f : α → Exploration β}
    {trees : β → List Json} {R : α → β → Prop} {xs : List α}
    (each : ∀ x ∈ xs, (f x).Ends fun visited y after => R x y ∧ Accounts visited (trees y) after) :
    (xs.mapM f).Ends fun visited ys after =>
      List.Forall₂ R xs ys ∧ Accounts visited (ys.flatMap trees) after := by
  induction xs with
  | nil =>
    rw [List.mapM_nil]
    exact ends_pure fun visited => ⟨.nil, .nil visited⟩
  | cons x xs ih =>
    obtain ⟨first, others⟩ := List.forall_mem_cons.mp each
    rw [List.mapM_cons]
    refine (ends_bind first fun y => ends_bind (ih others) fun ys =>
      ends_pure (P := fun visited zs after => zs = y :: ys ∧ after = visited)
        fun visited => ⟨rfl, rfl⟩).imp ?_
    rintro visited zs after - ⟨y, middle, grown, -, ⟨related, accounts⟩, ys, _, grown', -,
      ⟨related', accounts'⟩, rfl, rfl⟩
    rw [List.flatMap_cons]
    exact ⟨.cons related related', accounts.append accounts' grown grown'⟩

/-! ### The tree of a record -/

/-- The names under which the traversal sets trees among the attributes of a record. -/
def entryNames (s : Source) (path : List Kind) (e : Entity) : List String :=
  ((openParent? s path e).map (·.1.slot.field)).toList ++
    (openChildKinds s path e.kind).map Kind.name

section

variable {s : Source} {path : List Kind} {e : Entity}

theorem parentOf_of_openParent? {relation : Relation} {parent : Ref}
    (h : openParent? s path e = some (relation, parent)) :
    s.schema.parentOf e.kind = some relation := by
  simp only [openParent?, Option.bind_eq_bind, Option.bind_eq_some_iff] at h
  obtain ⟨relation', related, parent', -, same⟩ := h
  split at same
  · cases same
  · cases same
    exact related

theorem beside_of_entryNames (forest : s.schema.IsForest) (names : s.schema.NamesApart)
    {entries : Fields} (named : entries.map (·.1) = entryNames s path e)
    (compound : ∀ m ∈ entries, IsCompound m.2) : Beside entries e where
  distinct := by
    have lists : ((openChildKinds s path e.kind).map Kind.name).Nodup :=
      (nodup_openChildKinds forest e.kind).map Kind.name_injective
    rw [named, entryNames, List.nodup_append]
    refine ⟨by cases openParent? s path e <;> simp, lists, ?_⟩
    rintro name first _ later rfl
    obtain ⟨⟨relation, parent⟩, opens, rfl⟩ := Option.mem_map.mp (Option.mem_toList.mp first)
    obtain ⟨kind, -, same⟩ := List.mem_map.mp later
    exact (names e relation (parentOf_of_openParent? opens)).2 kind same
  apart := by
    intro a mem
    rw [named, entryNames, List.mem_append]
    rintro (first | later)
    · obtain ⟨⟨relation, parent⟩, opens, same⟩ := Option.mem_map.mp (Option.mem_toList.mp first)
      exact (names e relation (parentOf_of_openParent? opens)).1 a mem same.symm
    · obtain ⟨kind, -, same⟩ := List.mem_map.mp later
      exact Entity.name_ne_attribute kind mem same.symm
  compound := compound

variable {next : Entity → Exploration Json}
  (each : ∀ x, (next x).Ends fun visited t after => Accounts visited [t] after)

include each

theorem ends_parentMember : (parentMember s next path e).Ends fun visited parents after =>
    parents.map (·.1) = ((openParent? s path e).map (·.1.slot.field)).toList ∧
      Accounts visited (parents.map (·.2)) after := by
  unfold parentMember
  cases openParent? s path e with
  | none => exact ends_pure fun visited => ⟨rfl, .nil visited⟩
  | some opened =>
    obtain ⟨relation, parent⟩ := opened
    refine (ends_bind (ends_ofExcept _) fun record => ends_bind (each record) fun t =>
      ends_pure (P := fun visited ms after => ms = [(relation.slot.field, t)] ∧ after = visited)
        fun visited => ⟨rfl, rfl⟩).imp ?_
    rintro visited ms after - ⟨record, _, -, -, rfl, t, _, -, -, accounts, rfl, rfl⟩
    exact ⟨rfl, accounts⟩

theorem ends_childrenMember (r : Ref) (kind : Kind) :
    (childrenMember s next r kind).Ends fun visited m after =>
      kind.name = m.1 ∧ Accounts visited [m.2] after := by
  have all (children : List Entity) : (children.mapM next).Ends fun visited ts after =>
      List.Forall₂ (fun _ _ => True) children ts ∧
        Accounts visited (ts.flatMap fun t => [t]) after :=
    ends_mapM fun x _ => (each x).imp fun _ _ _ _ accounts => ⟨trivial, accounts⟩
  refine (ends_bind (ends_ofExcept _) fun children => ends_bind (all children) fun ts =>
    ends_pure (P := fun visited m after => m = (kind.name, .array ts) ∧ after = visited)
      fun visited => ⟨rfl, rfl⟩).imp ?_
  rintro visited m after - ⟨children, _, -, -, rfl, ts, _, -, -, ⟨-, accounts⟩, rfl, rfl⟩
  rw [List.flatMap_singleton'] at accounts
  exact ⟨rfl, accounts.array⟩

theorem ends_members (forest : s.schema.IsForest) (names : s.schema.NamesApart) :
    (members s next path e).Ends fun visited t after => ∃ entries, Beside entries e ∧
      t = .object (NameMap.insertAll e.fields entries) ∧
        Accounts visited (entries.map (·.2)) after := by
  have lists : ((openChildKinds s path e.kind).mapM (childrenMember s next e.ref)).Ends
      fun visited ms after =>
        List.Forall₂ (fun kind m => kind.name = m.1) (openChildKinds s path e.kind) ms ∧
          Accounts visited (ms.flatMap fun m => [m.2]) after :=
    ends_mapM fun kind _ => ends_childrenMember each e.ref kind
  refine (ends_bind (ends_parentMember each) fun parents => ends_bind lists fun ms =>
    ends_pure (P := fun visited t after =>
      t = .object (NameMap.insertAll e.fields (parents ++ ms)) ∧ after = visited)
      fun visited => ⟨rfl, rfl⟩).imp ?_
  rintro visited t after - ⟨parents, middle, grown, -, ⟨named, above⟩, ms, _, grown', -,
    ⟨named', below⟩, rfl, rfl⟩
  have kinds : ms.map (·.1) = (openChildKinds s path e.kind).map Kind.name := by
    have same := List.forall₂_map_left_iff.mpr (List.forall₂_map_right_iff.mpr named')
    exact (List.forall₂_eq_eq_eq ▸ same).symm
  have accounts : Accounts visited ((parents ++ ms).map (·.2)) after := by
    rw [List.map_append, List.map_eq_flatMap (f := (·.2)) (l := ms)]
    exact above.append below grown grown'
  refine ⟨parents ++ ms, ?_, rfl, accounts⟩
  have entries : (parents ++ ms).map (·.1) = entryNames s path e := by
    rw [List.map_append, named, kinds, entryNames]
  apply beside_of_entryNames forest names entries
  intro m mem
  exact accounts.compound _ (List.mem_map_of_mem mem)

end

/-- Whatever the links between records, a tree that is given accounts for what was visited. -/
theorem ends_explore {s : Source} (forest : s.schema.IsForest) (names : s.schema.NamesApart)
    (depth : Nat) (path : List Kind) (e : Entity) :
    (explore s depth path e).Ends fun visited t after => Accounts visited [t] after := by
  induction depth generalizing path e with
  | zero =>
    intro visited met answer after met' run
    cases run
  | succ depth ih =>
    intro visited met answer after met' run
    rw [explore, Exploration.run_noted, Exploration.run_visit] at run
    obtain ⟨⟨⟨answer', after'⟩, inner⟩, ended, same⟩ := Option.map_eq_some_iff.mp run
    obtain ⟨⟨rfl, rfl⟩, -⟩ := Prod.mk.inj same
    split at ended
    · next seen =>
      cases ended
      refine ⟨List.Subset.refl _, ?_⟩
      rintro t ⟨⟩
      exact .marker seen
    · next new =>
      obtain ⟨grown, given⟩ :=
        ends_members (ih (e.kind :: path)) forest names _ _ _ _ _ ended
      refine ⟨fun r seen => grown (List.mem_cons_of_mem _ seen), ?_⟩
      intro t ok
      obtain ⟨entries, beside, rfl, accounts⟩ := given t ok
      exact accounts.node beside new grown

end Flatten

end SceneArchive
