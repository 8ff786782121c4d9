import SceneArchive.Proofs.Csv.Columns
import SceneArchive.Proofs.Flatten.Encounters

/-!
# Keys of flattened records

The trees that records are flattened to are objects, and so is everything in them that has keys:
attributes, relationships, kinds, and markers where the traversal was cut. All of these names are
set into a map one after the other, none of them is empty and none has a point, so the columns of
such trees can be told apart.

* `gives_expand`: what one level gives if the levels below it do.
* `isPlainObject_toTree`: the tree of a record is such an object.
-/

namespace SceneArchive

namespace Flatten

open Json (IsPlainStep)

/-! ## Results of traversals -/

section

variable {α β : Type} {P : α → Prop} {Q : β → Prop} {x : Traversal α} {f : α → Traversal β}

/-- Every result of a traversal that does not fail satisfies `P`. -/
def Traversal.Gives (x : Traversal α) (P : α → Prop) : Prop :=
  ∀ visited a, (x.run visited).1 = .ok a → P a

theorem gives_any (x : Traversal α) : x.Gives fun _ => True := fun _ _ _ => trivial

theorem gives_pure {a : α} (h : P a) : (pure a : Traversal α).Gives P := by
  intro visited b same
  cases same
  exact h

theorem gives_bind (hx : x.Gives P) (hf : ∀ a, P a → (f a).Gives Q) : (x >>= f).Gives Q := by
  intro visited b same
  rw [Traversal.run_bind] at same
  split at same
  · next a after run =>
    exact hf a (hx visited a (congrArg Prod.fst run)) after b same
  · cases same

theorem gives_mapM {γ : Type} {f : γ → Traversal α} {xs : List γ} (h : ∀ c ∈ xs, (f c).Gives P) :
    (xs.mapM f).Gives fun ys => ∀ y ∈ ys, P y := by
  induction xs with
  | nil => exact gives_pure fun _ mem => nomatch mem
  | cons c xs ih =>
    obtain ⟨first, rest⟩ := List.forall_mem_cons.mp h
    rw [List.mapM_cons]
    refine gives_bind first fun y hy => gives_bind (ih rest) fun ys hys => ?_
    exact gives_pure (List.forall_mem_cons.mpr ⟨hy, hys⟩)

end

/-! ## Keys -/

theorem isPlainObject_marker (r : Ref) : (marker r).IsPlainObject := by
  refine ⟨⟨_, rfl⟩, Json.hasPlainKeys_object_iff.mpr ⟨List.nodup_singleton _, ?_⟩⟩
  intro m mem
  obtain rfl := List.mem_singleton.mp mem
  have name : IsPlainStep markerName := by decide
  exact ⟨name, Json.hasPlainKeys_of_isScalar trivial⟩

theorem isPlainStep_kindName (kind : Kind) : IsPlainStep kind.name := by
  cases kind <;> decide

theorem isPlainStep_relationship {kind : Kind} {relation : Relation}
    (h : Schema.standard.parentOf kind = some relation) : IsPlainStep relation.slot.field := by
  have all : ∀ kind, ∀ relation ∈ Schema.standard.parentOf kind,
      IsPlainStep relation.slot.field := by
    intro kind
    cases kind <;> decide +kernel
  exact all kind relation h

theorem isPlainStep_attribute {e : Entity} {a : String × Value} (h : a ∈ e.attributes) :
    IsPlainStep a.1 := by
  have all : ∀ kind : Kind, ∀ name ∈ auditColumns ++ (Schema.standard.fieldsOf kind).map (·.name),
      IsPlainStep name := by
    intro kind
    cases kind <;> decide +kernel
  apply all e.kind
  rw [← e.names_attributes]
  exact List.mem_map_of_mem h

theorem isScalar_toJson (v : Value) : v.toJson.IsScalar := by
  cases v with
  | float x =>
    simp only [Value.toJson, Json.float]
    split <;> trivial
  | null | integer | text | date => trivial

section

variable {s : Source} {next : Entity → Traversal Json} {path : List Kind}
  (below : ∀ e, (next e).Gives Json.IsPlainObject)
include below

theorem gives_parentMember (standard : s.schema = .standard) (e : Entity) :
    (parentMember s next path e).Gives fun members =>
      ∀ m ∈ members, IsPlainStep m.1 ∧ m.2.HasPlainKeys := by
  unfold parentMember
  split
  · exact gives_pure fun _ mem => nomatch mem
  · next relation parent opens =>
    refine gives_bind (gives_any _) fun record _ => gives_bind (below record) fun tree plain => ?_
    refine gives_pure fun m mem => ?_
    obtain rfl := List.mem_singleton.mp mem
    simp only [openParent?, Option.bind_eq_bind, Option.bind_eq_some_iff] at opens
    obtain ⟨relation', wired, parent', -, same⟩ := opens
    split at same
    · cases same
    · cases same
      exact ⟨isPlainStep_relationship (standard ▸ wired), plain.2⟩

theorem gives_childrenMember (r : Ref) (kind : Kind) : (childrenMember s next r kind).Gives
    fun m => IsPlainStep m.1 ∧ m.2.HasPlainKeys := by
  refine gives_bind (gives_any _) fun children _ => ?_
  refine gives_bind (gives_mapM fun c _ => below c) fun trees plain => ?_
  exact gives_pure ⟨isPlainStep_kindName kind,
    Json.hasPlainKeys_array_iff.mpr fun tree mem => (plain tree mem).2⟩

theorem gives_members (standard : s.schema = .standard) (e : Entity) :
    (members s next path e).Gives Json.IsPlainObject := by
  refine gives_bind (gives_parentMember below standard e) fun parents plain => ?_
  refine gives_bind (gives_mapM fun kind _ => gives_childrenMember below e.ref kind)
    fun lists plain' => ?_
  refine gives_pure ⟨⟨_, rfl⟩, Json.hasPlainKeys_object_iff.mpr ⟨?_, fun m mem => ?_⟩⟩
  · exact (NameMap.increasing_insertAll
      (NameMap.increasing_insertAll NameMap.increasing_nil)).nodup
  · rcases NameMap.mem_insertAll mem with part | own
    · exact (List.mem_append.mp part).elim (plain m) (plain' m)
    · obtain ⟨a, has, rfl⟩ := Entity.exists_of_mem_fields own
      exact ⟨isPlainStep_attribute has, Json.hasPlainKeys_of_isScalar (isScalar_toJson a.2)⟩

end

theorem gives_expand {s : Source} (standard : s.schema = .standard) (depth : Nat) (path : List Kind)
    (e : Entity) : (expand s depth path e).Gives Json.IsPlainObject := by
  induction depth generalizing path e with
  | zero => exact gives_pure (isPlainObject_marker e.ref)
  | succ depth ih =>
    intro visited tree
    rw [expand, Traversal.run_visit]
    split
    · intro same
      cases same
      exact isPlainObject_marker e.ref
    · exact gives_members (ih (e.kind :: path)) standard e _ tree

theorem isPlainObject_toTree {s : Source} (standard : s.schema = .standard) {e : Entity}
    {tree : Json} (h : toTree s e = .ok tree) : tree.IsPlainObject :=
  gives_expand standard _ [] e [] tree h

end Flatten

end SceneArchive
