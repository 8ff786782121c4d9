import Mathlib
import SceneArchive.Proofs.Flatten.Parts

/-!
# Expansions in a tree

A tree expands a record if all attributes of the record stand together somewhere in it. The tree of
a record is made of its attributes and of entries set beside them, so it expands the record itself
and what its entries expand, and nothing else; a marker expands nothing.

* `Beside.expands_iff`: what the tree of a record expands.
* `marker_within_marker_iff`: a marker names one reference.
-/

namespace SceneArchive

theorem Ref.text_injective : Function.Injective Ref.text := by
  rintro ⟨kind, id⟩ ⟨kind', id'⟩ same
  have chars := congrArg String.toList same
  simp only [text, String.toList_append] at chars
  -- The names of kinds differ in their first letters.
  have first (kind : Kind) (rest : List Char) :
      (kind.name.toList ++ rest).head? = kind.name.toList.head? := by
    cases kind <;> simp [Kind.name]
  have apart : ∀ a ∈ Kind.all, ∀ b ∈ Kind.all,
      a.name.toList.head? = b.name.toList.head? → a = b := by
    decide +kernel
  have heads := congrArg List.head? chars
  rw [List.append_assoc, List.append_assoc, first, first] at heads
  obtain rfl : kind = kind' := apart kind kind.mem_all kind' kind'.mem_all heads
  rw [List.append_cancel_left_eq, String.toList_inj] at chars
  rw [Int.repr_injective chars]

namespace Flatten

/-! ## Expansions in a tree -/

/-- Whether fields hold all attributes of a record. -/
def HoldsAttributes (fields : Fields) (e : Entity) : Prop :=
  ∀ a ∈ e.attributes, NameMap.get? fields a.1 = some a.2.toJson

/-- Whether a record of a reference is expanded somewhere in a tree. -/
def Expands (t : Json) (r : Ref) : Prop :=
  ∃ fields e, (Json.object fields).Within t ∧ HoldsAttributes fields e ∧ e.ref = r

/-- Whether a tree is no value of an attribute. -/
def IsCompound (t : Json) : Prop := ∀ v : Value, t ≠ v.toJson

theorem isCompound_object (fields : Fields) : IsCompound (.object fields) := by
  intro v same
  have outside : ¬ (Json.object fields).Within v.toJson := not_within_toJson v
  rw [← same] at outside
  exact outside .refl

theorem isCompound_array (items : List Json) : IsCompound (.array items) := by
  intro v same
  cases v with
  | float x =>
    simp only [Value.toJson, Json.float] at same
    split at same <;> cases same
  | null | integer | text | date => cases same

theorem expands_array_iff {items : List Json} {r : Ref} :
    Expands (.array items) r ↔ ∃ t ∈ items, Expands t r := by
  constructor
  · rintro ⟨fields, e, inside, holds, named⟩
    rcases Json.within_array_iff.mp inside with same | ⟨t, mem, inside⟩
    · cases same
    · exact ⟨t, mem, fields, e, inside, holds, named⟩
  · rintro ⟨t, mem, fields, e, inside, holds, named⟩
    exact ⟨fields, e, .item mem inside, holds, named⟩

theorem object_within_marker_iff {fields : Fields} {r : Ref} :
    (Json.object fields).Within (marker r) ↔ Json.object fields = marker r := by
  rw [marker, Json.within_object_iff]
  refine or_iff_left ?_
  rintro ⟨m, mem, inside⟩
  obtain rfl := List.mem_singleton.mp mem
  exact not_within_toJson (.text r.text) inside

/-- A marker has no identifier, so it expands nothing. -/
theorem not_expands_marker (r r' : Ref) : ¬ Expands (marker r) r' := by
  rintro ⟨fields, e, inside, holds, -⟩
  cases object_within_marker_iff.mp inside
  cases holds _ e.id_mem_attributes

theorem marker_within_marker_iff {r r' : Ref} : (marker r').Within (marker r) ↔ r' = r := by
  have inside : (marker r').Within (marker r) ↔ marker r' = marker r := object_within_marker_iff
  refine inside.trans ⟨fun same => ?_, fun same => same ▸ rfl⟩
  have texts : r'.text = r.text := by simpa [marker] using same
  exact Ref.text_injective texts

/-! ### The tree of a record -/

/-- Whether entries may be set among the attributes of a record: their names are distinct and none
of them is that of an attribute, and nor are their trees. -/
structure Beside (entries : Fields) (e : Entity) : Prop where
  distinct : (entries.map (·.1)).Nodup
  apart : ∀ a ∈ e.attributes, a.1 ∉ entries.map (·.1)
  compound : ∀ m ∈ entries, IsCompound m.2

section

variable {e : Entity} {entries : Fields} (beside : Beside entries e)

include beside

theorem Beside.holdsAttributes : HoldsAttributes (NameMap.insertAll e.fields entries) e := by
  intro a mem
  rw [NameMap.get?_insertAll_of_not_mem (beside.apart a mem)]
  exact Entity.get?_fields mem

omit beside in
theorem kind_eq_of_names {e e' : Entity}
    (h : ∀ a ∈ e'.attributes, a.1 ∈ e.attributes.map (·.1)) : e'.kind = e.kind := by
  have all : ∀ kind' ∈ Kind.all, ∀ kind ∈ Kind.all,
      (∀ name ∈ auditColumns ++ (Schema.standard.fieldsOf kind').map (·.name),
        name ∈ auditColumns ++ (Schema.standard.fieldsOf kind).map (·.name)) → kind' = kind := by
    decide +kernel
  apply all e'.kind e'.kind.mem_all e.kind e.kind.mem_all
  rw [← e.names_attributes, ← e'.names_attributes]
  intro name named
  obtain ⟨a, mem, rfl⟩ := List.mem_map.mp named
  exact h a mem

/-- The attributes in the tree of a record are those of no other record. -/
theorem Beside.ref_eq {e' : Entity}
    (holds : HoldsAttributes (NameMap.insertAll e.fields entries) e') : e'.ref = e.ref := by
  have kind : e'.kind = e.kind := by
    apply kind_eq_of_names
    intro a mem
    rcases NameMap.mem_insertAll (NameMap.mem_of_get? (holds a mem)) with part | own
    · exact absurd rfl (beside.compound _ part a.2)
    · obtain ⟨a', mem', same⟩ := Entity.exists_of_mem_fields own
      rw [(Prod.mk.inj same).1]
      exact List.mem_map_of_mem mem'
  have id : e'.id = e.id := by
    have shown := holds _ e'.id_mem_attributes
    rw [beside.holdsAttributes _ e.id_mem_attributes] at shown
    simpa [Value.toJson, Json.int, eq_comm] using shown
  rw [Entity.ref, kind, id, Entity.ref]

theorem Beside.object_within_iff {fields : Fields} :
    (Json.object fields).Within (.object (NameMap.insertAll e.fields entries)) ↔
      fields = NameMap.insertAll e.fields entries ∨
        ∃ m ∈ entries, (Json.object fields).Within m.2 := by
  rw [Json.within_object_iff, Json.object.injEq]
  refine or_congr_right ⟨?_, ?_⟩
  · rintro ⟨m, mem, inside⟩
    rcases NameMap.mem_insertAll mem with part | own
    · exact ⟨m, part, inside⟩
    · obtain ⟨a, -, rfl⟩ := Entity.exists_of_mem_fields own
      exact absurd inside (not_within_toJson a.2)
  · rintro ⟨m, mem, inside⟩
    exact ⟨m, NameMap.mem_of_get? (NameMap.get?_insertAll_of_nodup beside.distinct mem), inside⟩

theorem Beside.expands_iff {r : Ref} :
    Expands (.object (NameMap.insertAll e.fields entries)) r ↔
      r = e.ref ∨ ∃ m ∈ entries, Expands m.2 r := by
  constructor
  · rintro ⟨fields, e', inside, holds, rfl⟩
    rcases beside.object_within_iff.mp inside with rfl | ⟨m, mem, inside⟩
    · exact .inl (beside.ref_eq holds)
    · exact .inr ⟨m, mem, fields, e', inside, holds, rfl⟩
  · rintro (rfl | ⟨m, mem, fields, e', inside, holds, rfl⟩)
    · exact ⟨_, e, .refl, beside.holdsAttributes, rfl⟩
    · exact ⟨fields, e', beside.object_within_iff.mpr (.inr ⟨m, mem, inside⟩), holds, rfl⟩

/-- The tree of a record is no marker, since it has an identifier. -/
theorem Beside.marker_within_iff {r : Ref} :
    (marker r).Within (.object (NameMap.insertAll e.fields entries)) ↔
      ∃ m ∈ entries, (marker r).Within m.2 := by
  refine beside.object_within_iff.trans (or_iff_right ?_)
  intro same
  have id := beside.holdsAttributes _ e.id_mem_attributes
  rw [← same] at id
  cases id

end

end Flatten

end SceneArchive
