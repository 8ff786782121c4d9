import Mathlib.Data.List.Induction
import SceneArchive.Proofs.NameMap
import SceneArchive.Schema.Catalog

/-!
# What names of fields stand for

A catalog is gone through field by field, and what a name stands for is changed with each field
that has it. In the end it stands for all the fields of the name, in declared order.

* `get?_bare`: the fields that a name stands for.
* `resolveBare_eq`: how a name without a kind is resolved.
-/

namespace SceneArchive

theorem Kind.name_injective : Function.Injective name := by
  have apart : ∀ a ∈ all, ∀ b ∈ all, a.name = b.name → a = b := by decide +kernel
  exact fun a b => apart a a.mem_all b b.mem_all

namespace Resolution

/-- What a name stands for that the given fields have. -/
def ofFields? : List FieldSpec → Option Resolution
  | [] => none
  | [field] => some (unique field)
  | fields => some (ambiguous fields)

theorem ofFields?_concat (fields : List FieldSpec) (field : FieldSpec) :
    ofFields? (fields ++ [field]) = some (adding field (ofFields? fields)) := by
  rcases fields with _ | ⟨first, _ | ⟨second, rest⟩⟩ <;> rfl

end Resolution

namespace Catalog

variable {c : Catalog} {name : String} {field : FieldSpec}

/-- The fields of a name, whatever their kind. -/
def named (c : Catalog) (name : String) : List FieldSpec := c.fields.filter (·.name == name)

theorem increasing_bare (c : Catalog) : NameMap.Increasing c.bare := by
  obtain ⟨fields⟩ := c
  induction fields using List.reverseRecOn with
  | nil => exact NameMap.increasing_nil
  | append_singleton fields field ih =>
    rw [bare, List.foldl_append]
    exact NameMap.increasing_insert ih

theorem get?_bare (c : Catalog) (name : String) :
    NameMap.get? c.bare name = Resolution.ofFields? (c.named name) := by
  obtain ⟨fields⟩ := c
  induction fields using List.reverseRecOn generalizing name with
  | nil => rfl
  | append_singleton fields field ih =>
    rw [bare, List.foldl_append, named, List.filter_append]
    change NameMap.get? (addBare (bare ⟨fields⟩) field) name = _
    rw [addBare, NameMap.get?_insert, ih, ih]
    by_cases same : field.name = name
    · subst same
      rw [if_pos rfl, List.filter_singleton, beq_self_eq_true, cond_true,
        Resolution.ofFields?_concat, named]
    · simp [same, named]

theorem resolveBare_eq (c : Catalog) (name : String) :
    c.resolveBare name =
      match c.named name with
      | [] => .error (.unknownField name)
      | [field] => .ok field
      | fields => .error (.ambiguousField name (fields.map (·.qualifiedName))) := by
  rw [resolveBare, get?_bare]
  rcases c.named name with _ | ⟨first, _ | ⟨second, rest⟩⟩ <;> rfl

end Catalog

end SceneArchive
