import SceneArchive.Json.Basic

/-!
# Values inside a tree

Whether a value is a tree or stands somewhere inside it, as an item or under a name at any depth.
-/

namespace SceneArchive

/-- Whether a value is another one or stands somewhere inside it. -/
inductive Json.Within (x : Json) : Json → Prop
  | refl : Within x x
  | item {t : Json} {items : List Json} (mem : t ∈ items) (inside : Within x t) :
      Within x (.array items)
  | member {name : String} {t : Json} {fields : List (String × Json)} (mem : (name, t) ∈ fields)
      (inside : Within x t) : Within x (.object fields)

namespace Json

variable {x : Json} {items : List Json} {fields : List (String × Json)}

theorem within_array_iff :
    x.Within (.array items) ↔ x = .array items ∨ ∃ t ∈ items, x.Within t := by
  constructor
  · intro inside
    cases inside with
    | refl => exact .inl rfl
    | item mem inside => exact .inr ⟨_, mem, inside⟩
  · rintro (rfl | ⟨t, mem, inside⟩)
    · exact .refl
    · exact .item mem inside

theorem within_object_iff :
    x.Within (.object fields) ↔ x = .object fields ∨ ∃ m ∈ fields, x.Within m.2 := by
  constructor
  · intro inside
    cases inside with
    | refl => exact .inl rfl
    | member mem inside => exact .inr ⟨_, mem, inside⟩
  · rintro (rfl | ⟨m, mem, inside⟩)
    · exact .refl
    · exact .member mem inside

end Json

end SceneArchive
