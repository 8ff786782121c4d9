import Mathlib.Data.List.Nodup

/-!
# Elements told apart by a key

The elements of a list have distinct keys, or the check of a list finds out by going through it
with the keys that it has met.

* `find?_eq_some_iff`, `filter_eq_toList`: with distinct keys, the first element of a key is the
  only one.
* `fresh_cons`: what the check of a list sees at an element.
-/

namespace SceneArchive.Keys

variable {α κ : Type} {key : α → κ} {met : List κ} {x : α} {xs : List α}

theorem find?_eq_some_iff [BEq κ] [LawfulBEq κ] (distinct : (xs.map key).Nodup) {k : κ} :
    xs.find? (key · == k) = some x ↔ x ∈ xs ∧ key x = k := by
  constructor
  · intro found
    exact ⟨List.mem_of_find?_eq_some found, by simpa using List.find?_some found⟩
  · rintro ⟨mem, rfl⟩
    cases found : xs.find? (key · == key x) with
    | none =>
      have none := List.find?_eq_none.mp found x mem
      simp at none
    | some y =>
      have same : key y = key x := by simpa using List.find?_some found
      exact congrArg some (List.inj_on_of_nodup_map distinct (List.mem_of_find?_eq_some found)
        mem same)

theorem filter_eq_toList [BEq κ] [LawfulBEq κ] (distinct : (xs.map key).Nodup) (k : κ) :
    xs.filter (key · == k) = (xs.find? (key · == k)).toList := by
  induction xs with
  | nil => rfl
  | cons x xs ih =>
    obtain ⟨new, distinct⟩ := List.nodup_cons.mp distinct
    by_cases same : key x = k
    · have others : ∀ y ∈ xs, ¬ (key y == k) = true := fun y mem other =>
        new (List.mem_map.mpr ⟨y, mem, (beq_iff_eq.mp other).trans same.symm⟩)
      rw [List.filter_cons_of_pos (by simpa using same), List.filter_eq_nil_iff.mpr others,
        List.find?_cons_of_pos (by simpa using same)]
      rfl
    · rw [List.filter_cons_of_neg (by simpa using same),
        List.find?_cons_of_neg (by simpa using same), ih distinct]

/-- No two elements have the same key, and none has a key met before. -/
def Fresh (key : α → κ) (met : List κ) (xs : List α) : Prop :=
  (xs.map key).Nodup ∧ ∀ x ∈ xs, key x ∉ met

theorem fresh_nil : Fresh key met [] := ⟨List.nodup_nil, by simp⟩

theorem fresh_cons : Fresh key met (x :: xs) ↔ key x ∉ met ∧ Fresh key (key x :: met) xs := by
  constructor
  · rintro ⟨distinct, apart⟩
    obtain ⟨new, distinct⟩ := List.nodup_cons.mp distinct
    refine ⟨apart x List.mem_cons_self, distinct, fun y mem known => ?_⟩
    rcases List.mem_cons.mp known with same | known
    · exact new (same ▸ List.mem_map_of_mem mem)
    · exact apart y (List.mem_cons_of_mem x mem) known
  · rintro ⟨new, distinct, apart⟩
    refine ⟨List.nodup_cons.mpr ⟨fun mem => ?_, distinct⟩, fun y mem => ?_⟩
    · obtain ⟨y, mem, same⟩ := List.mem_map.mp mem
      exact apart y mem (same ▸ List.mem_cons_self)
    · rcases List.mem_cons.mp mem with rfl | mem
      · exact new
      · exact fun known => apart y mem (List.mem_cons_of_mem _ known)

theorem fresh_behind_nothing : Fresh key [] xs ↔ (xs.map key).Nodup :=
  and_iff_left fun _ _ => List.not_mem_nil

end SceneArchive.Keys
