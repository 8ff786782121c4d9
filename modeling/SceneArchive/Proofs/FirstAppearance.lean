import Mathlib.Data.List.Induction
import Mathlib.Data.List.Nodup

/-!
# Order of first appearance

The elements of a list, each once, in the order in which they first appear. They are collected by
adding every element that is not there yet; what is collected from a beginning of the list stays
the beginning of what is collected from all of it.

* `listsFirsts_foldl`: collecting elements so gives them in this order.
-/

namespace SceneArchive

variable {α : Type} {xs firsts : List α} {x : α}

/-- Some beginning of the list has the one element and not yet the other. -/
def AppearsBefore (xs : List α) (a b : α) : Prop := ∃ front, front <+: xs ∧ a ∈ front ∧ b ∉ front

/-- A list has the elements of another one, each once, in the order of their first appearance. -/
structure ListsFirsts (firsts xs : List α) : Prop where
  nodup : firsts.Nodup
  mem_iff : ∀ x, x ∈ firsts ↔ x ∈ xs
  ordered : firsts.Pairwise (AppearsBefore xs)

theorem AppearsBefore.concat {a b : α} (h : AppearsBefore xs a b) (x : α) :
    AppearsBefore (xs ++ [x]) a b := by
  obtain ⟨front, begins, there, notYet⟩ := h
  exact ⟨front, begins.trans (List.prefix_append xs [x]), there, notYet⟩

theorem listsFirsts_nil : ListsFirsts ([] : List α) [] :=
  ⟨List.nodup_nil, fun _ => Iff.rfl, List.Pairwise.nil⟩

theorem ListsFirsts.again (h : ListsFirsts firsts xs) (met : x ∈ xs) :
    ListsFirsts firsts (xs ++ [x]) := by
  refine ⟨h.nodup, fun y => ?_, h.ordered.imp fun before => before.concat x⟩
  rw [h.mem_iff, List.mem_append, List.mem_singleton]
  refine ⟨.inl, fun mem => mem.elim id ?_⟩
  rintro rfl
  exact met

theorem ListsFirsts.fresh (h : ListsFirsts firsts xs) (new : x ∉ xs) :
    ListsFirsts (firsts ++ [x]) (xs ++ [x]) := by
  refine ⟨?_, fun y => ?_, ?_⟩
  · rw [← List.concat_eq_append]
    exact h.nodup.concat (new ∘ (h.mem_iff x).mp)
  · rw [List.mem_append, List.mem_append, h.mem_iff]
  · rw [List.pairwise_append]
    refine ⟨h.ordered.imp fun before => before.concat x, List.pairwise_singleton _ x, ?_⟩
    intro a collected b mem
    obtain rfl := List.mem_singleton.mp mem
    exact ⟨xs, List.prefix_append xs [b], (h.mem_iff a).mp collected, new⟩

/-- Adding every element that is not there yet collects the elements in this order, by whatever
test that tells them apart. -/
theorem listsFirsts_foldl {same : α → α → Bool}
    (apart : ∀ x ∈ xs, ∀ y ∈ xs, same x y = true ↔ x = y) :
    ListsFirsts
      (xs.foldl (fun seen x => if seen.any (same x) then seen else seen ++ [x]) []) xs := by
  induction xs using List.reverseRecOn with
  | nil => exact listsFirsts_nil
  | append_singleton xs last ih =>
    have collected := ih fun x hx y hy =>
      apart x (List.mem_append_left _ hx) y (List.mem_append_left _ hy)
    rw [List.foldl_append, List.foldl_cons, List.foldl_nil]
    generalize xs.foldl _ [] = seen at collected
    have here : last ∈ xs ++ [last] := List.mem_append_right _ List.mem_cons_self
    have found : seen.any (same last) = true ↔ last ∈ xs := by
      rw [List.any_eq_true]
      constructor
      · rintro ⟨x, mem, eq⟩
        have member := (collected.mem_iff x).mp mem
        rwa [(apart last here x (List.mem_append_left _ member)).mp eq]
      · intro met
        exact ⟨last, (collected.mem_iff last).mpr met, (apart last here last here).mpr rfl⟩
    split
    · next again => exact collected.again (found.mp again)
    · next new => exact collected.fresh (new ∘ found.mpr)

end SceneArchive
