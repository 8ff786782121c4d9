import Mathlib.Data.String.Basic
import SceneArchive.NameMap
import SceneArchive.Proofs.Keys

/-!
# Entries of maps by name

What is in a map after entries were set in it, and what is read then. Insertion keeps the names in
increasing order, so a map has one entry for a name at most.

* `get?_insertAll_of_mem`: what is read is the value set, where one value alone is set for the name.
* `get?_eq_some_iff`: in an ordered map, what is read for a name is the entry of the name.
-/

namespace SceneArchive.NameMap

variable {α : Type} {map entries : NameMap α} {name : String} {value : α}

/-- Sets each of a list of entries in turn. -/
def insertAll (map : NameMap α) (entries : List (String × α)) : NameMap α :=
  entries.foldl (fun map entry => insert entry.1 entry.2 map) map

theorem get?_insertAll_of_not_mem (h : name ∉ entries.map (·.1)) :
    get? (insertAll map entries) name = get? map name := by
  induction entries generalizing map with
  | nil => rfl
  | cons entry entries ih =>
    simp only [List.map_cons, List.mem_cons, not_or] at h
    have rest : get? (insertAll (insert entry.1 entry.2 map) entries) name =
        get? (insert entry.1 entry.2 map) name := ih h.2
    change get? (insertAll (insert entry.1 entry.2 map) entries) name = _
    rw [rest, get?_insert, if_neg (Ne.symm h.1)]

/-- The last of the entries of a name counts, and they all have the same value. -/
theorem get?_insertAll_of_mem (only : ∀ other, (name, other) ∈ entries → other = value)
    (mem : (name, value) ∈ entries) : get? (insertAll map entries) name = some value := by
  induction entries generalizing map with
  | nil => cases mem
  | cons entry entries ih =>
    by_cases again : (name, value) ∈ entries
    · exact ih (fun other mem => only other (List.mem_cons_of_mem _ mem)) again
    · have last : name ∉ entries.map (·.1) := by
        intro named
        obtain ⟨⟨_, other⟩, later, rfl⟩ := List.mem_map.mp named
        exact again (only other (List.mem_cons_of_mem _ later) ▸ later)
      obtain rfl := (List.mem_cons.mp mem).resolve_right again
      change get? (insertAll (insert name value map) entries) name = _
      rw [get?_insertAll_of_not_mem last, get?_insert, if_pos rfl]

theorem get?_insertAll_of_nodup (distinct : (entries.map (·.1)).Nodup)
    (mem : (name, value) ∈ entries) : get? (insertAll map entries) name = some value := by
  refine get?_insertAll_of_mem (fun other mem' => ?_) mem
  exact congrArg Prod.snd (List.inj_on_of_nodup_map distinct mem' mem rfl)

theorem mem_insert {entry : String × α} (h : entry ∈ insert name value map) :
    entry = (name, value) ∨ entry ∈ map := by
  induction map with
  | nil => exact .inl (List.mem_singleton.mp h)
  | cons first rest ih =>
    unfold insert at h
    split at h
    · exact List.mem_cons.mp h
    · split at h
      · rcases List.mem_cons.mp h with same | mem
        · exact .inl same
        · exact .inr (List.mem_cons_of_mem _ mem)
      · rcases List.mem_cons.mp h with same | mem
        · exact .inr (same ▸ List.mem_cons_self)
        · exact (ih mem).imp_right (List.mem_cons_of_mem _)

theorem mem_insertAll {entry : String × α} (h : entry ∈ insertAll map entries) :
    entry ∈ entries ∨ entry ∈ map := by
  induction entries generalizing map with
  | nil => exact .inr h
  | cons first entries ih =>
    rcases ih h with mem | mem
    · exact .inl (List.mem_cons_of_mem _ mem)
    · rcases mem_insert mem with rfl | mem
      · exact .inl List.mem_cons_self
      · exact .inr mem

theorem mem_of_get? (h : get? map name = some value) : (name, value) ∈ map := by
  obtain ⟨entry, found, rfl⟩ := Option.map_eq_some_iff.mp h
  obtain rfl : entry.1 = name := by simpa using List.find?_some found
  exact List.mem_of_find?_eq_some found

/-! ## Order -/

/-- The names increase from entry to entry. -/
def Increasing (map : NameMap α) : Prop := map.Pairwise fun a b => a.1 < b.1

theorem increasing_nil : Increasing ([] : NameMap α) := List.Pairwise.nil

theorem increasing_insert (h : Increasing map) : Increasing (insert name value map) := by
  induction map with
  | nil => exact List.pairwise_singleton _ _
  | cons entry rest ih =>
    obtain ⟨first, ordered⟩ := List.pairwise_cons.mp h
    unfold insert
    split
    · next less =>
      refine List.pairwise_cons.mpr ⟨fun e mem => ?_, h⟩
      rcases List.mem_cons.mp mem with rfl | mem
      · exact less
      · exact less.trans (first e mem)
    · split
      · next same => exact List.pairwise_cons.mpr ⟨same ▸ first, ordered⟩
      · next notLess other =>
        refine List.pairwise_cons.mpr ⟨fun e mem => ?_, ih ordered⟩
        rcases mem_insert mem with rfl | mem
        · exact lt_of_le_of_ne (not_lt.mp notLess) (Ne.symm other)
        · exact first e mem

theorem increasing_insertAll (h : Increasing map) : Increasing (insertAll map entries) := by
  induction entries generalizing map with
  | nil => exact h
  | cons entry entries ih => exact ih (increasing_insert h)

theorem Increasing.nodup (h : Increasing map) : (map.map (·.1)).Nodup :=
  List.pairwise_map.mpr (h.imp fun less => less.ne)

theorem get?_eq_some_iff (h : Increasing map) :
    get? map name = some value ↔ (name, value) ∈ map := by
  refine ⟨mem_of_get?, fun mem => ?_⟩
  rw [get?, (Keys.find?_eq_some_iff h.nodup).mpr ⟨mem, rfl⟩, Option.map_some]

end SceneArchive.NameMap
