import SceneArchive.Statement.Evaluation

/-!
# Distinct rows

The result of a statement has the rows of its candidates, one for each identifier, by increasing
identifier.

* `increasing_distinctById`, `mem_ids_distinctById`.
-/

namespace SceneArchive.Statement

/-- The identifiers of rows increase from row to row. -/
def Increasing (rows : List Row) : Prop := rows.Pairwise fun a b => a.id < b.id

/-- The identifiers of rows. -/
def ids (rows : List Row) : List Int := rows.map (·.id)

theorem mem_ids_insertRow (row : Row) (rows : List Row) (id : Int) :
    id ∈ ids (insertRow row rows) ↔ id = row.id ∨ id ∈ ids rows := by
  induction rows with
  | nil => simp [insertRow, ids]
  | cons other rest ih =>
    unfold insertRow
    split
    · simp [ids]
    · split
      · next same =>
        simp only [ids, List.map_cons, List.mem_cons, same]
        constructor
        · exact .inr
        · rintro (h | h)
          · exact .inl h
          · exact h
      · simp only [ids, List.map_cons, List.mem_cons] at ih ⊢
        rw [ih]
        exact or_left_comm

theorem increasing_insertRow (row : Row) {rows : List Row} (h : Increasing rows) :
    Increasing (insertRow row rows) := by
  induction rows with
  | nil => exact List.pairwise_singleton _ row
  | cons other rest ih =>
    obtain ⟨first, others⟩ := List.pairwise_cons.mp h
    unfold insertRow
    split
    · next less =>
      refine List.pairwise_cons.mpr ⟨?_, h⟩
      intro r hr
      rcases List.mem_cons.mp hr with rfl | hr
      · exact less
      · exact Int.lt_trans less (first r hr)
    · split
      · exact h
      · next notLess other =>
        refine List.pairwise_cons.mpr ⟨?_, ih others⟩
        intro r hr
        have hId : r.id ∈ ids (insertRow row rest) := List.mem_map_of_mem hr
        rcases (mem_ids_insertRow row rest r.id).mp hId with same | hId
        · omega
        · obtain ⟨q, hq, same⟩ := List.mem_map.mp hId
          have := first q hq
          omega

theorem increasing_foldl_insertRow (candidates : List Row) {sorted : List Row}
    (h : Increasing sorted) :
    Increasing (candidates.foldl (fun sorted row => insertRow row sorted) sorted) := by
  induction candidates generalizing sorted with
  | nil => exact h
  | cons row rest ih => exact ih (increasing_insertRow row h)

theorem mem_ids_foldl_insertRow (candidates sorted : List Row) (id : Int) :
    id ∈ ids (candidates.foldl (fun sorted row => insertRow row sorted) sorted) ↔
      id ∈ ids candidates ∨ id ∈ ids sorted := by
  induction candidates generalizing sorted with
  | nil => simp [ids]
  | cons row rest ih =>
    rw [List.foldl_cons, ih, mem_ids_insertRow]
    simp only [ids, List.map_cons, List.mem_cons]
    rw [or_left_comm, or_assoc]

theorem increasing_distinctById (candidates : List Row) : Increasing (distinctById candidates) :=
  increasing_foldl_insertRow candidates List.Pairwise.nil

theorem mem_ids_distinctById (candidates : List Row) (id : Int) :
    id ∈ ids (distinctById candidates) ↔ id ∈ ids candidates := by
  unfold distinctById
  rw [mem_ids_foldl_insertRow]
  simp [ids]

end SceneArchive.Statement
