import SceneArchive.Statement.Evaluation

/-!
# Chains of joins

What the bindings of a chain of joins are. Every join binds one more kind, to a row that fits the
row of the kind that the join starts from, or to none where the join keeps a row without a match;
what is bound before stays bound.

* `extendAll_sound`: every binding of the chain has this form.
* `extendAll_complete`: whatever fitting rows are picked for the kinds, some binding of the chain
  binds the kinds to them.
-/

namespace SceneArchive.Statement

variable {tables : Tables} {b b' : Binding}

theorem boundRow_cons (kind other : Kind) (row : Option Row) (b : Binding) :
    boundRow ((kind, row) :: b) other = if kind = other then row else boundRow b other := by
  by_cases h : kind = other <;> simp [boundRow, h]

namespace Join

/-- The kind that a join binds. -/
def kind : Join → Kind
  | parent kind _ => kind
  | children kind _ _ => kind

/-- The kind that a join starts from. -/
def source : Join → Kind
  | parent _ _ => resultKind
  | children _ _ owner => owner

/-- Whether a join keeps a binding that no row fits. -/
def isOuter : Join → Bool
  | parent _ _ => false
  | children _ _ _ => true

/-- Whether a row fits the row that a join starts from. -/
def Fits (source : Option Row) (row : Row) : Join → Prop
  | parent _ column =>
    matches? (.integer row.id) ((source.map (·.cell column)).getD .null) = true
  | children _ column _ =>
    matches? (row.cell column) ((source.map fun r => .integer r.id).getD .null) = true

/-- What a join makes sure of in a binding. -/
def HoldsIn (tables : Tables) (b : Binding) (j : Join) : Prop :=
  match boundRow b j.kind with
  | some row => row ∈ tables j.kind ∧ j.Fits (boundRow b j.source) row
  | none => j.isOuter = true

/-- Whether every join of a chain starts from a kind that is bound and binds one that is not. -/
def Ready : List Kind → List Join → Prop
  | _, [] => True
  | bound, j :: rest => j.source ∈ bound ∧ j.kind ∉ bound ∧ Ready (j.kind :: bound) rest

theorem extend_fits_parent (column : String) (kind : Kind) (row : Row) :
    (parent kind column).Fits (boundRow b resultKind) row ↔
      matches? (.integer row.id) (boundCell b ⟨resultKind, column⟩) = true := by
  cases h : boundRow b resultKind <;> simp [Fits, boundCell, h]

theorem extend_fits_children (column : String) (kind owner : Kind) (row : Row) :
    (children kind column owner).Fits (boundRow b owner) row ↔
      matches? (row.cell column) (boundId b owner) = true := by
  cases h : boundRow b owner <;> simp [Fits, boundId, h]

/-- A row that fits is among those that a binding is extended to. -/
theorem mem_extend_of_fits {j : Join} {row : Row} (mem : row ∈ tables j.kind)
    (fits : j.Fits (boundRow b j.source) row) : (j.kind, some row) :: b ∈ j.extend tables b := by
  cases j with
  | parent kind column =>
    have matching := (extend_fits_parent column kind row).mp fits
    exact List.mem_map.mpr ⟨row, List.mem_filter.mpr ⟨mem, matching⟩, rfl⟩
  | children kind column owner =>
    have matching := (extend_fits_children column kind owner row).mp fits
    have found : row ∈ (tables kind).filter
        fun row => matches? (row.cell column) (boundId b owner) :=
      List.mem_filter.mpr ⟨mem, matching⟩
    simp only [extend]
    split
    · next empty =>
      rw [empty] at found
      cases found
    · exact List.mem_map.mpr ⟨row, found, rfl⟩

/-- A binding is extended by a row that fits, or by none where that is kept. -/
theorem exists_of_mem_extend {j : Join} (h : b' ∈ j.extend tables b) :
    ∃ row, b' = (j.kind, row) :: b ∧
      match row with
      | some row => row ∈ tables j.kind ∧ j.Fits (boundRow b j.source) row
      | none => j.isOuter = true := by
  cases j with
  | parent kind column =>
    obtain ⟨row, hRow, rfl⟩ := List.mem_map.mp h
    obtain ⟨mem, matching⟩ := List.mem_filter.mp hRow
    exact ⟨some row, rfl, mem, (extend_fits_parent column kind row).mpr matching⟩
  | children kind column owner =>
    simp only [extend] at h
    split at h
    · exact ⟨none, List.mem_singleton.mp h, rfl⟩
    · obtain ⟨row, hRow, rfl⟩ := List.mem_map.mp h
      obtain ⟨mem, matching⟩ := List.mem_filter.mp hRow
      exact ⟨some row, rfl, mem, (extend_fits_children column kind owner row).mpr matching⟩

end Join

open Join

/-- The chain changes nothing that is bound, and every join of it has made sure of its kind. -/
theorem extendAll_sound {joins : List Join} {bound : List Kind} (ready : Ready bound joins)
    (h : b' ∈ extendAll tables joins b) :
    (∀ kind ∈ bound, boundRow b' kind = boundRow b kind) ∧ ∀ j ∈ joins, j.HoldsIn tables b' := by
  induction joins generalizing bound b with
  | nil =>
    rw [List.mem_singleton.mp h]
    exact ⟨fun _ _ => rfl, nofun⟩
  | cons j rest ih =>
    obtain ⟨hSource, hKind, readyRest⟩ := ready
    obtain ⟨b₁, hFirst, hRest⟩ := List.mem_flatMap.mp h
    obtain ⟨row, rfl, fits⟩ := exists_of_mem_extend hFirst
    obtain ⟨kept, joined⟩ := ih readyRest hRest
    have stays : ∀ kind ∈ bound, boundRow b' kind = boundRow b kind := by
      intro kind hMem
      rw [kept kind (List.mem_cons_of_mem _ hMem), boundRow_cons, if_neg]
      rintro rfl
      exact hKind hMem
    refine ⟨stays, ?_⟩
    intro k hk
    rcases List.mem_cons.mp hk with rfl | hk
    · have here : boundRow b' k.kind = row := by
        rw [kept k.kind List.mem_cons_self, boundRow_cons, if_pos rfl]
      unfold HoldsIn
      rw [here, stays k.source hSource]
      exact fits
    · exact joined k hk

/-- Rows that fit each other are found by the chain. -/
theorem extendAll_complete {joins : List Join} {bound : List Kind} (ready : Ready bound joins)
    {pick : Kind → Row} (start : ∀ kind ∈ bound, boundRow b kind = some (pick kind))
    (fits : ∀ j ∈ joins, pick j.kind ∈ tables j.kind ∧
      j.Fits (some (pick j.source)) (pick j.kind)) :
    ∃ b' ∈ extendAll tables joins b,
      ∀ kind, (kind ∈ bound ∨ kind ∈ joins.map Join.kind) →
        boundRow b' kind = some (pick kind) := by
  induction joins generalizing bound b with
  | nil =>
    refine ⟨b, List.mem_singleton_self b, ?_⟩
    rintro kind (hMem | hMem)
    · exact start kind hMem
    · cases hMem
  | cons j rest ih =>
    obtain ⟨hSource, hKind, readyRest⟩ := ready
    obtain ⟨mem, fitsHere⟩ := fits j List.mem_cons_self
    rw [← start j.source hSource] at fitsHere
    have first := mem_extend_of_fits mem fitsHere
    have startRest : ∀ kind ∈ j.kind :: bound,
        boundRow ((j.kind, some (pick j.kind)) :: b) kind = some (pick kind) := by
      intro kind hMem
      rw [boundRow_cons]
      split
      · next same => rw [same]
      · next other =>
        exact start kind ((List.mem_cons.mp hMem).resolve_left fun same => other same.symm)
    have fitsRest := (List.forall_mem_cons.mp fits).2
    obtain ⟨b', hRest, found⟩ := ih readyRest startRest fitsRest
    refine ⟨b', List.mem_flatMap.mpr ⟨_, first, hRest⟩, ?_⟩
    intro kind hMem
    apply found
    rcases hMem with hMem | hMem
    · exact .inl (List.mem_cons_of_mem _ hMem)
    · rcases List.mem_cons.mp hMem with rfl | hMem
      · exact .inl List.mem_cons_self
      · exact .inr hMem

end SceneArchive.Statement
