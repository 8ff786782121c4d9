import Mathlib
import SceneArchive.Csv
import SceneArchive.Proofs.Flatten.Shown

/-!
# The columns of a tree

The leaves of a tree and the names of their columns. A column is named by the keys and indices on
the way to its leaf, joined by points. Keys that are not empty and have no point in them can be
told apart in such a name, so that it leads to one place of the tree only.

* `mem_leaves_iff`: the leaves that are listed are those of the tree.
* `eq_of_intercalate_eq`: a name can be taken apart.
* `nodup_columns`: no two leaves of a tree share a column.
-/

namespace SceneArchive

namespace Json

variable {tree : Json} {b : String × Json} {items : List Json} {fields : List (String × Json)}

/-- Whether a value is neither an array nor an object. -/
def IsScalar : Json → Prop
  | array _ | object _ => False
  | _ => True

/-- The values right inside a value, each with the key or the index that leads to it. -/
def branches : Json → List (String × Json)
  | array items => items.mapIdx fun i item => (toString i, item)
  | object fields => fields
  | _ => []

theorem branches_of_isScalar (h : tree.IsScalar) : tree.branches = [] := by
  cases tree with
  | array | object => cases h
  | null | bool | number | string => rfl

theorem sizeOf_branch_lt (mem : b ∈ tree.branches) : sizeOf b.2 < sizeOf tree := by
  cases tree with
  | array items =>
    obtain ⟨i, bound, rfl⟩ := List.mem_mapIdx.mp mem
    have := List.sizeOf_lt_of_mem (List.getElem_mem bound)
    simp only [array.sizeOf_spec]
    omega
  | object fields =>
    obtain ⟨name, inner⟩ := b
    have := List.sizeOf_lt_of_mem (show (name, inner) ∈ fields from mem)
    simp only [object.sizeOf_spec, Prod.mk.sizeOf_spec] at this ⊢
    omega
  | null | bool | number | string => cases mem

/-- What holds of a value if it holds of the values right inside it holds of every value. -/
theorem branch_induction {motive : Json → Prop}
    (node : ∀ tree, (∀ b ∈ tree.branches, motive b.2) → motive tree) (tree : Json) :
    motive tree :=
  node tree fun b _ => branch_induction node b.2
termination_by sizeOf tree
decreasing_by exact sizeOf_branch_lt ‹_›

/-- Whether a key or an index can be told apart in the name of a column. -/
def IsPlainStep (step : String) : Prop := step ≠ "" ∧ '.' ∉ step.toList

instance (step : String) : Decidable (IsPlainStep step) :=
  inferInstanceAs (Decidable (step ≠ "" ∧ '.' ∉ step.toList))

/-- Whether in every object of a tree each key is there once, is not empty and has no point. -/
def HasPlainKeys (tree : Json) : Prop :=
  ∀ fields, (object fields).Within tree →
    (fields.map (·.1)).Nodup ∧ ∀ name ∈ fields.map (·.1), IsPlainStep name

/-- Whether a tree is an object and has such keys. -/
def IsPlainObject (tree : Json) : Prop := (∃ fields, tree = object fields) ∧ tree.HasPlainKeys

theorem isPlainStep_toString (n : Nat) : IsPlainStep (toString n) := by
  rw [Nat.toString_eq_repr, Nat.repr_eq_ofList_toDigits, IsPlainStep, String.toList_ofList]
  constructor
  · intro empty
    exact Nat.toDigits_ne_nil (String.ofList_eq_empty_iff.mp empty)
  · intro point
    cases Nat.isDigit_of_mem_toDigits (by decide) (by decide) point

theorem hasPlainKeys_of_isScalar (h : tree.IsScalar) : tree.HasPlainKeys := by
  intro fields inside
  cases inside with
  | refl | item | member => cases h

theorem hasPlainKeys_array_iff :
    (array items).HasPlainKeys ↔ ∀ item ∈ items, item.HasPlainKeys := by
  constructor
  · intro h item mem fields inside
    exact h fields (.item mem inside)
  · intro h fields inside
    cases inside with
    | item mem inside => exact h _ mem fields inside

theorem hasPlainKeys_object_iff : (object fields).HasPlainKeys ↔
    (fields.map (·.1)).Nodup ∧ ∀ m ∈ fields, IsPlainStep m.1 ∧ m.2.HasPlainKeys := by
  constructor
  · intro h
    obtain ⟨distinct, plain⟩ := h fields .refl
    exact ⟨distinct, fun m mem => ⟨plain m.1 (List.mem_map_of_mem mem),
      fun fields' inside => h fields' (.member mem inside)⟩⟩
  · rintro ⟨distinct, h⟩ fields' inside
    cases inside with
    | refl => exact ⟨distinct, List.forall_mem_map.mpr fun m mem => (h m mem).1⟩
    | member mem inside => exact (h _ mem).2 fields' inside

/-- The steps out of a value are different and can be told apart, and the values that they lead to
have plain keys. -/
theorem HasPlainKeys.branches (h : tree.HasPlainKeys) :
    (tree.branches.map (·.1)).Nodup ∧
      ∀ b ∈ tree.branches, IsPlainStep b.1 ∧ b.2.HasPlainKeys := by
  cases tree with
  | array items =>
    constructor
    · rw [List.Nodup, List.pairwise_iff_getElem]
      intro i j hi hj less same
      simp only [Json.branches, List.getElem_map, List.getElem_mapIdx, Nat.toString_eq_repr]
        at same
      exact less.ne (Nat.repr_injective same)
    · intro b mem
      obtain ⟨i, bound, rfl⟩ := List.mem_mapIdx.mp mem
      exact ⟨isPlainStep_toString i,
        hasPlainKeys_array_iff.mp h _ (List.getElem_mem bound)⟩
  | object fields => exact hasPlainKeys_object_iff.mp h
  | null | bool | number | string => exact ⟨List.nodup_nil, fun _ mem => nomatch mem⟩

end Json

namespace Csv

open Json (IsPlainStep)

variable {tree leaf : Json} {path path' : List String}

/-! ## Leaves -/

/-- Whether a path of keys and indices leads through a tree to a leaf. -/
inductive LeafAt : Json → List String → Json → Prop
  | leaf {leaf : Json} (scalar : leaf.IsScalar) : LeafAt leaf [] leaf
  | branch {tree leaf : Json} {b : String × Json} {path : List String} (mem : b ∈ tree.branches)
      (rest : LeafAt b.2 path leaf) : LeafAt tree (b.1 :: path) leaf

/-- Whether a path comes before another one in the order of a tree. -/
inductive Precedes : Json → List String → List String → Prop
  | apart {tree : Json} {b b' : String × Json} {path path' : List String}
      (earlier : [b, b'].Sublist tree.branches) : Precedes tree (b.1 :: path) (b'.1 :: path')
  | inside {tree : Json} {b : String × Json} {path path' : List String} (mem : b ∈ tree.branches)
      (rest : Precedes b.2 path path') : Precedes tree (b.1 :: path) (b.1 :: path')

theorem leaves_of_isScalar (h : tree.IsScalar) : leaves tree = [([], tree)] := by
  cases tree with
  | array | object => cases h
  | null | bool | number | string => rfl

theorem itemLeaves_eq (index : Nat) (items : List Json) : itemLeaves index items =
    (items.mapIdx fun i item => (toString (index + i), item)).flatMap fun b =>
      (leaves b.2).map fun l => (b.1 :: l.1, l.2) := by
  induction items generalizing index with
  | nil => rfl
  | cons item rest ih =>
    rw [itemLeaves, ih, List.mapIdx_cons, List.flatMap_cons]
    simp only [Nat.add_zero, Nat.add_right_comm, Nat.add_assoc]

theorem fieldLeaves_eq (fields : List (String × Json)) : fieldLeaves fields =
    fields.flatMap fun b => (leaves b.2).map fun l => (b.1 :: l.1, l.2) := by
  induction fields with
  | nil => rfl
  | cons field rest ih =>
    rw [fieldLeaves, ih, List.flatMap_cons]

theorem leaves_of_not_isScalar (h : ¬ tree.IsScalar) : leaves tree =
    tree.branches.flatMap fun b => (leaves b.2).map fun l => (b.1 :: l.1, l.2) := by
  cases tree with
  | array items =>
    rw [leaves, itemLeaves_eq]
    simp only [Nat.zero_add]
    rfl
  | object fields => exact fieldLeaves_eq fields
  | null | bool | number | string => exact absurd trivial h

theorem mem_leaves_iff : (path, leaf) ∈ leaves tree ↔ LeafAt tree path leaf := by
  induction tree using Json.branch_induction generalizing path with
  | node tree ih =>
    by_cases scalar : tree.IsScalar
    · rw [leaves_of_isScalar scalar, List.mem_singleton, Prod.mk.injEq]
      constructor
      · rintro ⟨rfl, rfl⟩
        exact .leaf scalar
      · intro h
        cases h with
        | leaf => exact ⟨rfl, rfl⟩
        | branch mem =>
          rw [Json.branches_of_isScalar scalar] at mem
          cases mem
    · rw [leaves_of_not_isScalar scalar, List.mem_flatMap]
      constructor
      · rintro ⟨b, branch, mem⟩
        obtain ⟨⟨rest, _⟩, below, same⟩ := List.mem_map.mp mem
        cases same
        exact .branch branch ((ih b branch).mp below)
      · intro h
        cases h with
        | leaf scalar' => exact absurd scalar' scalar
        | branch mem rest => exact ⟨_, mem, List.mem_map_of_mem ((ih _ mem).mpr rest)⟩

/-- The leaves are listed in the order of the tree. -/
theorem pairwise_leaves (tree : Json) :
    (leaves tree).Pairwise fun l l' => Precedes tree l.1 l'.1 := by
  induction tree using Json.branch_induction with
  | node tree ih =>
    by_cases scalar : tree.IsScalar
    · rw [leaves_of_isScalar scalar]
      exact List.pairwise_singleton _ _
    · rw [leaves_of_not_isScalar scalar, List.pairwise_flatMap]
      constructor
      · intro b mem
        exact List.pairwise_map.mpr ((ih b mem).imp fun before => .inside mem before)
      · rw [List.pairwise_iff_forall_sublist]
        intro b b' earlier l mem l' mem'
        obtain ⟨_, -, rfl⟩ := List.mem_map.mp mem
        obtain ⟨_, -, rfl⟩ := List.mem_map.mp mem'
        exact .apart earlier

theorem nodup_paths (h : tree.HasPlainKeys) : ((leaves tree).map (·.1)).Nodup := by
  induction tree using Json.branch_induction with
  | node tree ih =>
    by_cases scalar : tree.IsScalar
    · rw [leaves_of_isScalar scalar]
      exact List.nodup_singleton _
    · have paths : (leaves tree).map (·.1) =
          tree.branches.flatMap fun b => ((leaves b.2).map (·.1)).map (b.1 :: ·) := by
        rw [leaves_of_not_isScalar scalar, List.map_flatMap]
        simp only [List.map_map, Function.comp_def]
      rw [paths, List.nodup_flatMap]
      constructor
      · intro b mem
        have distinct := ih b mem (h.branches.2 b mem).2
        exact distinct.map fun _ _ same => (List.cons_inj_right b.1).mp same
      · -- Paths through different branches have different first steps.
        refine (List.pairwise_map.mp h.branches.1).imp ?_
        intro b b' other path mem mem'
        obtain ⟨rest, -, rfl⟩ := List.mem_map.mp mem
        obtain ⟨rest', -, same⟩ := List.mem_map.mp mem'
        exact other (List.cons.inj same).1.symm

theorem LeafAt.isScalar (found : LeafAt tree path leaf) : leaf.IsScalar := by
  induction found with
  | leaf scalar => exact scalar
  | branch _ _ ih => exact ih

theorem LeafAt.isPlainStep (found : LeafAt tree path leaf) (h : tree.HasPlainKeys) :
    ∀ step ∈ path, IsPlainStep step := by
  induction found with
  | leaf => exact fun _ mem => nomatch mem
  | branch mem rest ih =>
    exact List.forall_mem_cons.mpr ⟨(h.branches.2 _ mem).1, ih (h.branches.2 _ mem).2⟩

/-! ## Names -/

theorem intercalate_append_cons (front first : String) (rest : List String) :
    ".".intercalate ((front ++ first) :: rest) = front ++ ".".intercalate (first :: rest) := by
  cases rest with
  | nil => rw [String.intercalate_singleton, String.intercalate_singleton]
  | cons next rest =>
    simp only [String.intercalate_cons_cons, String.append_assoc]

theorem dotted_eq (nonempty : ∀ step ∈ path, step ≠ "") : dotted path = ".".intercalate path := by
  have behind : ∀ name ≠ "", ∀ path : List String,
      path.foldl (fun name step => if name.isEmpty then step else name ++ "." ++ step) name =
        ".".intercalate (name :: path) := by
    intro name some path
    induction path generalizing name with
    | nil => exact String.intercalate_singleton.symm
    | cons step path ih =>
      have longer : name ++ "." ++ step ≠ "" := by simp
      rw [List.foldl_cons, if_neg (by simpa using some), ih _ longer, intercalate_append_cons,
        String.intercalate_cons_cons]
  cases path with
  | nil => rfl
  | cons step path =>
    rw [dotted, List.foldl_cons, if_pos (by decide)]
    exact behind step (nonempty step List.mem_cons_self) path

theorem splitOn_intercalate (plain : ∀ step ∈ path, IsPlainStep step) (nonempty : path ≠ []) :
    (".".intercalate path).toList.splitOn '.' = path.map String.toList := by
  rw [String.toList_intercalate]
  refine List.splitOn_intercalate '.' ?_ (by simpa using nonempty)
  intro chars mem
  obtain ⟨step, inPath, rfl⟩ := List.mem_map.mp mem
  exact (plain step inPath).2

theorem intercalate_ne_empty (plain : ∀ step ∈ path, IsPlainStep step) (nonempty : path ≠ []) :
    ".".intercalate path ≠ "" := by
  intro empty
  -- Nothing is cut into one empty piece.
  have pieces := splitOn_intercalate plain nonempty
  rw [empty] at pieces
  obtain ⟨step, rfl⟩ : ∃ step, path = [step] :=
    List.length_eq_one_iff.mp (by rw [← List.length_map String.toList, ← pieces]; rfl)
  have blank : step = "" := by
    rw [String.intercalate_singleton] at empty
    exact empty
  exact (plain step List.mem_cons_self).1 blank

theorem eq_of_intercalate_eq (plain : ∀ step ∈ path, IsPlainStep step)
    (plain' : ∀ step ∈ path', IsPlainStep step)
    (same : ".".intercalate path = ".".intercalate path') : path = path' := by
  by_cases empty : path = [] <;> by_cases empty' : path' = []
  · rw [empty, empty']
  · rw [empty] at same
    exact absurd same.symm (intercalate_ne_empty plain' empty')
  · rw [empty'] at same
    exact absurd same (intercalate_ne_empty plain empty)
  · have pieces := splitOn_intercalate plain empty
    rw [same, splitOn_intercalate plain' empty'] at pieces
    exact (List.map_injective_iff.mpr (fun _ _ => String.toList_injective) pieces).symm

/-! ## Columns -/

/-- The columns in which a tree has leaves, in the order of the leaves. -/
def columns (tree : Json) : List String := (leaves tree).map fun l => ".".intercalate l.1

theorem mem_columns {column : String} : column ∈ columns tree ↔
    ∃ path leaf, LeafAt tree path leaf ∧ ".".intercalate path = column := by
  simp only [columns, List.mem_map, Prod.exists, mem_leaves_iff]

theorem nodup_columns (h : tree.HasPlainKeys) : (columns tree).Nodup := by
  have names : columns tree = ((leaves tree).map (·.1)).map (".".intercalate ·) := by
    rw [columns, List.map_map]
    rfl
  have plain : ∀ path ∈ (leaves tree).map (·.1), ∀ step ∈ path, IsPlainStep step := by
    intro path mem
    obtain ⟨⟨_, leaf⟩, listed, rfl⟩ := List.mem_map.mp mem
    exact (mem_leaves_iff.mp listed).isPlainStep h
  rw [names]
  exact (nodup_paths h).map_on fun path mem path' mem' same =>
    eq_of_intercalate_eq (plain path mem) (plain path' mem') same

end Csv

end SceneArchive
