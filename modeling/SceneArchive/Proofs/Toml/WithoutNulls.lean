import SceneArchive.Export
import SceneArchive.Proofs.Csv.Columns

/-!
# Trees without their nulls

A TOML document has no null, so nulls are taken out of a tree before it is written. To see that
nothing else is lost, a tree is listed node by node, each with the keys that lead to it; an index
is no key, since taking out an item moves those behind it.

* `nodes_withoutNulls`: what is left of the nodes of a tree is all of them but the nulls.
* `withoutNulls_of_not_within`: a tree that has no null stays as it is.
* `withoutNulls_loses_only_nulls`: both, and what they say of the records of a document.
-/

namespace SceneArchive

namespace Json

/-- True for null. -/
def isNull : Json → Bool
  | null => true
  | _ => false

/-- True for arrays and objects. -/
def isContainer : Json → Bool
  | array _ | object _ => true
  | _ => false

/-- What holds of scalars, and of arrays and objects if it holds of what is right inside them, holds
of every value. -/
theorem containment_induction {motive : Json → Prop}
    (scalar : ∀ t : Json, t.IsScalar → motive t)
    (array : ∀ items, (∀ t ∈ items, motive t) → motive (array items))
    (object : ∀ fields : List (String × Json), (∀ m ∈ fields, motive m.2) → motive (object fields))
    (t : Json) : motive t := by
  induction t using branch_induction with
  | node t ih =>
    cases t with
    | array items =>
      apply array items
      intro t mem
      obtain ⟨i, bound, rfl⟩ := List.getElem_of_mem mem
      exact ih (toString i, items[i]) (List.mem_mapIdx.mpr ⟨i, bound, rfl⟩)
    | object fields => exact object fields ih
    | null | bool | number | string => exact scalar _ trivial

mutual

/-- The nodes of a tree in order, each without what is inside it and with the keys that lead to
it. -/
def nodes : Json → List (List String × Json)
  | array items => ([], array []) :: itemNodes items
  | object fields => ([], object []) :: fieldNodes fields
  | scalar => [([], scalar)]

/-- The nodes of the items of an array. -/
def itemNodes : List Json → List (List String × Json)
  | [] => []
  | t :: rest => nodes t ++ itemNodes rest

/-- The nodes of the fields of an object. -/
def fieldNodes : List (String × Json) → List (List String × Json)
  | [] => []
  | (name, t) :: rest => (nodes t).map (fun (keys, node) => (name :: keys, node)) ++ fieldNodes rest

end

/-- The scalars of a tree in order, with the keys that lead to them. -/
def keyedLeaves (t : Json) : List (List String × Json) := t.nodes.filter (!·.2.isContainer)

/-- The arrays and objects of a tree in order, with the keys that lead to them. -/
def keyedContainers (t : Json) : List (List String × Json) := t.nodes.filter (·.2.isContainer)

variable {t : Json} {items : List Json} {fields : List (String × Json)}

theorem nodes_of_isScalar (h : t.IsScalar) : t.nodes = [([], t)] := by
  cases t with
  | array | object => cases h
  | null | bool | number | string => rfl

theorem itemNodes_eq_flatMap (items : List Json) : itemNodes items = items.flatMap nodes := by
  induction items with
  | nil => rfl
  | cons t rest ih => rw [itemNodes, ih, List.flatMap_cons]

/-- The nodes of a field. -/
def nodesUnder (m : String × Json) : List (List String × Json) :=
  m.2.nodes.map fun n => (m.1 :: n.1, n.2)

theorem fieldNodes_eq_flatMap (fields : List (String × Json)) :
    fieldNodes fields = fields.flatMap nodesUnder := by
  induction fields with
  | nil => rfl
  | cons m rest ih => rw [fieldNodes, ih, List.flatMap_cons, nodesUnder]

theorem null_within_iff_of_isScalar (h : t.IsScalar) : null.Within t ↔ t = null := by
  constructor
  · intro inside
    cases inside with
    | refl => rfl
    | item | member => cases h
  · rintro rfl
    exact .refl

/-- A null inside a tree is one of its nodes. -/
theorem null_within_iff : null.Within t ↔ ∃ n ∈ t.nodes, n.2 = null := by
  induction t using containment_induction with
  | scalar t scalar => simp [nodes_of_isScalar scalar, null_within_iff_of_isScalar scalar]
  | array items ih =>
    have inside : null.Within (array items) ↔ ∃ t ∈ items, null.Within t := by
      simp [within_array_iff]
    rw [inside, nodes, itemNodes_eq_flatMap]
    simp only [List.mem_cons, List.mem_flatMap, exists_eq_or_imp, reduceCtorEq, false_or]
    constructor
    · rintro ⟨t, mem, null⟩
      obtain ⟨n, below, same⟩ := (ih t mem).mp null
      exact ⟨n, ⟨t, mem, below⟩, same⟩
    · rintro ⟨n, ⟨t, mem, below⟩, same⟩
      exact ⟨t, mem, (ih t mem).mpr ⟨n, below, same⟩⟩
  | object fields ih =>
    have inside : null.Within (object fields) ↔ ∃ m ∈ fields, null.Within m.2 := by
      simp [within_object_iff]
    rw [inside, nodes, fieldNodes_eq_flatMap]
    simp only [List.mem_cons, List.mem_flatMap, exists_eq_or_imp, reduceCtorEq, false_or,
      nodesUnder, List.mem_map]
    constructor
    · rintro ⟨m, mem, null⟩
      obtain ⟨n, below, same⟩ := (ih m mem).mp null
      exact ⟨_, ⟨m, mem, n, below, rfl⟩, same⟩
    · rintro ⟨_, ⟨m, mem, n, below, rfl⟩, same⟩
      exact ⟨m, mem, (ih m mem).mpr ⟨n, below, same⟩⟩

end Json

namespace Toml

open Json (isNull)

variable {t u : Json} {items : List Json} {fields : List (String × Json)}

/-- A field without its nulls, if it is not null. -/
def fieldWithoutNulls (m : String × Json) : Option (String × Json) :=
  (withoutNulls m.2).map fun t => (m.1, t)

theorem itemsWithoutNulls_eq_filterMap (items : List Json) :
    itemsWithoutNulls items = items.filterMap withoutNulls := by
  induction items with
  | nil => rfl
  | cons t rest ih =>
    rw [itemsWithoutNulls, ih, List.filterMap_cons]
    cases withoutNulls t <;> rfl

theorem fieldsWithoutNulls_eq_filterMap (fields : List (String × Json)) :
    fieldsWithoutNulls fields = fields.filterMap fieldWithoutNulls := by
  induction fields with
  | nil => rfl
  | cons m rest ih =>
    rw [fieldsWithoutNulls, ih, List.filterMap_cons, fieldWithoutNulls]
    cases withoutNulls m.2 <;> rfl

theorem withoutNulls_of_isScalar (h : t.IsScalar) (other : t ≠ .null) :
    withoutNulls t = some t := by
  cases t with
  | array | object => cases h
  | null => exact absurd rfl other
  | bool | number | string => rfl

theorem withoutNulls_eq_none_iff : withoutNulls t = none ↔ t = .null := by
  cases t <;> simp [withoutNulls]

/-! ## What is left -/

/-- What is left of a list, where what is left of each of its elements is known. -/
theorem flatMap_filterMap {α β γ : Type} {f : α → Option β} {g : β → List γ} {k : α → List γ}
    {xs : List α} (each : ∀ x ∈ xs, (f x).toList.flatMap g = k x) :
    (xs.filterMap f).flatMap g = xs.flatMap k := by
  induction xs with
  | nil => rfl
  | cons x xs ih =>
    obtain ⟨first, others⟩ := List.forall_mem_cons.mp each
    rw [List.flatMap_cons, ← first, ← ih others, List.filterMap_cons]
    cases f x <;> simp

/-- Of the nodes of a tree, all are left but the nulls. -/
theorem flatMap_nodes_withoutNulls (t : Json) :
    (withoutNulls t).toList.flatMap Json.nodes = t.nodes.filter (!·.2.isNull) := by
  induction t using Json.containment_induction with
  | scalar t scalar =>
    rw [Json.nodes_of_isScalar scalar]
    by_cases null : t = .null
    · subst null
      rfl
    · rw [withoutNulls_of_isScalar scalar null]
      cases t with
      | null => exact absurd rfl null
      | array | object => cases scalar
      | bool | number | string => rfl
  | array items ih =>
    rw [withoutNulls, Option.toList_some, List.flatMap_singleton, itemsWithoutNulls_eq_filterMap,
      Json.nodes, Json.nodes, Json.itemNodes_eq_flatMap, Json.itemNodes_eq_flatMap,
      flatMap_filterMap ih, List.filter_cons_of_pos rfl, List.filter_flatMap]
  | object fields ih =>
    have each : ∀ m ∈ fields, (fieldWithoutNulls m).toList.flatMap Json.nodesUnder =
        (Json.nodesUnder m).filter (!·.2.isNull) := by
      intro m mem
      have left : (fieldWithoutNulls m).toList.flatMap Json.nodesUnder =
          ((withoutNulls m.2).toList.flatMap Json.nodes).map fun n => (m.1 :: n.1, n.2) := by
        rw [fieldWithoutNulls]
        cases withoutNulls m.2 <;> simp [Json.nodesUnder]
      rw [left, ih m mem, Json.nodesUnder, List.filter_map]
      rfl
    rw [withoutNulls, Option.toList_some, List.flatMap_singleton, fieldsWithoutNulls_eq_filterMap,
      Json.nodes, Json.nodes, Json.fieldNodes_eq_flatMap, Json.fieldNodes_eq_flatMap,
      flatMap_filterMap each, List.filter_cons_of_pos rfl, List.filter_flatMap]

theorem nodes_withoutNulls (h : withoutNulls t = some u) :
    u.nodes = t.nodes.filter (!·.2.isNull) := by
  rw [← flatMap_nodes_withoutNulls, h, Option.toList_some, List.flatMap_singleton]

theorem not_within_withoutNulls (h : withoutNulls t = some u) : ¬ Json.null.Within u := by
  rw [Json.null_within_iff, nodes_withoutNulls h]
  rintro ⟨n, mem, null⟩
  have other := (List.mem_filter.mp mem).2
  rw [null] at other
  cases other

theorem withoutNulls_of_not_within (h : ¬ Json.null.Within t) : withoutNulls t = some t := by
  induction t using Json.containment_induction with
  | scalar t scalar =>
    refine withoutNulls_of_isScalar scalar ?_
    rintro rfl
    exact h .refl
  | array items ih =>
    have same : ∀ t ∈ items, withoutNulls t = some t :=
      fun t mem => ih t mem fun inside => h (.item mem inside)
    rw [withoutNulls, itemsWithoutNulls_eq_filterMap, List.filterMap_congr same,
      List.filterMap_some]
  | object fields ih =>
    have same : ∀ m ∈ fields, fieldWithoutNulls m = some m := by
      intro m mem
      rw [fieldWithoutNulls, ih m mem fun inside => h (.member mem inside), Option.map_some]
    rw [withoutNulls, fieldsWithoutNulls_eq_filterMap, List.filterMap_congr same,
      List.filterMap_some]

/-! ## Lists of trees -/

theorem forall₂_itemsWithoutNulls (items : List Json) :
    List.Forall₂ (fun t u => withoutNulls t = some u) (items.filter (!·.isNull))
      (itemsWithoutNulls items) := by
  induction items with
  | nil => exact .nil
  | cons t rest ih =>
    rw [itemsWithoutNulls]
    cases left : withoutNulls t with
    | none =>
      obtain rfl := withoutNulls_eq_none_iff.mp left
      exact ih
    | some u =>
      have other : (!t.isNull) = true := by
        cases t with
        | null => cases left
        | _ => rfl
      simp only [List.filter_cons, other, if_true]
      exact .cons left ih

/-- Taking out the nulls takes out nothing else. A tree is gone only if it is null; what is left of
another one has no null in it, is the tree itself if that has none, stays as it is from then on,
and has the same scalars that are not null and the same arrays and objects, empty ones among them,
in the same order under the same keys. So the records of a document are the trees that are not
null, in order, each without its nulls. -/
theorem withoutNulls_loses_only_nulls :
    (∀ t, t = .null ∧ withoutNulls t = none ∨ t ≠ .null ∧ ∃ u, withoutNulls t = some u ∧
      ¬ Json.null.Within u ∧ (Json.null.Within t ∨ u = t) ∧ withoutNulls u = some u ∧
      u.keyedLeaves = t.keyedLeaves.filter (!·.2.isNull) ∧
      u.keyedContainers = t.keyedContainers) ∧
    ∀ trees, ∃ records,
      List.Forall₂ (fun t u => withoutNulls t = some u) (trees.filter (!·.isNull)) records ∧
      exportTrees .toml trees =
        if itemsFit records then .ok (document [("records", .array records)])
        else .error (.encoding .tomlInteger) := by
  refine ⟨fun t => ?_, fun trees => ⟨_, forall₂_itemsWithoutNulls trees, rfl⟩⟩
  cases left : withoutNulls t with
  | none => exact .inl ⟨withoutNulls_eq_none_iff.mp left, rfl⟩
  | some u =>
    have noNull : ¬ Json.null.Within u := not_within_withoutNulls left
    have nodes := nodes_withoutNulls left
    refine .inr ⟨?_, u, rfl, noNull, ?_, withoutNulls_of_not_within noNull, ?_, ?_⟩
    · rintro rfl
      cases left
    · by_cases null : Json.null.Within t
      · exact .inl null
      · rw [withoutNulls_of_not_within null] at left
        exact .inr (Option.some.inj left).symm
    · rw [Json.keyedLeaves, nodes, List.filter_comm, Json.keyedLeaves]
    · rw [Json.keyedContainers, nodes, List.filter_filter, Json.keyedContainers]
      apply List.filter_congr
      intro n _
      cases n.2 <;> rfl

end Toml

end SceneArchive
