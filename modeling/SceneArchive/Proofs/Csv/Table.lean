import SceneArchive.Export
import SceneArchive.Proofs.Csv.Columns
import SceneArchive.Proofs.Csv.Reading
import SceneArchive.Proofs.FirstAppearance
import SceneArchive.Proofs.Flatten.PlainKeys

/-!
# The table of a list of trees

What a reader finds in the table of a list of trees: a header that lists the columns of the trees,
and for each tree a record with the texts of its leaves under their columns.

* `IsTableOf`: a table holds a list of trees.
* `exportTrees_csv`: the exported table is read back as such a table.
-/

namespace SceneArchive.Csv

variable {trees : List Json} {tree : Json}

/-- The text that stands for a leaf: nothing for null, a string as it is, and a truth value or a
number as it is written in a tree. -/
inductive IsLeafText : Json → String → Prop
  | null : IsLeafText .null ""
  | bool (b : Bool) : IsLeafText (.bool b) (if b then "true" else "false")
  | int (n : Int) : IsLeafText (.number (.int n)) (toString n)
  | float (x : Float) : IsLeafText (.number (.float x)) (Decimal.Layout.json.text x)
  | string (s : String) : IsLeafText (.string s) s

/-- What stands in a column for a tree: the text of its leaf there, or nothing if it has none. -/
def IsCell (tree : Json) (column cell : String) : Prop :=
  (∃ path leaf, LeafAt tree path leaf ∧ ".".intercalate path = column ∧ IsLeafText leaf cell) ∨
    ((∀ path leaf, LeafAt tree path leaf → ".".intercalate path ≠ column) ∧ cell = "")

/-- Whether some tree has a leaf. -/
def HaveLeaf (trees : List Json) : Prop := ∃ tree ∈ trees, ∃ path leaf, LeafAt tree path leaf

/-- Whether the first record of a table is a header and the others hold the trees of a list. -/
structure IsTableOf (trees : List Json) (table : List (List String)) : Prop where
  /-- What names the columns are the leaves of the trees, in the order of each tree. -/
  leaves : ∀ tree ∈ trees, (∀ path leaf, (path, leaf) ∈ leaves tree ↔ LeafAt tree path leaf) ∧
    (leaves tree).Pairwise fun l l' => Precedes tree l.1 l'.1
  /-- Each column is there once, by first appearance. -/
  header : ListsFirsts (table.headD []) (trees.flatMap columns)
  /-- Each tree has one record, and each record one cell in every column. -/
  records : HaveLeaf trees →
    List.Forall₂ (fun tree record => List.Forall₂ (IsCell tree) (table.headD []) record)
      trees table.tail
  empty : ¬ HaveLeaf trees → table = []
  /-- No two leaves of a tree have the same column. -/
  apart : ∀ tree ∈ trees, (columns tree).Nodup

theorem isLeafText_cellText {leaf : Json} (scalar : leaf.IsScalar) :
    IsLeafText leaf (cellText leaf) := by
  cases leaf with
  | null => exact .null
  | bool b => exact .bool b
  | number n =>
    cases n with
    | int n => exact .int n
    | float x => exact .float x
  | string s => exact .string s
  | array | object => cases scalar

theorem names_cells (plain : tree.HasPlainKeys) : (cells tree).map (·.1) = columns tree := by
  rw [cells, columns, List.map_map]
  apply List.map_congr_left
  rintro ⟨path, leaf⟩ mem
  exact dotted_eq fun step inPath => ((mem_leaves_iff.mp mem).isPlainStep plain step inPath).1

theorem listsFirsts_header (plain : ∀ tree ∈ trees, tree.HasPlainKeys) :
    ListsFirsts (header (trees.map cells)) (trees.flatMap columns) := by
  have names : (trees.map cells).flatMap (·.map (·.1)) = trees.flatMap columns := by
    rw [List.flatMap_map]
    exact List.flatMap_congr fun tree mem => names_cells (plain tree mem)
  rw [header, names]
  simp only [List.contains_eq_any_beq]
  exact listsFirsts_foldl fun x _ y _ => beq_iff_eq

theorem isCell_record (plain : tree.HasPlainKeys) (header : List String) :
    List.Forall₂ (IsCell tree) header (record header (cells tree)) := by
  rw [record, List.forall₂_map_right_iff, List.forall₂_same]
  intro column _
  cases found : (cells tree).find? (·.1 == column) with
  | none =>
    refine .inr ⟨fun path leaf isLeaf same => ?_, rfl⟩
    have named : column ∈ (cells tree).map (·.1) := by
      rw [names_cells plain]
      exact mem_columns.mpr ⟨path, leaf, isLeaf, same⟩
    obtain ⟨cell, mem, rfl⟩ := List.mem_map.mp named
    exact absurd (beq_self_eq_true cell.1) (by simpa using List.find?_eq_none.mp found cell mem)
  | some cell =>
    obtain ⟨⟨path, leaf⟩, listed, rfl⟩ := List.mem_map.mp (List.mem_of_find?_eq_some found)
    have isLeaf := mem_leaves_iff.mp listed
    have named : dotted path = column := by simpa using List.find?_some found
    refine .inl ⟨path, leaf, isLeaf, ?_, isLeafText_cellText isLeaf.isScalar⟩
    rw [← named, dotted_eq fun step inPath => (isLeaf.isPlainStep plain step inPath).1]

theorem header_ne_nil_iff {names : List String}
    (first : ListsFirsts names (trees.flatMap columns)) : names ≠ [] ↔ HaveLeaf trees := by
  constructor
  · intro some
    obtain ⟨name, mem⟩ := List.exists_mem_of_ne_nil names some
    obtain ⟨tree, listed, named⟩ := List.mem_flatMap.mp ((first.mem_iff name).mp mem)
    obtain ⟨path, leaf, isLeaf, -⟩ := mem_columns.mp named
    exact ⟨tree, listed, path, leaf, isLeaf⟩
  · rintro ⟨tree, listed, path, leaf, isLeaf⟩
    have named := mem_columns.mpr ⟨path, leaf, isLeaf, rfl⟩
    exact List.ne_nil_of_mem ((first.mem_iff _).mpr (List.mem_flatMap.mpr ⟨tree, listed, named⟩))

theorem read?_text (plain : ∀ tree ∈ trees, tree.HasPlainKeys) :
    ∃ table, read? (text trees) = some table ∧ IsTableOf trees table := by
  have first := listsFirsts_header plain
  have leaves : ∀ tree ∈ trees,
      (∀ path leaf, (path, leaf) ∈ leaves tree ↔ LeafAt tree path leaf) ∧
        (leaves tree).Pairwise fun l l' => Precedes tree l.1 l'.1 :=
    fun tree _ => ⟨fun _ _ => mem_leaves_iff, pairwise_leaves tree⟩
  have apart : ∀ tree ∈ trees, (columns tree).Nodup :=
    fun tree mem => nodup_columns (plain tree mem)
  rw [text]
  generalize header (trees.map cells) = names at first
  have some := header_ne_nil_iff first
  split
  · next none =>
    obtain rfl := List.isEmpty_iff.mp none
    exact ⟨[], rfl, leaves, first, fun leaf => absurd rfl (some.mpr leaf), fun _ => rfl, apart⟩
  · next nonempty =>
    rw [List.isEmpty_iff] at nonempty
    refine ⟨names :: (trees.map cells).map (record names), ?_, leaves, first, fun _ => ?_,
      fun none => absurd (some.mp nonempty) none, apart⟩
    · have written : line names ++ String.join ((trees.map cells).map fun row =>
          line (record names row)) =
            String.join ((names :: (trees.map cells).map (record names)).map line) := by
        simp only [List.map_cons, String.join_cons, List.map_map, Function.comp_def]
      rw [written]
      apply read?_lines
      rw [List.forall_mem_cons]
      refine ⟨nonempty, List.forall_mem_map.mpr fun row _ blank => nonempty ?_⟩
      exact List.map_eq_nil_iff.mp blank
    · rw [List.tail_cons, List.forall₂_map_right_iff, List.forall₂_map_right_iff,
        List.forall₂_same]
      exact fun tree mem => isCell_record (plain tree mem) names

/-- The exported table of trees with plain keys is read back as their table, and every tree that
records are flattened to is an object with such keys. -/
theorem exportTrees_csv (plain : ∀ tree ∈ trees, tree.HasPlainKeys) :
    (∃ s table, exportTrees .csv trees = .ok s ∧ read? s = some table ∧ IsTableOf trees table) ∧
      ∀ source : Source, source.schema = .standard → ∀ e tree,
        Flatten.toTree source e = .ok tree → tree.IsPlainObject := by
  obtain ⟨table, read, holds⟩ := read?_text plain
  exact ⟨⟨text trees, table, rfl, read, holds⟩,
    fun _ standard _ _ shown => Flatten.isPlainObject_toTree standard shown⟩

/-- Trees of different shapes, one of them without leaves. -/
def mixedTrees : List Json :=
  [ .object [("a", .null), ("b", .array [.string "x,\"y\"", .object [("0", .bool true)]])],
    .object [],
    .object [("b", .object [("0", .int 7)]), ("a", .string "")] ]

theorem hasPlainKeys_mixedTrees : ∀ tree ∈ mixedTrees, tree.HasPlainKeys := by
  have scalar (tree : Json) (h : tree.IsScalar) := Json.hasPlainKeys_of_isScalar h
  have names : Json.IsPlainStep "a" ∧ Json.IsPlainStep "b" ∧ Json.IsPlainStep "0" := by decide
  simp only [mixedTrees, Json.int, Json.hasPlainKeys_object_iff, Json.hasPlainKeys_array_iff,
    List.forall_mem_cons, names, true_and]
  simp [scalar .null trivial, scalar (.bool true) trivial, scalar (.number (.int 7)) trivial,
    scalar (.string _) trivial]

/-- A directory by itself. -/
def loneDirectory : Entity := .directory ⟨1, "created", "updated", ⟨"19880101", "a/19880101"⟩⟩

theorem exportTrees_csv_mixedTrees :
    (∃ s table, exportTrees .csv mixedTrees = .ok s ∧ read? s = some table ∧
      IsTableOf mixedTrees table ∧
        table = [["a", "b.0", "b.1.0"], ["", "x,\"y\"", "true"], ["", "", ""], ["", "7", ""]]) ∧
      ∃ tree, Flatten.toTree Store.empty.source loneDirectory = .ok tree ∧
        tree.IsPlainObject := by
  obtain ⟨⟨s, table, exported, read, holds⟩, flattened⟩ := exportTrees_csv hasPlainKeys_mixedTrees
  constructor
  · refine ⟨s, table, exported, read, holds, ?_⟩
    have computed : read? (text mixedTrees) =
        some [["a", "b.0", "b.1.0"], ["", "x,\"y\"", "true"], ["", "", ""], ["", "7", ""]] := by
      decide +kernel
    cases exported
    rw [computed] at read
    exact (Option.some_inj.mp read).symm
  · have shown : (Flatten.toTree Store.empty.source loneDirectory).isOk = true := by
      decide +kernel
    cases result : Flatten.toTree Store.empty.source loneDirectory with
    | error e => simp [result, Except.isOk, Except.toBool] at shown
    | ok tree => exact ⟨tree, rfl, flattened _ rfl _ tree result⟩

end SceneArchive.Csv
