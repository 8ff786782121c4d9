import SceneArchive.Proofs.Flatten.Parts

/-!
# Complete trees

On records that form a forest, the tree of a record shows every other record of its tree, each
once: the two guards cut exactly the links that lead back. Downwards, the only link back is the one
to the parent, whose kind is on the path. Upwards, the path holds the kinds from the record that
the traversal began with, and cuts the branch that it came from.

* `exists_expansion_below`, `exists_expansion_above`: the two directions.
* `toTree_complete`: the whole tree of a record.
-/

namespace SceneArchive

namespace Flatten

/-! ## The two directions -/

/-- Whether a path comes from above a kind: the parent of the kind is on it, and nothing below. -/
structure FromAbove (s : Schema) (path : List Kind) (kind : Kind) : Prop where
  parent : ∀ parent, s.Wired kind parent → parent ∈ path
  notBelow : ∀ k ∈ path, ¬ s.Below k kind

/-- Whether a path comes from below a kind: all of it is below, and it holds the parent of each of
its kinds but the last, which belongs to the kind itself. -/
structure FromBelow (s : Schema) (path : List Kind) (kind : Kind) : Prop where
  below : ∀ k ∈ path, s.Below k kind
  parents : ∀ k ∈ path, ∀ parent, s.Wired k parent → parent ∈ path ∨ parent = kind

section

variable {s : Schema} {path : List Kind} {kind child parent : Kind} (forest : s.IsForest)

include forest

theorem not_below_child (wired : s.Wired child kind) : ¬ s.Below kind child :=
  fun back => forest.acyclic child (Relation.TransGen.head wired back)

theorem ne_of_wired (wired : s.Wired child kind) : child ≠ kind := by
  rintro rfl
  exact forest.acyclic child wired.below

theorem FromAbove.child_not_mem (h : FromAbove s path kind) (wired : s.Wired child kind) :
    child ∉ kind :: path := by
  intro mem
  rcases List.mem_cons.mp mem with same | mem
  · exact ne_of_wired forest wired same
  · exact h.notBelow child mem wired.below

theorem FromAbove.step_down (h : FromAbove s path kind) (wired : s.Wired child kind) :
    FromAbove s (kind :: path) child where
  parent := fun _ wired' => wired.unique wired' ▸ List.mem_cons_self
  notBelow := by
    intro k mem below
    rcases List.mem_cons.mp mem with rfl | mem
    · exact not_below_child forest wired below
    · exact h.notBelow k mem (Relation.TransGen.tail below wired)

theorem FromBelow.parent_not_mem (h : FromBelow s path kind) (wired : s.Wired kind parent) :
    parent ∉ kind :: path := by
  intro mem
  rcases List.mem_cons.mp mem with same | mem
  · exact ne_of_wired forest wired same.symm
  · exact not_below_child forest wired (h.below parent mem)

omit forest in
theorem FromBelow.step_up (h : FromBelow s path kind) (wired : s.Wired kind parent) :
    FromBelow s (kind :: path) parent where
  below := by
    intro k mem
    rcases List.mem_cons.mp mem with rfl | mem
    · exact wired.below
    · exact Relation.TransGen.tail (h.below k mem) wired
  parents := by
    intro k mem p wired'
    rcases List.mem_cons.mp mem with rfl | mem
    · exact .inr (wired'.unique wired)
    · rcases h.parents k mem p wired' with onPath | rfl
      · exact .inl (List.mem_cons_of_mem _ onPath)
      · exact .inl List.mem_cons_self

/-- The path leads down from a kind to its children on other branches. -/
theorem FromBelow.turn_down (h : FromBelow s path kind) (wired : s.Wired child kind)
    (off : child ∉ kind :: path) : FromAbove s (kind :: path) child where
  parent := fun _ wired' => wired.unique wired' ▸ List.mem_cons_self
  notBelow := by
    intro k mem below
    rcases List.mem_cons.mp mem with rfl | mem
    · exact not_below_child forest wired below
    -- From the path one comes to the child only through the path, or through the kind itself.
    induction below using Relation.TransGen.head_induction_on with
    | single last =>
      rcases h.parents _ mem child last with onPath | same
      · exact off (List.mem_cons_of_mem _ onPath)
      · exact ne_of_wired forest wired same
    | head first rest ih =>
      rcases h.parents _ mem _ first with onPath | rfl
      · exact ih (List.mem_cons_of_mem _ onPath) onPath
      · exact not_below_child forest wired rest

/-- Of the children of a parent, the path holds only the one that it comes from. -/
theorem FromBelow.sibling_not_mem_iff (h : FromBelow s path kind) (wired : s.Wired kind parent)
    (wired' : s.Wired child parent) : child ∉ kind :: path ↔ child ≠ kind := by
  rw [List.mem_cons, not_or, and_iff_left_iff_imp]
  intro _ onPath
  rcases h.parents child onPath parent wired' with onPath' | same
  · exact h.parent_not_mem forest wired (List.mem_cons_of_mem _ onPath')
  · exact ne_of_wired forest wired same.symm

end

section

variable {s : Source} {e : Entity} {path : List Kind}

theorem Shown.Covers.congr {t : Shown} {R R' : Entity → Prop} (h : t.Covers R)
    (same : ∀ d, R d ↔ R' d) : t.Covers R' := by
  intro r
  rw [h r]
  simp only [same]

/-- Downwards, a record is shown with its descendants. -/
theorem exists_expansion_below (forest : s.schema.IsForest) (consistent : s.Consistent)
    (names : s.NamesApart) (held : s.Holds e) (fromAbove : FromAbove s.schema path e.kind) :
    ∃ t : Shown, t.record = e ∧ Expansion s path t ∧ t.Covers (s.Descends · e) := by
  induction same : e.kind using forest.induction_below generalizing e path with
  | step kind ih =>
    subst same
    obtain ⟨t, record, expansion, covers⟩ :=
      exists_expansion forest consistent names held path
        (fun p belongs off =>
          absurd (List.mem_cons_of_mem _ (fromAbove.parent p.kind belongs.wired)) off)
        (fun c belongs _ =>
          ih c.kind belongs.wired belongs.held (fromAbove.step_down forest belongs.wired) rfl)
    refine ⟨t, record, expansion, covers.congr ?_⟩
    intro d
    rw [Source.descends_iff]
    refine or_congr_right ⟨?_, ?_⟩
    · rintro (⟨p, belongs, off, -⟩ | ⟨c, belongs, -, below⟩)
      · exact absurd (List.mem_cons_of_mem _ (fromAbove.parent p.kind belongs.wired)) off
      · exact ⟨c, belongs, below⟩
    · rintro ⟨c, belongs, below⟩
      exact .inr ⟨c, belongs, fromAbove.child_not_mem forest belongs.wired, below⟩

/-- Upwards, a record is shown with what lies above it, and with the descendants of its children on
other branches than the one that the path came from. -/
theorem exists_expansion_above (forest : s.schema.IsForest) (consistent : s.Consistent)
    (names : s.NamesApart) (held : s.Holds e) (fromBelow : FromBelow s.schema path e.kind) :
    ∃ t : Shown, t.record = e ∧ Expansion s path t ∧ t.Covers fun d => d = e ∨ s.Above e d ∨
      ∃ c, s.BelongsTo c e ∧ c.kind ∉ path ∧ s.Descends d c := by
  induction same : e.kind using forest.induction_above generalizing e path with
  | step kind ih =>
    subst same
    have above : ∀ p, s.BelongsTo e p → p.kind ∉ e.kind :: path → ∃ t : Shown, t.record = p ∧
        Expansion s (e.kind :: path) t ∧ t.Covers (s.Above e) := by
      intro p belongs _
      obtain ⟨t, record, expansion, covers⟩ :=
        ih p.kind belongs.wired belongs.parentHeld (fromBelow.step_up belongs.wired) rfl
      refine ⟨t, record, expansion, covers.congr ?_⟩
      intro d
      rw [Source.above_iff belongs]
      refine or_congr_right (or_congr_right (exists_congr fun c => and_congr_right ?_))
      intro sibling
      rw [fromBelow.sibling_not_mem_iff forest belongs.wired sibling.wired]
    have below : ∀ c, s.BelongsTo c e → c.kind ∉ e.kind :: path → ∃ t : Shown, t.record = c ∧
        Expansion s (e.kind :: path) t ∧ t.Covers (s.Descends · c) := by
      intro c belongs off
      exact exists_expansion_below forest consistent names belongs.held
        (fromBelow.turn_down forest belongs.wired off)
    obtain ⟨t, record, expansion, covers⟩ :=
      exists_expansion forest consistent names held path above below
    refine ⟨t, record, expansion, covers.congr ?_⟩
    intro d
    refine or_congr_right (or_congr ⟨?_, ?_⟩ (exists_congr fun c => and_congr_right ?_))
    · rintro ⟨-, -, -, above⟩
      exact above
    · intro above
      by_contra none
      apply Source.not_above_of_no_parent _ above
      intro p belongs
      exact none ⟨p, belongs, fromBelow.parent_not_mem forest belongs.wired, above⟩
    · intro belongs
      rw [List.mem_cons, not_or, and_iff_right (ne_of_wired forest belongs.wired)]

end

end Flatten

/-! ## The tree of a record -/

/-- Under the standard schema, records are consistent if they have references of their own and
their parents are among them. -/
theorem Source.consistent_ofRecords_standard {records : List Entity}
    (distinct : (records.map (·.ref)).Nodup)
    (parents : ∀ e ∈ records, ∀ p, e.parent? = some p → p ∈ records.map (·.ref)) :
    (ofRecords .standard records).Consistent := by
  apply consistent_ofRecords distinct
  intro e mem relation related p named
  refine ⟨?_, parents e mem p named⟩
  have owners : ∀ kind : Kind, ∀ relation ∈ Schema.standard.parentOf kind,
      kind.owner? = some relation.parent := by
    decide +kernel
  have owner := owners e.kind relation related
  obtain ⟨kind, same, rest⟩ := Option.bind_eq_some_iff.mp named
  obtain ⟨id, -, rest⟩ := Option.bind_eq_some_iff.mp rest
  cases rest
  rw [owner] at same
  exact (Option.some.inj same).symm

theorem Source.namesApart_of_standard {s : Source} (standard : s.schema = .standard) :
    s.NamesApart := by
  intro e _ relation related
  rw [standard] at related
  exact Schema.namesApart_standard e relation related

namespace Flatten

/-- The tree of a record is complete and repeats nothing: on consistent records of a schema that
was built without faults, it shows the record, its descendants, its ancestors and their descendants
on other branches, each of them once, and holds no marker. -/
theorem toTree_complete {r : Registry} {s : Source} (built : r.build = .ok s.schema)
    (consistent : s.Consistent) (names : s.NamesApart) {e : Entity} (held : s.Holds e) :
    ∃ t : Shown, t.record = e ∧ toTree s e = .ok t.tree ∧
      (tree s e).run [] = (.ok t.tree, t.refs.reverse) ∧ Shows s [] t ∧
        (∀ r, ¬ (marker r).Within t.tree) ∧ t.refs.Nodup ∧
          t.Covers fun d => s.Descends d e ∨ s.Above e d := by
  have forest : s.schema.IsForest := Registry.isForest_of_build built
  have fromBelow : FromBelow s.schema [] e.kind := ⟨by simp, by simp⟩
  obtain ⟨t, rfl, expansion, covers⟩ :=
    exists_expansion_above forest consistent names held fromBelow
  have enough : unvisited s [] < s.refs.length + 2 :=
    Nat.lt_of_le_of_lt (unvisited_le_length s []) (by omega)
  have run : (tree s t.record).run [] = (.ok t.tree, t.refs.reverse) := by
    have run := expansion.runs [] (by simp) _ enough
    rwa [List.append_nil] at run
  refine ⟨t, rfl, ?_, run, expansion.shows, not_within_of_shows expansion.shows,
    expansion.distinct, covers.congr ?_⟩
  · rw [toTree, run]
  · intro d
    rw [Source.descends_iff, or_assoc]
    simp only [List.not_mem_nil, not_false_eq_true, true_and]
    exact or_congr_right or_comm

/-- A directory with two axes of its projection, seen from one of them. -/
theorem toTree_complete_axis :
    ∃ (s : Source) (e other : Entity), Registry.standard.build = .ok s.schema ∧ s.Consistent ∧
      s.NamesApart ∧ s.Holds e ∧ s.Holds other ∧ other.kind = e.kind ∧ other.parent? = e.parent? ∧
        ∃ t : Shown, t.record = e ∧ toTree s e = .ok t.tree ∧
          (tree s e).run [] = (.ok t.tree, t.refs.reverse) ∧ Shows s [] t ∧
            (∀ r, ¬ (marker r).Within t.tree) ∧ t.refs.Nodup ∧
              t.Covers fun d => s.Descends d e ∨ s.Above e d := by
  let directory : Entity := .directory
    { id := 1, created := "", updated := "", content := ⟨"19880101", "a"⟩ }
  let projection : Entity := .projection
    { id := 1, created := "", updated := ""
      content := ⟨1, "s", "ProjectedCRS", "UTM", "GeodeticReferenceFrame", "WGS 84", "WGS 84",
        6378137, 298.257223563, "EPSG", 6326, "Cartesian"⟩ }
  let axis (id : Int) (name : String) : Entity := .axis
    { id := id, created := "", updated := ""
      content := ⟨1, name, "E", "east", "LinearUnit", "metre", 1⟩ }
  let records : List Entity := [directory, projection, axis 1 "Easting", axis 2 "Northing"]
  let s : Source := .ofRecords .standard records
  have distinct : (records.map (·.ref)).Nodup := by decide
  have consistent : s.Consistent := by
    apply Source.consistent_ofRecords_standard distinct
    intro e mem p named
    simp only [records, List.mem_cons, List.not_mem_nil, or_false] at mem
    rcases mem with rfl | rfl | rfl | rfl <;> cases named <;> decide
  have names : s.NamesApart := Source.namesApart_of_standard rfl
  have held (e : Entity) (mem : e ∈ records) : s.Holds e :=
    (Source.holds_ofRecords_iff distinct).mpr mem
  refine ⟨s, axis 1 "Easting", axis 2 "Northing", Registry.build_standard, consistent, names,
    held _ (by simp [records]), held _ (by simp [records]), rfl, rfl, ?_⟩
  exact toTree_complete Registry.build_standard consistent names (held _ (by simp [records]))

end Flatten

end SceneArchive
