import Mathlib.Data.List.Chain
import SceneArchive.Proofs.Schema.Ancestry
import SceneArchive.Schema.Standard

/-!
# Sound registries

The registries that are accepted are those that are sound: names are told apart, every wire goes
from a place for a parent to a declared kind, every place has one wire, and no walk along the wires
comes back to where it was. The schema of a sound registry has the wires as its parents.

* `accepts_iff_isSound`: a registry is accepted if and only if it is sound; then every walk to the
  parents ends at a root.
-/

namespace SceneArchive

namespace Schema

variable {s : Schema} {kind : Kind}

/-- The kind that a number of steps to the parent leads to. -/
def climb (s : Schema) : Nat → Kind → Option Kind
  | 0, kind => some kind
  | steps + 1, kind => (s.parentOf kind).bind fun relation => s.climb steps relation.parent

theorem isChain_ancestors (s : Schema) (steps : Nat) (kind : Kind) :
    (kind :: s.ancestors steps kind).IsChain s.Wired := by
  induction steps generalizing kind with
  | zero => exact List.isChain_singleton kind
  | succ steps ih =>
    rw [ancestors]
    cases related : s.parentOf kind with
    | none => exact List.isChain_singleton kind
    | some relation =>
      exact List.isChain_cons_cons.mpr ⟨⟨relation, related, rfl⟩, ih relation.parent⟩

theorem exists_wired_of_mem_ancestors {steps : Nat} {x : Kind}
    (mem : x ∈ s.ancestors steps kind) : ∃ child, s.Wired child x := by
  induction steps generalizing kind with
  | zero => cases mem
  | succ steps ih =>
    rw [ancestors] at mem
    cases related : s.parentOf kind with
    | none => simp [related] at mem
    | some relation =>
      rw [related] at mem
      rcases List.mem_cons.mp mem with rfl | mem
      · exact ⟨kind, relation, related, rfl⟩
      · exact ih mem

/-- A walk that is shorter than it might be ends at a root. -/
theorem exists_climb (s : Schema) (steps : Nat) (kind : Kind) :
    ∃ top, s.climb (s.ancestors steps kind).length kind = some top ∧
      ((s.ancestors steps kind).length < steps → s.parentOf top = none) := by
  induction steps generalizing kind with
  | zero => exact ⟨kind, rfl, fun short => absurd short (Nat.lt_irrefl 0)⟩
  | succ steps ih =>
    rw [ancestors]
    cases related : s.parentOf kind with
    | none => exact ⟨kind, rfl, fun _ => related⟩
    | some relation =>
      obtain ⟨top, climbed, root⟩ := ih relation.parent
      refine ⟨top, ?_, fun short => root (Nat.lt_of_succ_lt_succ short)⟩
      rw [List.length_cons, climb, related, Option.bind_some, climbed]

theorem IsForest.nodup_of_isChain (h : s.IsForest) {walk : List Kind}
    (chain : walk.IsChain s.Wired) : walk.Nodup := by
  have : IsTrans Kind s.Below := ⟨fun _ _ _ => Relation.TransGen.trans⟩
  have below : walk.IsChain s.Below := chain.imp fun _ _ wired => wired.below
  refine below.pairwise.imp ?_
  rintro lower upper between rfl
  exact h.acyclic lower between

/-- Where the parents of a forest are declared, every walk to the parents ends at a root before it
has met as many kinds as there are. -/
theorem IsForest.exists_root (h : s.IsForest)
    (closed : ∀ child parent, s.Wired child parent → parent ∈ s.entities.map (·.kind))
    (declared : kind ∈ s.entities.map (·.kind)) :
    ∃ steps root, s.climb steps kind = some root ∧ s.parentOf root = none ∧
      steps < s.entities.length := by
  -- The kinds met are distinct and declared, so the walk cannot use all the steps it may take.
  have chain := s.isChain_ancestors s.entities.length kind
  have met : kind :: s.ancestors s.entities.length kind ⊆ s.entities.map (·.kind) := by
    intro x mem
    rcases List.mem_cons.mp mem with rfl | mem
    · exact declared
    · obtain ⟨child, wired⟩ := exists_wired_of_mem_ancestors mem
      exact closed child x wired
  have short := (List.subperm_of_subset (h.nodup_of_isChain chain) met).length_le
  rw [List.length_cons, List.length_map] at short
  obtain ⟨root, climbed, ends⟩ := s.exists_climb s.entities.length kind
  exact ⟨_, root, climbed, ends short, short⟩

end Schema

/-- The fields of a declaration have distinct names, which neither the times nor the relationship
have. -/
structure Declaration.IsNamed (d : Declaration) : Prop where
  distinct : (d.fields.map (·.name)).Nodup
  unreserved : ∀ f ∈ d.fields, f.name ∉ auditColumns ∧
    ∀ relation, d.relation = some relation →
      f.name ≠ relation.slot.field ∧ f.name ≠ relation.slot.column

namespace Registry

/-! ## Soundness -/

/-- A walk along the wires, from a child to its parent and on. -/
def IsWalk (r : Registry) (walk : List Kind) : Prop :=
  walk.IsChain fun child parent => ⟨child, parent⟩ ∈ r.wiring

/-- What a registry has to be like. -/
structure IsSound (r : Registry) : Prop where
  kinds : (r.descriptors.map (·.kind)).Nodup
  fields : ∀ d ∈ r.descriptors, (d.fields.map (·.name)).Nodup
  names : ∀ d ∈ r.descriptors, ∀ f ∈ d.fields,
    f.name ∉ ["id", "created_at", "updated_at"] ∧
      ∀ slot, d.slot = some slot → f.name ≠ slot.field ∧ f.name ≠ slot.column
  parents : ∀ wire ∈ r.wiring, ∃ d ∈ r.descriptors, d.kind = wire.parent
  children : ∀ wire ∈ r.wiring, ∃ d ∈ r.descriptors, d.kind = wire.child ∧ d.slot.isSome = true
  wired : ∀ d ∈ r.descriptors, d.slot.isSome = true →
    (r.wiring.map (·.child)).count d.kind = 1
  acyclic : ∀ walk, r.IsWalk walk → walk.Nodup

variable {r : Registry}

theorem isReserved_eq_false_iff {d : Descriptor} {name : String} :
    isReserved d name = false ↔ name ∉ ["id", "created_at", "updated_at"] ∧
      ∀ slot, d.slot = some slot → name ≠ slot.field ∧ name ≠ slot.column := by
  cases slot : d.slot <;> simp [isReserved, auditColumns, slot, @eq_comm _ _ name]

theorem connects_iff (kinds : (r.descriptors.map (·.kind)).Nodup) {wire : Wire} :
    Connects r.descriptors wire ↔ (∃ d ∈ r.descriptors, d.kind = wire.parent) ∧
      ∃ d ∈ r.descriptors, d.kind = wire.child ∧ d.slot.isSome = true := by
  simp only [Connects, Keys.find?_eq_some_iff kinds, and_assoc]

/-- No child has two wires if every place for a parent has one, and every child keeps a place. -/
theorem IsSound.nodup_children (h : r.IsSound) : (r.wiring.map (·.child)).Nodup := by
  rw [List.nodup_iff_count_le_one]
  intro kind
  by_cases isChild : kind ∈ r.wiring.map (·.child)
  · obtain ⟨wire, mem, rfl⟩ := List.mem_map.mp isChild
    obtain ⟨d, declared, same, place⟩ := h.children wire mem
    rw [← same, h.wired d declared place]
  · rw [List.count_eq_zero.mpr isChild]
    exact Nat.zero_le 1

/-! ## The schema of a registry -/

theorem parent?_eq_some_iff (distinct : (r.wiring.map (·.child)).Nodup) {child parent : Kind} :
    r.parent? child = some parent ↔ ⟨child, parent⟩ ∈ r.wiring := by
  rw [parent?, Option.map_eq_some_iff]
  simp only [Keys.find?_eq_some_iff distinct]
  constructor
  · rintro ⟨wire, ⟨mem, rfl⟩, rfl⟩
    exact mem
  · intro mem
    exact ⟨_, ⟨mem, rfl⟩, rfl⟩

theorem kinds_schema (r : Registry) :
    r.schema.entities.map (·.kind) = r.descriptors.map (·.kind) := by
  simp [schema, Function.comp_def]

section Parents

variable (kinds : (r.descriptors.map (·.kind)).Nodup)
  (distinct : (r.wiring.map (·.child)).Nodup)

include kinds distinct

theorem parentOf_schema_eq_some_iff {child : Kind} {relation : Relation} :
    r.schema.parentOf child = some relation ↔ ⟨child, relation.parent⟩ ∈ r.wiring ∧
      ∃ d ∈ r.descriptors, d.kind = child ∧ d.slot = some relation.slot := by
  have unfolded : r.schema.parentOf child =
      (r.descriptors.find? (·.kind == child)).bind fun d => d.slot.bind fun slot =>
        (r.parent? d.kind).map (Relation.mk slot) := by
    rw [Schema.parentOf, Schema.declaration?, schema, List.find?_map, Option.bind_map]
    rfl
  rw [unfolded]
  simp only [Option.bind_eq_some_iff, Option.map_eq_some_iff, Keys.find?_eq_some_iff kinds,
    parent?_eq_some_iff distinct]
  constructor
  · rintro ⟨d, ⟨mem, rfl⟩, slot, place, parent, wire, rfl⟩
    exact ⟨wire, d, mem, rfl, place⟩
  · rintro ⟨wire, d, mem, rfl, place⟩
    exact ⟨d, ⟨mem, rfl⟩, relation.slot, place, relation.parent, wire, rfl⟩

theorem wired_schema_iff
    (children : ∀ wire ∈ r.wiring, ∃ d ∈ r.descriptors,
      d.kind = wire.child ∧ d.slot.isSome = true) {child parent : Kind} :
    r.schema.Wired child parent ↔ ⟨child, parent⟩ ∈ r.wiring := by
  simp only [Schema.Wired, parentOf_schema_eq_some_iff kinds distinct]
  constructor
  · rintro ⟨relation, ⟨wire, -⟩, rfl⟩
    exact wire
  · intro wire
    obtain ⟨d, mem, same, place⟩ := children _ wire
    obtain ⟨slot, place⟩ := Option.isSome_iff_exists.mp place
    exact ⟨⟨slot, parent⟩, ⟨wire, d, mem, same, place⟩, rfl⟩

end Parents

theorem IsSound.wired_iff (h : r.IsSound) {child parent : Kind} :
    r.schema.Wired child parent ↔ ⟨child, parent⟩ ∈ r.wiring :=
  wired_schema_iff h.kinds h.nodup_children h.children

theorem IsSound.mem_kinds_of_wired (h : r.IsSound) {child parent : Kind}
    (wired : r.schema.Wired child parent) : parent ∈ r.schema.entities.map (·.kind) := by
  obtain ⟨d, mem, same⟩ := h.parents _ (h.wired_iff.mp wired)
  rw [kinds_schema]
  exact List.mem_map.mpr ⟨d, mem, same⟩

/-- What a registry declares is found in its schema as it was declared. -/
theorem exists_descriptor {d : Declaration} (mem : d ∈ r.schema.entities) :
    ∃ own ∈ r.descriptors, d.kind = own.kind ∧ d.fields = own.fields ∧
      ∀ relation, d.relation = some relation → own.slot = some relation.slot := by
  obtain ⟨own, declared, rfl⟩ := List.mem_map.mp mem
  refine ⟨own, declared, rfl, rfl, fun relation related => ?_⟩
  obtain ⟨slot, place, wired⟩ := Option.bind_eq_some_iff.mp related
  obtain ⟨parent, -, rfl⟩ := Option.map_eq_some_iff.mp wired
  exact place

/-! ## Acceptance -/

theorem isSound_of_build {s : Schema} (h : r.build = .ok s) : r.IsSound := by
  have forest := isForest_of_build h
  obtain ⟨descriptors, wiring, slots, -, rfl⟩ := build_eq_ok_iff.mp h
  obtain ⟨kinds, fields⟩ := checkDescriptors_eq_ok_iff.mp descriptors
  obtain ⟨distinct, connects⟩ := checkWiring_eq_ok_iff.mp wiring
  rw [Keys.fresh_behind_nothing] at kinds distinct
  have ends := fun wire mem => (connects_iff kinds).mp (connects wire mem)
  have children := fun wire mem => (ends wire mem).2
  refine ⟨kinds, fun d mem => ?_, fun d mem f inside => ?_, fun wire mem => (ends wire mem).1,
    children, fun d mem place => ?_, fun walk along => ?_⟩
  · exact (checkFields_eq_ok_iff.mp (fields d mem)).1.1
  · exact isReserved_eq_false_iff.mp ((checkFields_eq_ok_iff.mp (fields d mem)).2 f inside)
  · obtain ⟨parent, found⟩ := Option.isSome_iff_exists.mp
      (checkSlots_eq_ok_iff.mp slots d mem place)
    have wire := (parent?_eq_some_iff distinct).mp found
    exact List.count_eq_one_of_mem distinct (List.mem_map_of_mem wire)
  · refine forest.nodup_of_isChain (along.imp fun child parent wire => ?_)
    exact (wired_schema_iff kinds distinct children).mpr wire

theorem IsSound.build_eq_ok (h : r.IsSound) : r.build = .ok r.schema := by
  rw [build_eq_ok_iff, checkDescriptors_eq_ok_iff, checkWiring_eq_ok_iff, checkSlots_eq_ok_iff,
    checkAcyclic_eq_ok_iff, Keys.fresh_behind_nothing, Keys.fresh_behind_nothing]
  refine ⟨⟨h.kinds, fun d mem => ?_⟩, ⟨h.nodup_children, fun wire mem => ?_⟩, fun d mem place => ?_,
    fun d mem => ?_, rfl⟩
  · rw [checkFields_eq_ok_iff, Keys.fresh_behind_nothing]
    exact ⟨h.fields d mem, fun f inside => isReserved_eq_false_iff.mpr (h.names d mem f inside)⟩
  · exact (connects_iff h.kinds).mpr ⟨h.parents wire mem, h.children wire mem⟩
  · have child : d.kind ∈ r.wiring.map (·.child) := by
      rw [← List.count_pos_iff, h.wired d mem place]
      exact Nat.one_pos
    obtain ⟨wire, mem, same⟩ := List.mem_map.mp child
    rw [Option.isSome_iff_exists]
    exact ⟨wire.parent, (parent?_eq_some_iff h.nodup_children).mpr (same ▸ mem)⟩
  · have chain := r.schema.isChain_ancestors (r.schema.entities.length + 1) d.kind
    have distinct := h.acyclic _ (chain.imp fun child parent wired => h.wired_iff.mp wired)
    rw [Schema.isCyclic, decide_eq_true distinct]
    rfl

/-- The fields of an accepted declaration have distinct names, which nothing else has. -/
theorem isNamed_of_build {s : Schema} (h : r.build = .ok s) {d : Declaration}
    (mem : d ∈ s.entities) : d.IsNamed := by
  have sound := isSound_of_build h
  obtain ⟨-, -, -, -, rfl⟩ := build_eq_ok_iff.mp h
  obtain ⟨own, declared, -, fields, related⟩ := exists_descriptor mem
  constructor
  · rw [fields]
    exact sound.fields own declared
  · intro f inside
    obtain ⟨noAudit, noSlot⟩ := sound.names own declared f (fields ▸ inside)
    exact ⟨noAudit, fun relation relates => noSlot relation.slot (related relation relates)⟩

/-- A registry is accepted if and only if it is sound. Its schema then has the wires as parents,
and from every kind the parents lead to a root in fewer steps than there are kinds. -/
theorem accepts_iff_isSound (r : Registry) :
    ((∃ s, r.build = .ok s) ↔ r.IsSound) ∧
      ∀ s, r.build = .ok s →
        (∀ child relation, s.parentOf child = some relation ↔
          ⟨child, relation.parent⟩ ∈ r.wiring ∧
            ∃ d ∈ r.descriptors, d.kind = child ∧ d.slot = some relation.slot) ∧
        ∀ kind, ∃ steps root, s.climb steps kind = some root ∧ s.parentOf root = none ∧
          steps < Kind.all.length ∧
            (kind ∈ r.descriptors.map (·.kind) → steps < r.descriptors.length) := by
  refine ⟨⟨fun ⟨s, h⟩ => isSound_of_build h, fun h => ⟨_, h.build_eq_ok⟩⟩, ?_⟩
  intro s h
  have sound := isSound_of_build h
  have forest := isForest_of_build h
  obtain ⟨-, -, -, -, rfl⟩ := build_eq_ok_iff.mp h
  refine ⟨fun child relation => parentOf_schema_eq_some_iff sound.kinds sound.nodup_children,
    fun kind => ?_⟩
  by_cases declared : kind ∈ r.descriptors.map (·.kind)
  · obtain ⟨steps, root, climbed, ends, fewer⟩ := forest.exists_root
      (fun _ _ wired => sound.mem_kinds_of_wired wired) ((kinds_schema r).symm ▸ declared)
    -- Distinct kinds are as many as there are at most.
    have all := (List.subperm_of_subset sound.kinds fun kind _ => Kind.mem_all kind).length_le
    have length : r.schema.entities.length = r.descriptors.length := List.length_map _
    rw [List.length_map] at all
    exact ⟨steps, root, climbed, ends, by omega, fun _ => by omega⟩
  · refine ⟨0, kind, rfl, ?_, by decide, fun mem => absurd mem declared⟩
    rw [Option.eq_none_iff_forall_ne_some]
    intro relation related
    obtain ⟨-, d, mem, same, -⟩ :=
      (parentOf_schema_eq_some_iff sound.kinds sound.nodup_children).mp related
    exact declared (List.mem_map.mpr ⟨d, mem, same⟩)

theorem accepts_iff_isSound_standard :
    standard.build = .ok .standard ∧ standard.IsSound ∧
      Schema.standard.parentOf .axisEntry =
        some ⟨⟨"projection", "projection_id", false⟩, .projectionDefinition⟩ ∧
      ∃ steps root, Schema.standard.climb steps .axisEntry = some root ∧
        Schema.standard.parentOf root = none ∧ steps < 5 := by
  obtain ⟨accepts, schema⟩ := accepts_iff_isSound standard
  obtain ⟨parents, roots⟩ := schema .standard build_standard
  refine ⟨build_standard, accepts.mp ⟨_, build_standard⟩, ?_, ?_⟩
  · exact (parents .axisEntry _).mpr ⟨by decide, by decide +kernel⟩
  · obtain ⟨steps, root, climbed, ends, fewer, -⟩ := roots .axisEntry
    exact ⟨steps, root, climbed, ends, fewer⟩

end Registry

end SceneArchive
