import SceneArchive.Proofs.Keys
import SceneArchive.Proofs.Results
import SceneArchive.Schema.Registry

/-!
# The checks of a registry

Each check goes through a list, keeps the names that it has met, and stops at the first fault. It
accepts a list exactly if every element is in order and none repeats a name met before.

* `checkDescriptors_eq_ok_iff`, `checkWiring_eq_ok_iff`, `checkSlots_eq_ok_iff`,
  `checkAcyclic_eq_ok_iff`: what each check accepts.
* `build_eq_ok_iff`: a registry is accepted if every check accepts it.
-/

namespace SceneArchive.Registry

open Keys (Fresh fresh_nil fresh_cons)

variable {r : Registry} {s : Schema} {d : Descriptor} {ds : List Descriptor}

/-! ## Declarations -/

theorem checkFields_eq_ok_iff {names : List String} {fields : List Field} :
    checkFields d names fields = .ok () ↔
      Fresh (·.name) names fields ∧ ∀ f ∈ fields, isReserved d f.name = false := by
  induction fields generalizing names with
  | nil => simp [checkFields, fresh_nil]
  | cons f fields ih =>
    unfold checkFields
    rw [fresh_cons, List.forall_mem_cons]
    by_cases reserved : isReserved d f.name = true
    · simp [reserved]
    · by_cases known : f.name ∈ names
      · simp [reserved, known]
      · simp [reserved, known, ih]

theorem checkDescriptors_eq_ok_iff {kinds : List Kind} :
    checkDescriptors kinds ds = .ok () ↔
      Fresh (·.kind) kinds ds ∧ ∀ d ∈ ds, checkFields d [] d.fields = .ok () := by
  induction ds generalizing kinds with
  | nil => simp [checkDescriptors, fresh_nil]
  | cons d ds ih =>
    unfold checkDescriptors
    rw [fresh_cons, List.forall_mem_cons]
    by_cases known : d.kind ∈ kinds
    · simp [known]
    · simp only [List.contains_eq_mem, known, decide_false, Bool.false_eq_true, if_false,
        Results.check_bind_eq_ok_iff, ih, not_false_iff, true_and]
      exact and_left_comm

/-! ## Wires -/

/-- Both ends of a wire are declared, and the child keeps a place for a parent. -/
def Connects (ds : List Descriptor) (wire : Wire) : Prop :=
  (∃ d ∈ ds, d.kind = wire.parent) ∧
    ∃ d, ds.find? (·.kind == wire.child) = some d ∧ d.slot.isSome = true

theorem checkWire_eq_ok_iff {wired : List Kind} {wire : Wire} :
    checkWire ds wired wire = .ok () ↔ wire.child ∉ wired ∧ Connects ds wire := by
  unfold checkWire Connects
  by_cases parent : ∃ d ∈ ds, d.kind = wire.parent
  · have declared : ds.any (·.kind == wire.parent) = true := by simpa using parent
    cases child : ds.find? (·.kind == wire.child) with
    | none => simp [declared]
    | some d =>
      cases slot : d.slot with
      | none => simp [declared, slot]
      | some _ => by_cases known : wire.child ∈ wired <;> simp [declared, slot, known, parent]
  · have undeclared : ds.any (·.kind == wire.parent) = false := by simpa using parent
    simp [undeclared, parent]

theorem checkWiring_eq_ok_iff {wired : List Kind} {wires : List Wire} :
    checkWiring ds wired wires = .ok () ↔
      Fresh (·.child) wired wires ∧ ∀ wire ∈ wires, Connects ds wire := by
  induction wires generalizing wired with
  | nil => simp [checkWiring, fresh_nil]
  | cons wire wires ih =>
    unfold checkWiring
    rw [Results.check_bind_eq_ok_iff, fresh_cons, List.forall_mem_cons, checkWire_eq_ok_iff, ih]
    exact and_and_and_comm

/-! ## Slots and cycles -/

theorem checkSlots_eq_ok_iff :
    checkSlots r ds = .ok () ↔
      ∀ d ∈ ds, d.slot.isSome = true → (r.parent? d.kind).isSome = true := by
  induction ds with
  | nil => simp [checkSlots]
  | cons d ds ih =>
    unfold checkSlots
    rw [List.forall_mem_cons]
    cases slot : d.slot with
    | none => simp [ih]
    | some _ => cases parent : r.parent? d.kind <;> simp [ih]

theorem checkAcyclic_eq_ok_iff {declarations : List Declaration} :
    checkAcyclic s declarations = .ok () ↔ ∀ d ∈ declarations, s.isCyclic d.kind = false := by
  induction declarations with
  | nil => simp [checkAcyclic]
  | cons d declarations ih =>
    unfold checkAcyclic
    rw [List.forall_mem_cons]
    cases cyclic : s.isCyclic d.kind <;> simp [ih]

theorem build_eq_ok_iff :
    r.build = .ok s ↔
      checkDescriptors [] r.descriptors = .ok () ∧ checkWiring r.descriptors [] r.wiring = .ok () ∧
        checkSlots r r.descriptors = .ok () ∧ checkAcyclic r.schema r.schema.entities = .ok () ∧
        r.schema = s := by
  unfold build
  simp only [Results.check_bind_eq_ok_iff, pure, Except.pure, Except.ok.injEq]

end SceneArchive.Registry
