import SceneArchive.Proofs.Json.Numbers
import SceneArchive.Proofs.Manifest.Readings

/-!
# What is decoded from a tree

A description that is decoded keeps what stands in its tree, so its numbers are in range if those of
the tree are. A number that has to be one becomes a finite double.

* `yields_members`: what is found for the members of a structure stands in the tree.
* `RawRecord.inRange_readings`, `AxisDescription.yields_readings`,
  `ProjectionDescription.yields_readings`, `GeoreferenceDescription.yields_readings`: the numbers of
  what a decoded description gives for its columns are in range.
-/

namespace SceneArchive

namespace Decode

variable {α : Type} {P : α → Prop} {found : Found} {name : String} {a default : α}
  {value : Json → Except DecodeError α}

/-- Whether what is decoded from a tree has a property, as far as the numbers of the tree are in
range. -/
def Yields (decode : Json → Except DecodeError α) (P : α → Prop) : Prop :=
  ∀ tree : Json, tree.InRange → ∀ a, decode tree = .ok a → P a

theorem yields_anything : Yields anything Json.InRange := by
  rintro tree inRange _ ⟨⟩
  exact inRange

theorem yields_number : Yields number fun x => Binary64.isFinite x = true := by
  intro tree inRange x h
  cases tree with
  | number n =>
    have this := Json.inRange_number_iff.mp inRange
    cases n with
    | int n =>
      obtain rfl := Except.ok.inj h
      exact Number.isFinite_ofInt this
    | float x =>
      obtain rfl := Except.ok.inj h
      exact this
  | _ => cases h

theorem yields_map : Yields map fun fields => ∀ m ∈ fields, m.2.InRange := by
  intro tree inRange fields h
  cases tree with
  | object fields =>
    obtain rfl := Except.ok.inj h
    exact Json.inRange_object_iff.mp inRange
  | _ => cases h

theorem Yields.list {item : Json → Except DecodeError α} (h : Yields item P) :
    Yields (list item) fun as => ∀ a ∈ as, P a := by
  intro tree inRange as decoded
  cases tree with
  | array items =>
    intro a mem
    obtain ⟨t, inside, decoded⟩ := Results.exists_of_mapM_eq_ok decoded mem
    exact h t (Json.inRange_array_iff.mp inRange t inside) a decoded
  | _ => cases decoded

/-! ## Members -/

theorem inRange_of_findMembers {members : List Member} {fields : Fields} {found' : Found}
    (all : ∀ m ∈ found, m.2.InRange) (inRange : ∀ m ∈ fields, m.2.InRange)
    (h : findMembers members found fields = .ok found') : ∀ m ∈ found', m.2.InRange := by
  induction fields generalizing found with
  | nil =>
    obtain rfl := Except.ok.inj h
    exact all
  | cons field rest ih =>
    obtain ⟨first, others⟩ := List.forall_mem_cons.mp inRange
    unfold findMembers at h
    split at h
    · exact ih all others h
    · split at h
      · cases h
      · obtain ⟨_, -, h⟩ := Results.bind_eq_ok_iff.mp h
        refine ih (List.forall_mem_cons.mpr ⟨?_, all⟩) others h
        exact first

theorem inRange_of_takeMembers {count index : Nat} {members : List Member} {items : List Json}
    (inRange : ∀ t ∈ items, t.InRange)
    (h : takeMembers name count index members items = .ok found) : ∀ m ∈ found, m.2.InRange := by
  induction members generalizing index items found with
  | nil =>
    obtain rfl := Except.ok.inj h
    exact List.forall_mem_nil _
  | cons member members ih =>
    cases items with
    | nil =>
      unfold takeMembers at h
      split at h
      · cases h
      · exact ih inRange h
    | cons tree trees =>
      obtain ⟨first, others⟩ := List.forall_mem_cons.mp inRange
      obtain ⟨_, -, h⟩ := Results.bind_eq_ok_iff.mp h
      obtain ⟨rest, taken, h⟩ := Results.bind_eq_ok_iff.mp h
      obtain rfl := Except.ok.inj h
      exact List.forall_mem_cons.mpr ⟨first, ih others taken⟩

/-- The members of a structure stand in its tree. -/
theorem yields_members (name : String) (ms : List Member) :
    Yields (members name ms) fun found => ∀ m ∈ found, m.2.InRange := by
  intro tree inRange found h
  cases tree with
  | object fields =>
    obtain ⟨found', searched, h⟩ := Results.bind_eq_ok_iff.mp h
    obtain ⟨_, -, h⟩ := Results.bind_eq_ok_iff.mp h
    obtain rfl := Except.ok.inj h
    exact inRange_of_findMembers (List.forall_mem_nil _)
      (Json.inRange_object_iff.mp inRange) searched
  | array items =>
    obtain ⟨found', taken, h⟩ := Results.bind_eq_ok_iff.mp h
    split at h
    · cases h
    · obtain rfl := Except.ok.inj h
      exact inRange_of_takeMembers (Json.inRange_array_iff.mp inRange) taken
  | _ => cases h

theorem yields_structure {name : String} {ms : List Member} {rest : Found → Except DecodeError α}
    (h : ∀ found : Found, (∀ m ∈ found, m.2.InRange) → ∀ a, rest found = .ok a → P a) :
    Yields (fun tree => members name ms tree >>= rest) P := by
  intro tree inRange a decoded
  obtain ⟨found, looked, decoded⟩ := Results.bind_eq_ok_iff.mp decoded
  exact h found (yields_members name ms tree inRange found looked) a decoded

theorem Yields.get (yields : Yields value P) (all : ∀ m ∈ found, m.2.InRange)
    (h : found.get name value = .ok a) : P a := by
  unfold Found.get at h
  split at h
  · next tree here => exact yields tree (all _ (List.mem_of_find?_eq_some here)) a h
  · cases h

theorem Yields.getD (yields : Yields value P) (all : ∀ m ∈ found, m.2.InRange) (other : P default)
    (h : found.getD name value default = .ok a) : P a := by
  unfold Found.getD at h
  split at h
  · next tree here => exact yields tree (all _ (List.mem_of_find?_eq_some here)) a h
  · obtain rfl := Except.ok.inj h
    exact other

end Decode

open Decode

theorem UnitDescription.yields_decode :
    Yields UnitDescription.decode fun d => d.conversionFactor.InRange := by
  refine yields_structure fun found all d h => ?_
  obtain ⟨_, -, h⟩ := Results.bind_eq_ok_iff.mp h
  obtain ⟨_, -, h⟩ := Results.bind_eq_ok_iff.mp h
  obtain ⟨factor, given, h⟩ := Results.bind_eq_ok_iff.mp h
  obtain rfl := Except.ok.inj h
  exact yields_anything.get all given

theorem AxisDescription.yields_decode :
    Yields AxisDescription.decode fun d => d.unit.conversionFactor.InRange := by
  refine yields_structure fun found all d h => ?_
  obtain ⟨_, -, h⟩ := Results.bind_eq_ok_iff.mp h
  obtain ⟨_, -, h⟩ := Results.bind_eq_ok_iff.mp h
  obtain ⟨_, -, h⟩ := Results.bind_eq_ok_iff.mp h
  obtain ⟨unit, given, h⟩ := Results.bind_eq_ok_iff.mp h
  obtain rfl := Except.ok.inj h
  exact UnitDescription.yields_decode.get all given

theorem CoordinateSystem.yields_decode :
    Yields CoordinateSystem.decode fun d => ∀ a ∈ d.axes, a.unit.conversionFactor.InRange := by
  refine yields_structure fun found all d h => ?_
  obtain ⟨_, -, h⟩ := Results.bind_eq_ok_iff.mp h
  obtain ⟨axes, given, h⟩ := Results.bind_eq_ok_iff.mp h
  obtain rfl := Except.ok.inj h
  exact AxisDescription.yields_decode.list.getD all (List.forall_mem_nil _) given

theorem AuthorityCode.yields_decode : Yields AuthorityCode.decode fun d => d.code.InRange := by
  refine yields_structure fun found all d h => ?_
  obtain ⟨_, -, h⟩ := Results.bind_eq_ok_iff.mp h
  obtain ⟨code, given, h⟩ := Results.bind_eq_ok_iff.mp h
  obtain rfl := Except.ok.inj h
  exact yields_anything.get all given

theorem Ellipsoid.yields_decode :
    Yields Ellipsoid.decode fun d => d.semiMajorAxis.InRange ∧ d.inverseFlattening.InRange := by
  refine yields_structure fun found all d h => ?_
  obtain ⟨_, -, h⟩ := Results.bind_eq_ok_iff.mp h
  obtain ⟨axis, axisGiven, h⟩ := Results.bind_eq_ok_iff.mp h
  obtain ⟨flattening, flatteningGiven, h⟩ := Results.bind_eq_ok_iff.mp h
  obtain rfl := Except.ok.inj h
  exact ⟨yields_anything.get all axisGiven, yields_anything.get all flatteningGiven⟩

theorem Datum.yields_decode :
    Yields Datum.decode fun d => (d.ellipsoid.semiMajorAxis.InRange ∧
      d.ellipsoid.inverseFlattening.InRange) ∧ d.identifier.code.InRange := by
  refine yields_structure fun found all d h => ?_
  obtain ⟨_, -, h⟩ := Results.bind_eq_ok_iff.mp h
  obtain ⟨_, -, h⟩ := Results.bind_eq_ok_iff.mp h
  obtain ⟨ellipsoid, ellipsoidGiven, h⟩ := Results.bind_eq_ok_iff.mp h
  obtain ⟨code, codeGiven, h⟩ := Results.bind_eq_ok_iff.mp h
  obtain rfl := Except.ok.inj h
  exact ⟨Ellipsoid.yields_decode.get all ellipsoidGiven,
    AuthorityCode.yields_decode.get all codeGiven⟩

/-! ## Readings -/

/-- Whether the numbers of what is given for a column are in range. -/
def Reading.InRange (r : Reading) : Prop := ∀ t ∈ r.raw, t.InRange

theorem Reading.inRange_listOf {kind : Kind} {given : List Json} (all : ∀ t ∈ given, t.InRange) :
    ∀ r ∈ listOf kind given, r.InRange := by
  rw [listOf]
  generalize Schema.standard.fieldsOf kind = fields
  induction given generalizing fields with
  | nil => simp
  | cons t given ih =>
    cases fields with
    | nil => simp
    | cons field fields =>
      obtain ⟨first, others⟩ := List.forall_mem_cons.mp all
      refine List.forall_mem_cons.mpr ⟨?_, ih others fields⟩
      rintro _ ⟨⟩
      exact first

open Json (inRange_string)

theorem RawRecord.inRange_readings {r : RawRecord} (all : ∀ m ∈ r, m.2.InRange) :
    ∀ x ∈ RawRecord.readings r, x.InRange := by
  intro x mem t given
  obtain ⟨field, -, rfl⟩ := List.mem_map.mp mem
  rcases NameMap.mem_insertAll (NameMap.mem_of_get? given) with mem | mem
  · obtain ⟨m, inside, same⟩ := List.mem_map.mp mem
    obtain rfl : m.2 = t := congrArg Prod.snd same
    exact all m inside
  · cases mem

theorem AxisDescription.inRange_readings {d : AxisDescription}
    (h : d.unit.conversionFactor.InRange) : ∀ r ∈ d.readings, r.InRange := by
  apply Reading.inRange_listOf
  simp [inRange_string, h]

theorem AxisDescription.yields_readings :
    Yields AxisDescription.decode fun d => ∀ r ∈ d.readings, r.InRange :=
  fun tree inRange d h => inRange_readings (yields_decode tree inRange d h)

theorem ProjectionDescription.yields_readings :
    Yields ProjectionDescription.decode fun d => ∀ r ∈ d.readings, r.InRange := by
  refine yields_structure fun found all d h => ?_
  obtain ⟨_, -, h⟩ := Results.bind_eq_ok_iff.mp h
  obtain ⟨_, -, h⟩ := Results.bind_eq_ok_iff.mp h
  obtain ⟨_, -, h⟩ := Results.bind_eq_ok_iff.mp h
  obtain ⟨datum, datumGiven, h⟩ := Results.bind_eq_ok_iff.mp h
  obtain ⟨system, systemGiven, h⟩ := Results.bind_eq_ok_iff.mp h
  obtain rfl := Except.ok.inj h
  obtain ⟨⟨axis, flattening⟩, code⟩ := Datum.yields_decode.get all datumGiven
  have axes := CoordinateSystem.yields_decode.get all systemGiven
  refine List.forall_mem_append.mpr ⟨Reading.inRange_listOf ?_, ?_⟩
  · simp [inRange_string, axis, flattening, code]
  · intro r mem
    obtain ⟨a, mem, inside⟩ := List.mem_flatMap.mp mem
    exact AxisDescription.inRange_readings (axes a mem) r inside

theorem GeoreferenceDescription.yields_readings :
    Yields GeoreferenceDescription.decode fun d => ∀ r ∈ d.readings, r.InRange := by
  refine yields_structure fun found all d h => ?_
  obtain ⟨_, -, h⟩ := Results.bind_eq_ok_iff.mp h
  obtain ⟨_, -, h⟩ := Results.bind_eq_ok_iff.mp h
  obtain ⟨x₁, given₁, h⟩ := Results.bind_eq_ok_iff.mp h
  obtain ⟨x₂, given₂, h⟩ := Results.bind_eq_ok_iff.mp h
  obtain ⟨x₃, given₃, h⟩ := Results.bind_eq_ok_iff.mp h
  obtain ⟨x₄, given₄, h⟩ := Results.bind_eq_ok_iff.mp h
  obtain ⟨x₅, given₅, h⟩ := Results.bind_eq_ok_iff.mp h
  obtain ⟨x₆, given₆, h⟩ := Results.bind_eq_ok_iff.mp h
  obtain rfl := Except.ok.inj h
  have finite {name : String} {x : Float} (given : found.get name number = .ok x) :
      (Json.number (.float x)).InRange :=
    Json.inRange_number_iff.mpr (yields_number.get all given)
  apply Reading.inRange_listOf
  simp [Placement.toList, GeoreferenceDescription.placement, inRange_string, finite given₁,
    finite given₂, finite given₃, finite given₄, finite given₅, finite given₆]

end SceneArchive
