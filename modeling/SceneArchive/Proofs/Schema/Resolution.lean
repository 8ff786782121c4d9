import SceneArchive.Proofs.Query.TypedValues
import SceneArchive.Proofs.Schema.Acceptance

/-!
# Names of declared fields

Where the fields of an accepted schema have identifiers for names, a point in a name tells that the
name is a qualified one. So the two sorts of names do not get in each other's way, and every field
has one name under which it is listed and found.

* `get?_searchable_eq_some_iff`: the one name under which a field is listed.
* `isComplete_of_build`: what every name stands for.
-/

namespace SceneArchive

theorem Resolution.exists_ofFields? {f : FieldSpec} {fields : List FieldSpec} (mem : f ∈ fields) :
    ∃ resolution, ofFields? fields = some resolution := by
  rcases fields with _ | ⟨first, _ | ⟨second, rest⟩⟩
  · cases mem
  · exact ⟨_, rfl⟩
  · exact ⟨_, rfl⟩

namespace Catalog

variable {c : Catalog} {name : String} {f g : FieldSpec}

/-! ## Names without a kind -/

theorem resolve_of_no_point (bare : '.' ∉ name.toList) : c.resolve name = c.resolveBare name := by
  have cut : splitAtPoint name = none := by rw [splitAtPoint, Text.span_absent bare]
  rw [resolve, cut]

theorem mem_named : f ∈ c.named name ↔ f ∈ c.fields ∧ f.name = name := by
  simp [named]

/-- A name stands for a field if this field alone has the name. -/
theorem resolveBare_eq_ok_iff : c.resolveBare name = .ok f ↔ c.named name = [f] := by
  rw [resolveBare_eq]
  rcases c.named name with _ | ⟨first, _ | ⟨second, rest⟩⟩ <;> simp

theorem resolveBare_eq_ambiguous_iff {other : String} {candidates : List String} :
    c.resolveBare name = .error (.ambiguousField other candidates) ↔
      other = name ∧ 2 ≤ (c.named name).length ∧
        candidates = (c.named name).map (·.qualifiedName) := by
  rw [resolveBare_eq]
  rcases c.named name with _ | ⟨first, _ | ⟨second, rest⟩⟩
  · simp
  · simp
  · simp [eq_comm]

theorem resolveBare_eq_unknown_iff {other : String} :
    c.resolveBare name = .error (.unknownField other) ↔ other = name ∧ c.named name = [] := by
  rw [resolveBare_eq]
  rcases c.named name with _ | ⟨first, _ | ⟨second, rest⟩⟩ <;> simp [eq_comm]

/-! ## The list of searchable fields -/

/-- The name under which a field is listed. -/
def key (c : Catalog) (f : FieldSpec) : String :=
  if (c.named f.name).length = 1 then f.name else f.qualifiedName

theorem mem_entries_iff {key : String} {fields : List FieldSpec} {resolution : Resolution}
    (h : Resolution.ofFields? fields = some resolution) :
    (key, f) ∈ resolution.entries name ↔
      f ∈ fields ∧ key = if fields.length = 1 then name else f.qualifiedName := by
  rcases fields with _ | ⟨first, _ | ⟨second, rest⟩⟩
  · cases h
  · cases h
    simp [Resolution.entries, and_comm]
  · cases h
    rw [if_neg (by simp), Resolution.entries, List.mem_map]
    constructor
    · rintro ⟨g, mem, same⟩
      cases same
      exact ⟨mem, rfl⟩
    · rintro ⟨mem, rfl⟩
      exact ⟨f, mem, rfl⟩

/-- Every field is entered under its own name or under its qualified name, and nothing else is. -/
theorem mem_listed_iff {key : String} :
    (key, f) ∈ c.bare.flatMap (fun (name, resolution) => resolution.entries name) ↔
      f ∈ c.fields ∧ key = c.key f := by
  rw [List.mem_flatMap]
  constructor
  · rintro ⟨⟨name, resolution⟩, mem, entry⟩
    rw [← NameMap.get?_eq_some_iff c.increasing_bare, get?_bare] at mem
    obtain ⟨named, rfl⟩ := (mem_entries_iff mem).mp entry
    obtain ⟨declared, rfl⟩ := mem_named.mp named
    exact ⟨declared, rfl⟩
  · rintro ⟨declared, rfl⟩
    have named : f ∈ c.named f.name := mem_named.mpr ⟨declared, rfl⟩
    obtain ⟨resolution, stands⟩ := Resolution.exists_ofFields? named
    refine ⟨(f.name, resolution), ?_, (mem_entries_iff stands).mpr ⟨named, rfl⟩⟩
    rwa [← NameMap.get?_eq_some_iff c.increasing_bare, get?_bare]

section Distinct

variable (writable : c.IsWritable) (distinct : c.IsDistinct)

theorem point_mem_qualifiedName (f : FieldSpec) : '.' ∈ f.qualifiedName.toList := by
  simp [FieldSpec.qualifiedName]

include writable in
theorem point_not_mem_name (declared : f ∈ c.fields) : '.' ∉ f.name.toList := by
  intro mem
  cases Query.isIdentifierChar_of_mem (writable f declared) mem

include distinct in
theorem eq_of_qualifiedName (hf : f ∈ c.fields) (hg : g ∈ c.fields)
    (same : f.qualifiedName = g.qualifiedName) : f = g :=
  List.inj_on_of_nodup_map distinct hf hg same

include writable distinct

/-- No two fields are listed under the same name. -/
theorem eq_of_key (hf : f ∈ c.fields) (hg : g ∈ c.fields) (same : c.key f = c.key g) : f = g := by
  unfold key at same
  split at same
  · next single =>
    split at same
    · -- Both are listed under their own name, which the first one alone has.
      obtain ⟨only, alone⟩ := List.length_eq_one_iff.mp single
      have first : f ∈ c.named f.name := mem_named.mpr ⟨hf, rfl⟩
      have second : g ∈ c.named f.name := mem_named.mpr ⟨hg, same.symm⟩
      rw [alone, List.mem_singleton] at first second
      exact first.trans second.symm
    · exact absurd (same ▸ point_mem_qualifiedName g) (point_not_mem_name writable hf)
  · split at same
    · exact absurd (same ▸ point_mem_qualifiedName f) (point_not_mem_name writable hg)
    · exact eq_of_qualifiedName distinct hf hg same

theorem get?_searchable_eq_some_iff {key : String} :
    NameMap.get? c.searchable key = some f ↔ f ∈ c.fields ∧ key = c.key f := by
  rw [← mem_listed_iff]
  constructor
  · intro found
    exact (NameMap.mem_insertAll (NameMap.mem_of_get? found)).resolve_right List.not_mem_nil
  · intro listed
    refine NameMap.get?_insertAll_of_mem (fun g other => ?_) listed
    obtain ⟨hf, rfl⟩ := mem_listed_iff.mp listed
    obtain ⟨hg, same⟩ := mem_listed_iff.mp other
    exact (eq_of_key writable distinct hf hg same).symm

theorem resolve_key (declared : f ∈ c.fields) : c.resolve (c.key f) = .ok f := by
  unfold key
  split
  · next single =>
    obtain ⟨only, alone⟩ := List.length_eq_one_iff.mp single
    have mem : f ∈ c.named f.name := mem_named.mpr ⟨declared, rfl⟩
    rw [alone, List.mem_singleton] at mem
    rw [resolve_of_no_point (point_not_mem_name writable declared), resolveBare_eq_ok_iff, alone,
      mem]
  · exact resolve_qualifiedName distinct declared

end Distinct

end Catalog

/-! ## Declared fields -/

/-- A field of a declaration, with its kind. -/
def Declaration.spec (d : Declaration) (f : Field) : FieldSpec := ⟨d.kind, f.name, f.type⟩

namespace Schema

/-- Whether a kind declares a field. -/
def Declares (s : Schema) (f : FieldSpec) : Prop :=
  ∃ d ∈ s.entities, ∃ field ∈ d.fields, d.spec field = f

/-- The kinds that declare a field of a name, in declared order. -/
def declaring (s : Schema) (name : String) : List Kind :=
  (s.entities.filter fun d => (d.field? name).isSome).map (·.kind)

end Schema

theorem FieldSpec.qualifiedName_inj {f g : FieldSpec} (same : f.qualifiedName = g.qualifiedName) :
    f.kind = g.kind ∧ f.name = g.name := by
  have cut := congrArg splitAtPoint same
  rw [Catalog.splitAtPoint_qualifiedName, Catalog.splitAtPoint_qualifiedName, Option.some.injEq,
    Prod.mk.injEq] at cut
  exact ⟨Kind.name_injective cut.1, cut.2⟩

namespace Catalog

section Named

variable {s : Schema} (named : ∀ d ∈ s.entities, d.IsNamed)

include named

/-- Every declared field may be searched. -/
theorem fields_ofSchema :
    (ofSchema s).fields = s.entities.flatMap fun d => d.fields.map d.spec := by
  refine List.flatMap_congr fun d mem => ?_
  have all : d.fields.filter (isSearchable d) = d.fields := by
    refine List.filter_eq_self.mpr fun f inside => ?_
    obtain ⟨noAudit, noSlot⟩ := (named d mem).unreserved f inside
    cases related : d.relation with
    | none => simpa [isSearchable, related] using noAudit
    | some relation =>
      obtain ⟨noField, noColumn⟩ := noSlot relation related
      simp [isSearchable, related, noAudit, noField.symm, noColumn.symm]
  rw [all]
  rfl

theorem mem_fields_ofSchema {f : FieldSpec} : f ∈ (ofSchema s).fields ↔ s.Declares f := by
  simp [fields_ofSchema named, Schema.Declares]

theorem kinds_named (name : String) :
    ((ofSchema s).named name).map (·.kind) = s.declaring name := by
  rw [Catalog.named, fields_ofSchema named, List.filter_flatMap, List.map_flatMap, Schema.declaring]
  generalize s.entities = ds at named
  induction ds with
  | nil => rfl
  | cons d ds ih =>
    obtain ⟨first, rest⟩ := List.forall_mem_cons.mp named
    -- A declaration adds one field of the name, or none.
    have own : (d.fields.map d.spec).filter (·.name == name) =
        ((d.field? name).map d.spec).toList := by
      rw [List.filter_map, Declaration.field?, Option.toList_map,
        ← Keys.filter_eq_toList first.distinct]
      rfl
    rw [List.flatMap_cons, ih rest, own]
    cases found : d.field? name <;> simp [found, Declaration.spec]

theorem isDistinct_ofSchema (kinds : (s.entities.map (·.kind)).Nodup) :
    (ofSchema s).IsDistinct := by
  rw [IsDistinct, fields_ofSchema named, List.map_flatMap, List.nodup_flatMap]
  constructor
  · intro d mem
    have fields := (named d mem).distinct
    rw [List.map_map]
    refine List.Nodup.map_on (fun f hf g hg same => ?_) fields.of_map
    exact List.inj_on_of_nodup_map fields hf hg (FieldSpec.qualifiedName_inj same).2
  · refine (List.pairwise_map.mp kinds).imp fun {d e} other => ?_
    intro name inD inE
    obtain ⟨f, hf, rfl⟩ := List.mem_map.mp inD
    obtain ⟨g, hg, same⟩ := List.mem_map.mp inE
    obtain ⟨f, -, rfl⟩ := List.mem_map.mp hf
    obtain ⟨g, -, rfl⟩ := List.mem_map.mp hg
    exact other (FieldSpec.qualifiedName_inj same).1.symm

end Named

/-! ## What every name stands for -/

/-- What a catalog says of the fields that a schema declares: by its qualified name every field is
found, by its own name if one kind alone declares it, and it is listed under one name by which it is
found. -/
structure IsComplete (c : Catalog) (s : Schema) : Prop where
  kinds : ∀ name, (s.declaring name).Nodup
  qualified : ∀ f, s.Declares f → c.resolve f.qualifiedName = .ok f
  bare : ∀ name, '.' ∉ name.toList →
    ((∃ f, c.resolve name = .ok f) ↔ (s.declaring name).length = 1)
  own : ∀ name f, '.' ∉ name.toList → c.resolve name = .ok f → s.Declares f ∧ f.name = name
  ambiguous : ∀ name other candidates, '.' ∉ name.toList →
    (c.resolve name = .error (.ambiguousField other candidates) ↔
      other = name ∧ 2 ≤ (s.declaring name).length ∧
        candidates = (s.declaring name).map fun kind => kind.name ++ "." ++ name)
  candidate : ∀ name, ∀ kind ∈ s.declaring name, ∃ f, s.Declares f ∧ f.kind = kind ∧ f.name = name ∧
    c.resolve (kind.name ++ "." ++ name) = .ok f
  unknown : ∀ name other, '.' ∉ name.toList →
    (c.resolve name = .error (.unknownField other) ↔ other = name ∧ s.declaring name = [])
  listed : ∀ f, s.Declares f → ∃! key, NameMap.get? c.searchable key = some f
  found : ∀ key f, NameMap.get? c.searchable key = some f → s.Declares f ∧ c.resolve key = .ok f

section Named

variable {s : Schema} (named : ∀ d ∈ s.entities, d.IsNamed)

include named

theorem isWritable_ofSchema
    (identifiers : ∀ d ∈ s.entities, ∀ f ∈ d.fields, Query.isIdentifier f.name.toList = true) :
    (ofSchema s).IsWritable := by
  intro f mem
  obtain ⟨d, declared, field, inside, rfl⟩ := (mem_fields_ofSchema named).mp mem
  exact identifiers d declared field inside

theorem length_named (name : String) :
    ((ofSchema s).named name).length = (s.declaring name).length := by
  rw [← kinds_named named, List.length_map]

/-- The qualified names of the fields of a name are those of the kinds that declare it. -/
theorem qualifiedNames_named (name : String) :
    ((ofSchema s).named name).map (·.qualifiedName) =
      (s.declaring name).map fun kind => kind.name ++ "." ++ name := by
  rw [← kinds_named named, List.map_map]
  refine List.map_congr_left fun f mem => ?_
  obtain ⟨-, rfl⟩ := mem_named.mp mem
  rfl

end Named

/-- In an accepted schema whose fields have identifiers for names, the catalog is complete. -/
theorem isComplete_of_build {r : Registry} {s : Schema} (h : r.build = .ok s)
    (identifiers : ∀ d ∈ s.entities, ∀ f ∈ d.fields, Query.isIdentifier f.name.toList = true) :
    (ofSchema s).IsComplete s := by
  have forest := Registry.isForest_of_build h
  have named : ∀ d ∈ s.entities, d.IsNamed := fun d mem => Registry.isNamed_of_build h mem
  have writable := isWritable_ofSchema named identifiers
  have distinct := isDistinct_ofSchema named forest.distinct
  have declares {f : FieldSpec} : f ∈ (ofSchema s).fields ↔ s.Declares f :=
    mem_fields_ofSchema named
  have listed {key : String} {f : FieldSpec} :
      NameMap.get? (ofSchema s).searchable key = some f ↔
        f ∈ (ofSchema s).fields ∧ key = (ofSchema s).key f :=
    get?_searchable_eq_some_iff writable distinct
  constructor
  case kinds =>
    intro name
    exact forest.distinct.sublist (List.filter_sublist.map _)
  case qualified =>
    intro f declared
    exact resolve_qualifiedName distinct (declares.mpr declared)
  case bare =>
    intro name plain
    simp only [resolve_of_no_point plain, resolveBare_eq_ok_iff]
    rw [← length_named named, List.length_eq_one_iff]
  case own =>
    intro name f plain resolved
    rw [resolve_of_no_point plain, resolveBare_eq_ok_iff] at resolved
    obtain ⟨mem, same⟩ := mem_named.mp (resolved ▸ List.mem_singleton_self f)
    exact ⟨declares.mp mem, same⟩
  case ambiguous =>
    intro name other candidates plain
    rw [resolve_of_no_point plain, resolveBare_eq_ambiguous_iff, length_named named,
      qualifiedNames_named named]
  case candidate =>
    intro name kind mem
    rw [← kinds_named named] at mem
    obtain ⟨f, isNamed, rfl⟩ := List.mem_map.mp mem
    obtain ⟨inside, rfl⟩ := mem_named.mp isNamed
    exact ⟨f, declares.mp inside, rfl, rfl, resolve_qualifiedName distinct inside⟩
  case unknown =>
    intro name other plain
    rw [resolve_of_no_point plain, resolveBare_eq_unknown_iff, ← List.length_eq_zero_iff,
      length_named named, List.length_eq_zero_iff]
  case listed =>
    intro f declared
    refine ⟨(ofSchema s).key f, listed.mpr ⟨declares.mpr declared, rfl⟩, ?_⟩
    intro key found
    exact (listed.mp found).2
  case found =>
    intro key f found
    obtain ⟨mem, rfl⟩ := listed.mp found
    exact ⟨declares.mp mem, resolve_key writable distinct mem⟩

theorem isComplete_of_build_standard :
    (Registry.standard.build = .ok .standard ∧
        ∀ d ∈ Schema.standard.entities, ∀ f ∈ d.fields, Query.isIdentifier f.name.toList = true) ∧
      standard.resolve "name" = .error (.ambiguousField "name"
        ["projection_definition.name", "axis_entry.name"]) := by
  have identifiers : ∀ d ∈ Schema.standard.entities, ∀ f ∈ d.fields,
      Query.isIdentifier f.name.toList = true := by
    decide +kernel
  refine ⟨⟨Registry.build_standard, identifiers⟩, ?_⟩
  have complete := isComplete_of_build Registry.build_standard identifiers
  exact (complete.ambiguous "name" "name" _ (by decide)).mpr ⟨rfl, by decide, by decide +kernel⟩

end Catalog

end SceneArchive
