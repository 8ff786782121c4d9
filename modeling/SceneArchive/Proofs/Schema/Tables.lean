import SceneArchive.Proofs.Schema.Acceptance
import SceneArchive.Statement.Table

/-!
# Tables of accepted schemas

Every declaration of an accepted schema has a table. The names of its fields are checked against
each other, the columns of every table and the place for the parent. The column for the parent and
the unique key are not checked, so it is up to them whether the table can be created.

* `createTables_of_build`: the tables of an accepted schema are defined.
* `usable_iff`: when the columns of a table are told apart, and when what is unique is a column.
-/

namespace SceneArchive

theorem Registry.exists_declaration_of_build {r : Registry} {s : Schema} (h : r.build = .ok s)
    {child : Kind} {relation : Relation} (related : s.parentOf child = some relation) :
    ∃ d, s.declaration relation.parent = .ok d := by
  have sound := isSound_of_build h
  have forest := isForest_of_build h
  obtain ⟨-, -, -, -, rfl⟩ := build_eq_ok_iff.mp h
  have declared := sound.mem_kinds_of_wired ⟨relation, related, rfl⟩
  obtain ⟨d, mem, same⟩ := List.mem_map.mp declared
  exact ⟨d, by rw [Schema.declaration, ← same, forest.declaration?_of_mem mem]⟩

namespace Statement

namespace Table

variable {r : Registry} {s : Schema} {d : Declaration} {t : Table}

/-- The names of the columns of a table. -/
def names (t : Table) : List String := t.columns.map (·.name)

/-! ## Definition -/

theorem parentColumns_of_build (h : r.build = .ok s) (mem : d ∈ s.entities) :
    parentColumns s d.kind =
      .ok (d.relation.toList.map fun r => .reference r.slot.column r.parent) := by
  have related : s.parentOf d.kind = d.relation := by
    rw [Schema.parentOf, (Registry.isForest_of_build h).declaration?_of_mem mem, Option.bind_some]
  rw [parentColumns, related]
  cases relates : d.relation with
  | none => rfl
  | some relation =>
    rw [relates] at related
    obtain ⟨parent, declared⟩ := Registry.exists_declaration_of_build h related
    exact Results.bind_eq_ok_iff.mpr ⟨parent, declared, rfl⟩

theorem exists_ofDeclaration (h : r.build = .ok s) (mem : d ∈ s.entities) :
    ∃ t, ofDeclaration s d = .ok t ∧
      t.names = "id" :: d.relation.toList.map (·.slot.column) ++ d.fields.map (·.name) ++
        ["created_at", "updated_at"] ∧
      t.uniques =
        d.uniqueKey.toList ++ (d.relation.filter (·.slot.unique)).toList.map (·.slot.column) := by
  refine ⟨_, Results.bind_eq_ok_iff.mpr ⟨_, parentColumns_of_build h mem, rfl⟩, ?_, rfl⟩
  simp [names, ColumnDef.name, Function.comp_def]

/-! ## Names of columns -/

section Names

variable (names : t.names =
  "id" :: d.relation.toList.map (·.slot.column) ++ d.fields.map (·.name) ++
    ["created_at", "updated_at"])

include names

/-- Up to their order, the names are those that every table has and those that the declaration
adds. -/
theorem perm_names :
    t.names.Perm (auditColumns ++ (d.relation.toList.map (·.slot.column) ++
      d.fields.map (·.name))) := by
  rw [names]
  exact List.perm_append_comm.cons "id"

theorem mem_names {name : String} :
    name ∈ t.names ↔ name ∈ auditColumns ∨
      (∃ relation, d.relation = some relation ∧ relation.slot.column = name) ∨
        ∃ f ∈ d.fields, f.name = name := by
  rw [(perm_names names).mem_iff]
  simp

theorem nodup_names_iff (named : d.IsNamed) :
    t.names.Nodup ↔
      ∀ relation, d.relation = some relation → relation.slot.column ∉ auditColumns := by
  rw [(perm_names names).nodup_iff, List.nodup_append]
  constructor
  · rintro ⟨-, -, apart⟩ relation related isAudit
    exact apart _ isAudit relation.slot.column (by simp [related]) rfl
  · intro free
    refine ⟨by decide, ?_, fun name isAudit other mem same => ?_⟩
    · cases related : d.relation with
      | none => exact named.distinct
      | some relation =>
        refine List.nodup_cons.mpr ⟨fun mem => ?_, named.distinct⟩
        obtain ⟨f, inside, same⟩ := List.mem_map.mp mem
        exact ((named.unreserved f inside).2 relation related).2 same
    · subst same
      rcases List.mem_append.mp mem with isParent | isField
      · obtain ⟨relation, related, rfl⟩ := List.mem_map.mp isParent
        exact free relation (Option.mem_toList.mp related) isAudit
      · obtain ⟨f, inside, rfl⟩ := List.mem_map.mp isField
        exact (named.unreserved f inside).1 isAudit

theorem uniques_subset_names_iff
    (uniques : t.uniques =
      d.uniqueKey.toList ++ (d.relation.filter (·.slot.unique)).toList.map (·.slot.column)) :
    (∀ name ∈ t.uniques, name ∈ t.names) ↔
      ∀ name, d.uniqueKey = some name → name ∈ auditColumns ∨
        (∃ relation, d.relation = some relation ∧ relation.slot.column = name) ∨
          ∃ f ∈ d.fields, f.name = name := by
  simp only [← mem_names names, uniques, List.mem_append, Option.mem_toList]
  constructor
  · intro all name key
    exact all name (.inl key)
  · rintro keyed name (key | unique)
    · exact keyed name key
    · -- The column for the parent is one of the columns, whatever it is called.
      obtain ⟨relation, related, rfl⟩ := List.mem_map.mp unique
      have related := (Option.filter_eq_some_iff.mp (Option.mem_toList.mp related)).1
      exact (mem_names names).mpr (.inr (.inl ⟨relation, related, rfl⟩))

end Names

/-- Every declaration of an accepted schema has a table. Its columns are told apart unless the one for
the parent is called like one that every table has, and only columns are unique if the unique key
is a column. -/
theorem usable_iff (h : r.build = .ok s) (mem : d ∈ s.entities) :
    ∃ t, ofDeclaration s d = .ok t ∧
      t.names = "id" :: d.relation.toList.map (·.slot.column) ++ d.fields.map (·.name) ++
        ["created_at", "updated_at"] ∧
      (t.names.Nodup ↔
        ∀ relation, d.relation = some relation → relation.slot.column ∉ auditColumns) ∧
      ((∀ name ∈ t.uniques, name ∈ t.names) ↔
        ∀ name, d.uniqueKey = some name → name ∈ auditColumns ∨
          (∃ relation, d.relation = some relation ∧ relation.slot.column = name) ∨
            ∃ f ∈ d.fields, f.name = name) := by
  obtain ⟨t, defined, names, uniques⟩ := exists_ofDeclaration h mem
  exact ⟨t, defined, names, nodup_names_iff names (Registry.isNamed_of_build h mem),
    uniques_subset_names_iff names uniques⟩

theorem usable_iff_projection :
    Registry.standard.build = .ok .standard ∧
      ∃ d ∈ Schema.standard.entities, d.kind = .projectionDefinition ∧
        ∃ t, ofDeclaration .standard d = .ok t ∧ t.names.Nodup ∧
          ∀ name ∈ t.uniques, name ∈ t.names := by
  let d := Schema.standard.entities[2]
  have mem : d ∈ Schema.standard.entities := List.getElem_mem _
  obtain ⟨t, defined, -, distinct, uniques⟩ := usable_iff Registry.build_standard mem
  refine ⟨Registry.build_standard, d, mem, rfl, t, defined, distinct.mpr ?_, uniques.mpr ?_⟩
  · rintro relation ⟨⟩
    decide
  · rintro name ⟨⟩

/-- A registry in which the column for the parent is called like the identifier. -/
def parentCalledId : Registry where
  descriptors :=
    [ { kind := .metadataDirectory, fields := [.required "date_str" .text] },
      Descriptor.belongsTo { kind := .axisEntry, fields := [.required "name" .text] }
        "directory" "id" ]
  wiring := [⟨.axisEntry, .metadataDirectory⟩]

/-- A registry whose unique key is the name of nothing. -/
def keyOfNothing : Registry where
  descriptors :=
    [ Descriptor.unique { kind := .metadataDirectory, fields := [.required "date_str" .text] }
        "date" ]
  wiring := []

/-- An accepted schema may have a table with two columns of one name, and one with a unique key that
is no column. -/
theorem not_usable_unchecked :
    (∃ s, parentCalledId.build = .ok s ∧ ∃ d ∈ s.entities, ∃ t, ofDeclaration s d = .ok t ∧
      t.names = ["id", "id", "name", "created_at", "updated_at"] ∧ ¬ t.names.Nodup) ∧
    ∃ s, keyOfNothing.build = .ok s ∧ ∃ d ∈ s.entities, ∃ t, ofDeclaration s d = .ok t ∧
      t.uniques = ["date"] ∧ "date" ∉ t.names := by
  constructor
  · exact ⟨parentCalledId.schema, rfl, parentCalledId.schema.entities[1], List.getElem_mem _, _,
      rfl, rfl, by decide⟩
  · exact ⟨keyOfNothing.schema, rfl, keyOfNothing.schema.entities[0], List.getElem_mem _, _, rfl,
      rfl, by decide⟩

end Table

/-- The tables of an accepted schema are defined. -/
theorem createTables_of_build {r : Registry} {s : Schema} (h : r.build = .ok s) :
    ∃ created, createTables s = .ok created := by
  cases made : s.entities.mapM (createTable s) with
  | ok created => exact ⟨created.flatten, Results.map_eq_ok_iff.mpr ⟨created, made, rfl⟩⟩
  | error e =>
    obtain ⟨before, d, behind, whole, -, failed⟩ := Results.mapM_eq_error_iff.mp made
    obtain ⟨t, defined, -⟩ := Table.exists_ofDeclaration h (d := d) (by simp [whole])
    rw [createTable, defined] at failed
    cases failed

end Statement

end SceneArchive
