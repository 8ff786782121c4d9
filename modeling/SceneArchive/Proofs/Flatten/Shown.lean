import SceneArchive.Proofs.Flatten.Kinship
import SceneArchive.Proofs.Json.Within
import SceneArchive.Proofs.NameMap
import SceneArchive.Proofs.Store.Rows

/-!
# What a tree shows

A tree shows a record if it has the attributes of the record, the tree of its parent under the name
of the relationship, and for each kind of its children the list of their trees, and nothing else;
kinds on the path that leads to the record are left out. The trees inside it show their records in
the same way.

* `Shows`: a tree shows a record, and the records shown inside it are the given ones.
* `not_within_of_shows`: no marker stands anywhere in such a tree.
-/

namespace SceneArchive

namespace Entity

variable {e : Entity}

theorem get?_fields {a : String × Value} (h : a ∈ e.attributes) :
    NameMap.get? e.fields a.1 = some a.2.toJson := by
  apply NameMap.get?_insertAll_of_nodup
  · simpa [Function.comp_def] using e.nodup_names_attributes
  · exact List.mem_map_of_mem h

theorem exists_of_mem_fields {m : String × Json} (h : m ∈ e.fields) :
    ∃ a ∈ e.attributes, m = (a.1, a.2.toJson) := by
  rcases NameMap.mem_insertAll h with mem | mem
  · obtain ⟨a, declared, rfl⟩ := List.mem_map.mp mem
    exact ⟨a, declared, rfl⟩
  · cases mem

theorem name_ne_attribute (kind : Kind) {a : String × Value} (h : a ∈ e.attributes) :
    a.1 ≠ kind.name := by
  have mem : a.1 ∈ e.attributes.map (·.1) := List.mem_map_of_mem h
  have apart : ∀ own : Kind, ∀ name ∈
      auditColumns ++ (Schema.standard.fieldsOf own).map (·.name), name ≠ kind.name := by
    cases kind <;> decide +kernel
  rw [names_attributes] at mem
  exact apart e.kind a.1 mem

theorem id_mem_attributes (e : Entity) : ("id", Value.integer e.id) ∈ e.attributes := by
  cases e <;> exact List.mem_cons_self

end Entity

namespace Flatten

/-- A record, its tree, and the references of the records shown in the tree, its own first. -/
structure Shown where
  record : Entity
  tree : Json
  refs : List Ref

/-- What is shown inside the tree of a record: its parent and its children, kind by kind. -/
structure Parts where
  parent : Option (Relation × Shown)
  children : List (Kind × List Shown)

namespace Parts

/-- The records shown inside the tree, the parent first. -/
def shown (parts : Parts) : List Shown :=
  (parts.parent.map (·.2)).toList ++ parts.children.flatMap (·.2)

/-- The members in which they stand. -/
def entries (parts : Parts) : Fields :=
  (parts.parent.map fun x => (x.1.slot.field, x.2.tree)).toList ++
    parts.children.map fun g => (g.1.name, .array (g.2.map (·.tree)))

theorem mem_shown {parts : Parts} {t : Shown} :
    t ∈ parts.shown ↔ (∃ x ∈ parts.parent, x.2 = t) ∨ ∃ g ∈ parts.children, t ∈ g.2 := by
  simp [shown]

theorem mem_entries {parts : Parts} {m : String × Json} :
    m ∈ parts.entries ↔ (∃ x ∈ parts.parent, (x.1.slot.field, x.2.tree) = m) ∨
      ∃ g ∈ parts.children, (g.1.name, Json.array (g.2.map (·.tree))) = m := by
  simp [entries]

/-- Whether the parent and the children are those of a record, the kinds of a path left out, and
the children of each kind stand by identifier. -/
structure Of (parts : Parts) (s : Source) (path : List Kind) (e : Entity) : Prop where
  parentOpen : ∀ p, s.BelongsTo e p → p.kind ∉ path → ∃ x ∈ parts.parent, x.2.record = p
  parent : ∀ x ∈ parts.parent, s.schema.parentOf e.kind = some x.1 ∧
    s.BelongsTo e x.2.record ∧ x.2.record.kind ∉ path
  kinds : ∀ kind, kind ∈ parts.children.map (·.1) ↔ s.schema.Wired kind e.kind ∧ kind ∉ path
  distinct : (parts.children.map (·.1)).Nodup
  children : ∀ g ∈ parts.children, g.2.Pairwise (·.record.id < ·.record.id) ∧
    ∀ c, c ∈ g.2.map (·.record) ↔ c.kind = g.1 ∧ s.BelongsTo c e

end Parts

/-- Whether a tree has the attributes of its record and the trees of its parts, and nothing else. -/
structure Shown.HasMembers (t : Shown) (parts : Parts) (fields : Fields) : Prop where
  tree : t.tree = .object fields
  refs : t.refs = t.record.ref :: parts.shown.flatMap (·.refs)
  attributes : ∀ a ∈ t.record.attributes, NameMap.get? fields a.1 = some a.2.toJson
  entries : ∀ m ∈ parts.entries, NameMap.get? fields m.1 = some m.2
  nothingElse : ∀ m ∈ fields,
    (∃ a ∈ t.record.attributes, m = (a.1, a.2.toJson)) ∨ m ∈ parts.entries

/-- Whether a tree shows its record below the kinds of a path, and the trees inside it show
theirs. -/
inductive Shows (s : Source) : List Kind → Shown → Prop
  | node {path : List Kind} {t : Shown} {parts : Parts} {fields : Fields}
      (belong : parts.Of s (t.record.kind :: path) t.record) (has : t.HasMembers parts fields)
      (inside : ∀ u ∈ parts.shown, Shows s (t.record.kind :: path) u) : Shows s path t

theorem not_within_toJson {fields : Fields} (v : Value) :
    ¬ (Json.object fields).Within v.toJson := by
  intro inside
  cases v with
  | float x =>
    simp only [Value.toJson, Json.float] at inside
    split at inside <;> cases inside
  | null => cases inside
  | integer => cases inside
  | text => cases inside
  | date => cases inside

/-- No marker stands in a tree that shows a record. -/
theorem not_within_of_shows {s : Source} {path : List Kind} {t : Shown} (h : Shows s path t)
    (r : Ref) : ¬ (marker r).Within t.tree := by
  induction h with
  | @node path t parts fields belong has inside ih =>
    rw [has.tree]
    intro within
    cases within with
    | refl =>
      -- A tree has an identifier, and a marker has none.
      have id := has.attributes _ t.record.id_mem_attributes
      cases id
    | member entry within =>
      rcases has.nothingElse _ entry with ⟨a, -, same⟩ | part
      · cases same
        exact not_within_toJson a.2 within
      · rcases Parts.mem_entries.mp part with ⟨x, parent, same⟩ | ⟨g, group, same⟩
        · cases same
          exact ih x.2 (Parts.mem_shown.mpr (.inl ⟨x, parent, rfl⟩)) within
        · cases same
          cases within with
          | item entry within =>
            obtain ⟨u, listed, rfl⟩ := List.mem_map.mp entry
            exact ih u (Parts.mem_shown.mpr (.inr ⟨g, group, listed⟩)) within

end Flatten

end SceneArchive
