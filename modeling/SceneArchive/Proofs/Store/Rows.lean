import Mathlib.Data.List.Nodup
import SceneArchive.Proofs.Statement.Truth
import SceneArchive.Store.Search

/-!
# Records as rows

How a record stands in the table of its kind: one cell for each declared field, which holds the
attribute of that name, and one for the identifier of its owner.

* `attributes_declared`: the attributes of a record are those that its kind declares, in order and
  of the declared types.
* `exists_attribute`: the cell of a searchable field is that of the attribute.
* `truth_iff_holdsOn`: a clause is true where its kind is bound to the row of a record exactly if
  the condition holds on the record.
-/

namespace SceneArchive

/-- The fields that a schema declares for a kind. -/
def Schema.fieldsOf (s : Schema) (kind : Kind) : List Field :=
  ((s.declaration? kind).map (·.fields)).getD []

theorem Schema.declaration?_standard :
    ∀ d ∈ Schema.standard.entities, Schema.standard.declaration? d.kind = some d := by
  decide +kernel

/-- A searchable field is one of those that its kind declares. -/
theorem Catalog.exists_declared {f : FieldSpec} (h : f ∈ Catalog.standard.fields) :
    ∃ field ∈ Schema.standard.fieldsOf f.kind, field.name = f.name ∧ field.type = f.type := by
  obtain ⟨d, hd, h⟩ := List.mem_flatMap.mp h
  obtain ⟨field, hField, rfl⟩ := List.mem_map.mp h
  refine ⟨field, ?_, rfl, rfl⟩
  simp only [Schema.fieldsOf, Schema.declaration?_standard d hd]
  exact (List.mem_filter.mp hField).1

/-! ## Cells of a row -/

theorem Statement.Row.cell_of_mem {row : Row} (distinct : (row.cells.map (·.1)).Nodup)
    {name : String} {cell : Cell} (h : (name, cell) ∈ row.cells) : row.cell name = cell := by
  unfold Row.cell
  generalize row.cells = cells at h distinct
  induction cells with
  | nil => cases h
  | cons first rest ih =>
    simp only [List.map_cons, List.nodup_cons, List.mem_map, not_exists, not_and] at distinct
    rcases List.mem_cons.mp h with rfl | h
    · simp
    · have other : (first.1 == name) = false := by
        simpa using fun same => distinct.1 (name, cell) h same.symm
      simp only [List.find?_cons, other]
      exact ih h distinct.2

namespace Entity

/-- The attributes of a record behind its identifier and its times are those that its kind
declares, in order and of the declared types. -/
theorem attributes_declared (e : Entity) :
    List.Forall₂ (fun column field => column.1 = field.name ∧ column.2.HasType field.type)
      (e.attributes.drop 3) (Schema.standard.fieldsOf e.kind) := by
  have date (d : Option Date) : (Value.ofDate? d).HasType .date := by
    cases d with
    | none => exact .inl rfl
    | some d => exact .inr rfl
  cases e <;>
    repeat
      first
      | exact .nil
      | refine .cons ⟨rfl, .inr rfl⟩ ?_
      | refine .cons ⟨rfl, date _⟩ ?_

theorem names_attributes (e : Entity) :
    e.attributes.map (·.1) =
      auditColumns ++ (Schema.standard.fieldsOf e.kind).map (·.name) := by
  cases e <;> rfl

theorem names_row (e : Entity) :
    e.row.cells.map (·.1) =
      ((Schema.standard.parentOf e.kind).map (·.slot.column)).toList ++
        auditColumns.drop 1 ++ (Schema.standard.fieldsOf e.kind).map (·.name) := by
  cases e <;> rfl

theorem nodup_names_attributes (e : Entity) : (e.attributes.map (·.1)).Nodup := by
  rw [names_attributes]
  generalize e.kind = kind
  cases kind <;> decide +kernel

theorem nodup_names_row (e : Entity) : (e.row.cells.map (·.1)).Nodup := by
  rw [names_row]
  generalize e.kind = kind
  cases kind <;> decide +kernel

/-- A record has one attribute for each searchable field of its kind, of the type of the field,
and its row has the cell of that attribute. -/
theorem exists_attribute {f : FieldSpec} (h : f ∈ Catalog.standard.fields) {e : Entity}
    (kind : e.kind = f.kind) :
    ∃ v, v.HasType f.type ∧ (f.name, v) ∈ e.attributes ∧
      (f.name, Statement.Cell.ofValue v) ∈ e.row.cells := by
  obtain ⟨field, hField, name, type⟩ := Catalog.exists_declared h
  rw [← kind] at hField
  obtain ⟨⟨name', v⟩, mem, same, typed⟩ := Results.exists_of_forall₂ e.attributes_declared hField
  simp only at same typed
  rw [same, name] at mem
  rw [type] at typed
  refine ⟨v, typed, List.mem_of_mem_drop mem, ?_⟩
  have behind : (f.name, v) ∈ e.attributes.drop 1 := by
    rw [show 3 = 1 + 2 from rfl, ← List.drop_drop] at mem
    exact List.mem_of_mem_drop mem
  exact List.mem_append_right _ (List.mem_map.mpr ⟨_, behind, rfl⟩)

theorem attribute_unique {e : Entity} {name : String} {v w : Value}
    (hv : (name, v) ∈ e.attributes) (hw : (name, w) ∈ e.attributes) : v = w := by
  have same := List.inj_on_of_nodup_map e.nodup_names_attributes hv hw rfl
  exact (Prod.mk.inj same).2

theorem cell_of_mem {e : Entity} {name : String} {cell : Statement.Cell}
    (h : (name, cell) ∈ e.row.cells) : e.row.cell name = cell :=
  Statement.Row.cell_of_mem e.nodup_names_row h

/-- The identifier of the owner stands in the column of the slot. -/
theorem cell_owner {e : Entity} {relation : Relation} {owner : Int}
    (hRelation : Schema.standard.parentOf e.kind = some relation)
    (hOwner : e.owner? = some owner) :
    e.row.cell relation.slot.column = .integer owner := by
  apply cell_of_mem
  simp [row, hRelation, hOwner]

end Entity

namespace Statement

/-- A clause is true where its kind is bound to the row of a record exactly if the condition holds
on the record. -/
theorem truth_iff_holdsOn {c : BoundCondition} (hc : c.WellTyped .standard) {b : Binding}
    {e : Entity} (kind : e.kind = c.field.kind) (bound : boundRow b c.field.kind = some e.row) :
    (Clause.ofCondition c).truth b = some true ↔ c.HoldsOn e := by
  obtain ⟨v, typed, mem, inRow⟩ := Entity.exists_attribute hc.declared kind
  have cell : boundCell b ⟨c.field.kind, c.field.name⟩ = .ofValue v := by
    simp only [boundCell, bound, Entity.cell_of_mem inRow]
  rw [truth_ofCondition_iff hc typed cell]
  constructor
  · intro accepts
    exact ⟨v, mem, accepts⟩
  · rintro ⟨w, hw, accepts⟩
    rw [Entity.attribute_unique mem hw]
    exact accepts

end Statement

end SceneArchive
