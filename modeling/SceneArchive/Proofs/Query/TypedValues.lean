import Mathlib.Data.List.Nodup
import SceneArchive.Proofs.Query.BareValues
import SceneArchive.Proofs.Query.QuotedValues

/-!
# Values of typed fields

The text of a number or a date means the same in a query as in a record. Such a text does not leave
the condition that it is the operand of, in quotes or without, and a query that is one condition
has its whole text as the operand.

* `closes_bareCondition`: the text of a typed value stays within its condition.
* `compile_bareCondition_iff`: when a query compiles to a single comparison of a typed field.
* `compile_typed`: a record accepts a text as a value of a field exactly if a query does.
-/

namespace SceneArchive

namespace Query

variable {f : FieldPath} {s : Scan} {text : List Char}

/-! ## The scan of a typed value -/

/-- Where an operand begins, a text that is plain within its quotes stays in its condition. -/
theorem Scan.stays_plain (closed : s.quote = none) (opens : s.opensOperand = true)
    (plain : IsPlain (Text.unquote (Text.trim text))) :
    s.Stays text ∧ (s.run text).quote = none := by
  have plainStays {s : Scan} {t : List Char} (h : IsPlain t) : s.Stays t :=
    stays_of_not_mem fun mem => (h _ mem).1 rfl
  rcases Text.unquote_cases (Text.trim text) with same | ⟨q, isQuote, quoted⟩
  · -- Without quotes around it the whole text is plain.
    have plain : IsPlain text := isPlain_of_trim (same ▸ plain)
    exact ⟨plainStays plain, quote_run_of_no_quote closed fun c hc => (plain c hc).2⟩
  · -- The quotes are opened and closed again, and the blanks do not move the scan.
    obtain ⟨before, after, whole, blankBefore, blankAfter⟩ := Text.exists_blanks_trim text
    have absent : q ∉ Text.unquote (Text.trim text) := by
      intro mem
      have := (plain q mem).2
      rw [isQuote] at this
      cases this
    have stays := stays_quoted isQuote absent closed opens
    have behind := run_quoted isQuote absent closed opens
    rw [← quoted] at stays behind
    rw [whole, stays_append, stays_append, run_append, run_append, run_blanks closed blankBefore,
      behind, run_blanks (s := { s with last := some q }) closed blankAfter]
    exact ⟨⟨plainStays (isPlain_of_isBlank blankBefore), stays,
      plainStays (isPlain_of_isBlank blankAfter)⟩, closed⟩

theorem closes_bareCondition (h : f.IsWritable) (op : Comparison) {v : String}
    (plain : IsPlain (Coercion.bareText v)) : Scan.Closes (bareCondition f op v).toList := by
  have closed : (Scan.start.run (opening f (.comparison op))).quote = none := quote_run_opening h
  have stays : Scan.start.Stays (opening f (.comparison op)) :=
    Scan.stays_of_not_mem (not_mem_opening h)
  obtain ⟨inside, closedInside⟩ :=
    Scan.stays_plain closed (opensOperand_run_opening h op) plain
  rw [toList_bareCondition, Scan.Closes, Scan.stays_append, Scan.run_append]
  exact ⟨⟨stays, inside⟩, closedInside⟩

/-! ## Queries of one condition -/

/-- A query that is read as one condition is the text of this condition. -/
theorem parseCondition_of_parse {query : String} {c : Condition} (h : parse query = .ok [c]) :
    parseCondition query = .ok c := by
  obtain ⟨parts, cut, related⟩ := exists_segments_of_parse h
  obtain ⟨part, rest, hPart, hRest, rfl⟩ := List.forall₂_cons_right_iff.mp related
  obtain rfl := List.forall₂_nil_right_iff.mp hRest
  rw [eq_of_segmentsFrom_singleton cut] at hPart
  exact hPart

theorem parse_of_closes {query : String} {c : Char} (mem : c ∈ query.toList)
    (visible : Text.isBlank c = false) (closes : Scan.Closes query.toList) {condition : Condition}
    (h : parseCondition query = .ok condition) : parse query = .ok [condition] := by
  rw [parse_of_visible mem visible (segments_of_closes closes), Results.mapM_eq_ok_iff]
  exact .cons h .nil

/-- How a comparison is read that stands by itself, whatever its operand is. -/
theorem parseCondition_bareCondition_iff (h : f.IsWritable) (op : Comparison) (v : String)
    {c : Condition} :
    parseCondition (bareCondition f op v) = .ok c ↔
      Text.trim v.toList ≠ [] ∧
        c = ⟨Text.trimmed (bareCondition f op v), f, .comparison op,
          .scalar (Text.trimmed v)⟩ := by
  rw [parseCondition, toList_bareCondition, parseConditionChars_opening h]
  simp only [operand_comparison_iff, Text.trimmed, toList_bareCondition]
  constructor
  · rintro ⟨raw, ⟨seen, rfl⟩, rfl⟩
    exact ⟨seen, rfl⟩
  · rintro ⟨seen, rfl⟩
    exact ⟨_, ⟨seen, rfl⟩, rfl⟩

end Query

/-! ## Typed comparisons -/

namespace Predicate

variable {catalog : Catalog} {path : FieldPath} {f : FieldSpec} {text : String} {v : Value}

theorem bind_comparison_iff (resolved : catalog.resolve path.text = .ok f) {segment : String}
    {op : Comparison} {b : BoundCondition} :
    bind catalog ⟨segment, path, .comparison op, .scalar text⟩ = .ok b ↔
      ∃ v, Coercion.ofText f.name f.type text = .ok v ∧ b = ⟨f, .comparison op, .scalar v⟩ := by
  constructor
  · intro h
    obtain ⟨field, hField, h⟩ := Results.bind_eq_ok_iff.mp h
    rw [resolved] at hField
    cases hField
    obtain ⟨operand, hOperand, given⟩ := Results.bind_eq_ok_iff.mp h
    cases given
    obtain ⟨v, hv, given⟩ := Results.bind_eq_ok_iff.mp hOperand
    cases given
    exact ⟨v, hv, rfl⟩
  · rintro ⟨v, hv, rfl⟩
    have operand : bindOperand f (.scalar text) = .ok (.scalar v) :=
      Results.bind_eq_ok_iff.mpr ⟨v, hv, rfl⟩
    exact Results.bind_eq_ok_iff.mpr ⟨f, resolved, Results.bind_eq_ok_iff.mpr ⟨_, operand, rfl⟩⟩

/-- A query compiles to a single comparison of a typed field exactly if what stands behind the
operator is the text of the value. -/
theorem compile_bareCondition_iff (writable : path.IsWritable)
    (resolved : catalog.resolve path.text = .ok f) (typed : f.type ≠ .text) (op : Comparison) :
    compile catalog (Query.bareCondition path op text) =
        .ok ⟨[⟨f, .comparison op, .scalar v⟩]⟩ ↔
      Coercion.ofText f.name f.type text = .ok v := by
  constructor
  · intro h
    obtain ⟨conditions, read, h⟩ := Results.bind_eq_ok_iff.mp h
    obtain ⟨bound, binds, given⟩ := Results.bind_eq_ok_iff.mp h
    cases given
    obtain ⟨c, rest, hBind, hRest, rfl⟩ :=
      List.forall₂_cons_right_iff.mp (Results.mapM_eq_ok_iff.mp binds)
    obtain rfl := List.forall₂_nil_right_iff.mp hRest
    obtain ⟨-, rfl⟩ := (Query.parseCondition_bareCondition_iff writable op text).mp
      (Query.parseCondition_of_parse read)
    obtain ⟨w, hw, same⟩ := (bind_comparison_iff resolved).mp hBind
    cases same
    exact Coercion.ofText_trim.mp hw
  · intro h
    have closes : Query.Scan.Closes (Query.bareCondition path op text).toList :=
      Query.closes_bareCondition writable op (Coercion.isPlain_of_ofText typed h)
    obtain ⟨d, others, head, visible⟩ := Query.exists_head_text writable
    have mem : d ∈ (Query.bareCondition path op text).toList := by
      simp [Query.toList_bareCondition, Query.opening, head]
    have parsed := Query.parse_of_closes mem visible closes
      ((Query.parseCondition_bareCondition_iff writable op text).mpr
        ⟨Coercion.trim_ne_nil_of_ofText typed h, rfl⟩)
    refine Results.bind_eq_ok_iff.mpr ⟨_, parsed, Results.bind_eq_ok_iff.mpr ⟨_, ?_, rfl⟩⟩
    refine Results.mapM_eq_ok_iff.mpr (.cons ?_ .nil)
    exact (bind_comparison_iff resolved).mpr ⟨v, Coercion.ofText_trim.mpr h, rfl⟩

end Predicate

/-! ## Qualified names -/

/-- The qualified name of a field as queries write it. -/
def FieldSpec.path (f : FieldSpec) : FieldPath := ⟨some f.kind.name, f.name⟩

namespace Catalog

/-- Whether no two fields of a catalog have the same qualified name. -/
def IsDistinct (catalog : Catalog) : Prop := (catalog.fields.map (·.qualifiedName)).Nodup

theorem isDistinct_standard : standard.IsDistinct := by
  unfold IsDistinct
  decide +kernel

theorem IsWritable.path {catalog : Catalog} (writable : catalog.IsWritable) {f : FieldSpec}
    (mem : f ∈ catalog.fields) : f.path.IsWritable := by
  refine ⟨fun kind same => ?_, writable f mem⟩
  cases same
  exact f.kind.isIdentifier_name

theorem splitAtPoint_qualifiedName (f : FieldSpec) :
    splitAtPoint f.qualifiedName = some (f.kind.name, f.name) := by
  have noPoint : '.' ∉ f.kind.name.toList := by
    intro mem
    cases Query.isIdentifierChar_of_mem f.kind.isIdentifier_name mem
  have cut := Text.span_until noPoint f.name.toList
  have written : f.qualifiedName.toList = f.kind.name.toList ++ '.' :: f.name.toList := by
    simp [FieldSpec.qualifiedName]
  simp only [splitAtPoint, written, cut, String.ofList_toList]

theorem resolve_qualifiedName {catalog : Catalog} (distinct : catalog.IsDistinct) {f : FieldSpec}
    (mem : f ∈ catalog.fields) : catalog.resolve f.qualifiedName = .ok f := by
  let p (g : FieldSpec) : Bool := g.kind.name == f.kind.name && g.name == f.name
  obtain ⟨g, found⟩ : ∃ g, catalog.fields.find? p = some g := by
    rw [← Option.isSome_iff_exists, List.find?_isSome]
    exact ⟨f, mem, by simp [p]⟩
  have same : g.kind.name = f.kind.name ∧ g.name = f.name := by
    simpa [p] using List.find?_some found
  have only : g = f := by
    refine List.inj_on_of_nodup_map distinct (List.mem_of_find?_eq_some found) mem ?_
    rw [FieldSpec.qualifiedName, FieldSpec.qualifiedName, same.1, same.2]
  simp only [resolve, splitAtPoint_qualifiedName]
  rw [found, only]

end Catalog

/-- A string of a record is accepted as a number or a date, with a value, exactly if the query that
compares the field with this string compiles to the comparison with this value. -/
theorem Predicate.compile_typed :
    (Catalog.standard.IsWritable ∧ Catalog.standard.IsDistinct) ∧
      ∀ catalog : Catalog, catalog.IsWritable → catalog.IsDistinct →
        ∀ f ∈ catalog.fields, f.type ≠ .text → ∀ (r : String) (v : Value),
          Coercion.ofJson f.name f.type (some (.string r)) false = .ok v ↔
            compile catalog (f.qualifiedName ++ " = " ++ r) =
              .ok ⟨[⟨f, .comparison .eq, .scalar v⟩]⟩ := by
  refine ⟨⟨Catalog.isWritable_standard, Catalog.isDistinct_standard⟩, ?_⟩
  intro catalog writable distinct f mem typed r v
  have written : f.qualifiedName ++ " = " ++ r = Query.bareCondition f.path .eq r := by
    rw [← String.toList_inj]
    simp [Query.bareCondition, FieldSpec.path, FieldPath.text, FieldSpec.qualifiedName,
      Comparison.symbol]
  rw [Coercion.ofJson_string typed, written]
  exact (compile_bareCondition_iff (writable.path mem)
    (Catalog.resolve_qualifiedName distinct mem) typed .eq).symm

theorem Predicate.compile_typed_quotedDate :
    (Catalog.standard.IsWritable ∧ Catalog.standard.IsDistinct) ∧
      Coercion.ofJson "acquisitio" .date (some (.string " '20240105' ")) false =
        .ok (.date ⟨2024, 1, 5, by decide⟩) ∧
      compile .standard "observation_record.acquisitio =  '20240105' " =
        .ok ⟨[⟨⟨.observationRecord, "acquisitio", .date⟩, .comparison .eq,
          .scalar (.date ⟨2024, 1, 5, by decide⟩)⟩]⟩ := by
  have mem : (⟨.observationRecord, "acquisitio", .date⟩ : FieldSpec) ∈ Catalog.standard.fields := by
    decide +kernel
  have accepted : Coercion.ofJson "acquisitio" .date (some (.string " '20240105' ")) false =
      .ok (.date ⟨2024, 1, 5, by decide⟩) := rfl
  refine ⟨compile_typed.1, accepted, ?_⟩
  exact (compile_typed.2 .standard compile_typed.1.1 compile_typed.1.2 _ mem (by decide)
    " '20240105' " (.date ⟨2024, 1, 5, by decide⟩)).mp accepted

end SceneArchive
