import SceneArchive.Proofs.Query.Written
import SceneArchive.Query.Predicate

/-!
# Conjunctions of queries

Two queries with ` & ` between them are read as one after the other. Nothing of the first query
is left open where the second begins: a quote that is open at the end of a query is a fault, and
the count of brackets starts again behind every ampersand.

* `parse_conjunction`: the conditions of both queries, in order.
* `compile_conjunction`: the same for predicates.
-/

namespace SceneArchive

namespace Query

/-- A space behind a text is left on the last of its segments. -/
theorem segments_concat_space {text : List Char} {parts : List (List Char)}
    (h : segments text = .ok parts) :
    ∃ cuts, segments (text ++ [' ']) = .ok cuts ∧
      List.Forall₂ (fun cut part => Text.trim cut = Text.trim part) cuts parts := by
  obtain ⟨nonempty, closes, rfl⟩ := segments_eq_ok_iff.mp h
  obtain ⟨front, last, rfl⟩ := (List.eq_nil_or_concat parts).resolve_left nonempty
  simp only [List.concat_eq_append, List.mem_append, List.mem_singleton] at closes
  rw [List.concat_eq_append, intercalate_concat, List.append_assoc,
    segments_flatMap fun part mem => closes part (.inl mem),
    segments_of_closes (closes last (.inr rfl)).space]
  refine ⟨front ++ [last ++ [' ']], rfl, ?_⟩
  have related : List.Forall₂ (fun cut part => Text.trim cut = Text.trim part) front front :=
    List.forall₂_same.mpr fun _ _ => rfl
  apply List.rel_append related
  exact .cons (Text.trim_concat (by decide) last) .nil

theorem segments_conjunction {a b : List Char} {parts others : List (List Char)}
    (ha : segments a = .ok parts) (hb : segments b = .ok others) :
    ∃ cuts, segments (a ++ ' ' :: '&' :: ' ' :: b) = .ok cuts ∧
      List.Forall₂ (fun cut part => Text.trim cut = Text.trim part) cuts (parts ++ others) := by
  obtain ⟨cuts, cut, related⟩ := segments_concat_space ha
  obtain ⟨first, behind, rfl⟩ := exists_of_segmentsFrom hb
  rw [List.reverse_nil, List.nil_append] at hb ⊢
  have joined := segments_append_ampersand cut (' ' :: b)
  rw [segments_space hb, List.append_assoc] at joined
  refine ⟨cuts ++ (' ' :: first) :: behind, joined, ?_⟩
  apply List.rel_append related
  exact .cons (Text.trim_cons (by decide) first) (List.forall₂_same.mpr fun _ _ => rfl)

variable {q₁ q₂ : String}

/-- The conditions of two queries joined by an ampersand are those of the one and then those of
the other. -/
theorem parse_conjunction {c₁ c₂ : List Condition} (h₁ : parse q₁ = .ok c₁)
    (h₂ : parse q₂ = .ok c₂) : parse (q₁ ++ " & " ++ q₂) = .ok (c₁ ++ c₂) := by
  obtain ⟨parts₁, cut₁, read₁⟩ := exists_segments_of_parse h₁
  obtain ⟨parts₂, cut₂, read₂⟩ := exists_segments_of_parse h₂
  obtain ⟨cuts, cut, related⟩ := segments_conjunction cut₁ cut₂
  have written : (q₁ ++ " & " ++ q₂).toList = q₁.toList ++ ' ' :: '&' :: ' ' :: q₂.toList := by
    simp
  have visible : '&' ∈ (q₁ ++ " & " ++ q₂).toList := by simp
  rw [← written] at cut
  rw [parse_of_visible visible (by decide) cut,
    Results.mapM_congr (related.imp fun _ _ same => parseConditionChars_trim same),
    Results.mapM_eq_ok_iff]
  exact List.rel_append read₁ read₂

end Query

namespace Predicate

/-- All conditions of two predicates. -/
def conjoin (p q : Predicate) : Predicate := ⟨p.conditions ++ q.conditions⟩

/-- Queries that compile make a query that compiles, with the conditions of both. -/
theorem compile_conjunction {catalog : Catalog} {q₁ q₂ : String} {p₁ p₂ : Predicate}
    (h₁ : compile catalog q₁ = .ok p₁) (h₂ : compile catalog q₂ = .ok p₂) :
    compile catalog (q₁ ++ " & " ++ q₂) = .ok (p₁.conjoin p₂) := by
  obtain ⟨c₁, read₁, h₁⟩ := Results.bind_eq_ok_iff.mp h₁
  obtain ⟨b₁, bound₁, given₁⟩ := Results.bind_eq_ok_iff.mp h₁
  obtain ⟨c₂, read₂, h₂⟩ := Results.bind_eq_ok_iff.mp h₂
  obtain ⟨b₂, bound₂, given₂⟩ := Results.bind_eq_ok_iff.mp h₂
  cases given₁
  cases given₂
  have bound : (c₁ ++ c₂).mapM (bind catalog) = .ok (b₁ ++ b₂) := by
    rw [Results.mapM_eq_ok_iff] at bound₁ bound₂ ⊢
    exact List.rel_append bound₁ bound₂
  rw [compile, Query.parse_conjunction read₁ read₂]
  simp only [Bind.bind, Except.bind, bound]
  rfl

end Predicate

end SceneArchive
