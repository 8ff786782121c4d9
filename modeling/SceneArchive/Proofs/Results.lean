import Mathlib.Data.List.Forall2

/-!
# Results

When a computation of several steps succeeds, and what it gives then. A list is treated element
by element, and the first failure is the result of the whole.

* `bind_eq_ok_iff`, `map_eq_ok_iff`: each step succeeds with what the next one starts from.
* `mapM_eq_ok_iff`: the whole of a list succeeds exactly if every element does.
* `mapM_eq_error_iff`: else it fails with the first element that fails.
-/

namespace SceneArchive.Results

variable {ε α β : Type} {f : α → Except ε β}

theorem bind_eq_ok_iff {x : Except ε α} {b : β} :
    x >>= f = .ok b ↔ ∃ a, x = .ok a ∧ f a = .ok b := by
  cases x <;> simp [bind, Except.bind]

/-- A check that gives nothing goes before the rest. -/
theorem check_bind_eq_ok_iff {check : Except ε Unit} {x : Except ε β} {b : β} :
    (check >>= fun _ => x) = .ok b ↔ check = .ok () ∧ x = .ok b := by
  cases check <;> simp [bind, Except.bind]

theorem bind_eq_error_iff {x : Except ε α} {e : ε} :
    x >>= f = .error e ↔ x = .error e ∨ ∃ a, x = .ok a ∧ f a = .error e := by
  cases x <;> simp [bind, Except.bind]

theorem map_eq_ok_iff {x : Except ε α} {g : α → β} {b : β} :
    x.map g = .ok b ↔ ∃ a, x = .ok a ∧ g a = b := by
  cases x <;> simp [Except.map]

theorem map_eq_error_iff {x : Except ε α} {g : α → β} {e : ε} :
    x.map g = .error e ↔ x = .error e := by
  cases x <;> simp [Except.map]

theorem of_map_eq {g : α → β} (injective : Function.Injective g) {x y : Except ε α}
    (same : g <$> x = g <$> y) : x = y := by
  cases x <;> cases y <;> simp_all [Functor.map, Except.map, injective.eq_iff]

theorem mapM_cons_eq_ok_iff {x : α} {xs : List α} {ys : List β} :
    (x :: xs).mapM f = .ok ys ↔ ∃ y rest, f x = .ok y ∧ xs.mapM f = .ok rest ∧ ys = y :: rest := by
  rw [List.mapM_cons]
  cases hx : f x with
  | error e => simp [bind, Except.bind]
  | ok y =>
    cases hxs : xs.mapM f with
    | error e => simp [bind, Except.bind]
    | ok rest => simp [bind, Except.bind, pure, Except.pure, eq_comm]

theorem mapM_eq_ok_iff {xs : List α} {ys : List β} :
    xs.mapM f = .ok ys ↔ List.Forall₂ (fun x y => f x = .ok y) xs ys := by
  induction xs generalizing ys with
  | nil => cases ys <;> simp [pure, Except.pure]
  | cons x xs ih =>
    rw [mapM_cons_eq_ok_iff, List.forall₂_cons_left_iff]
    simp only [ih]

theorem mapM_cons_eq_error_iff {x : α} {xs : List α} {e : ε} :
    (x :: xs).mapM f = .error e ↔
      f x = .error e ∨ (∃ y, f x = .ok y) ∧ xs.mapM f = .error e := by
  rw [List.mapM_cons]
  cases f x with
  | error e' => simp [bind, Except.bind]
  | ok y => cases xs.mapM f <;> simp [bind, Except.bind, pure, Except.pure]

/-- The failure of a list is that of its first element that fails. -/
theorem mapM_eq_error_iff {xs : List α} {e : ε} :
    xs.mapM f = .error e ↔ ∃ before x behind, xs = before ++ x :: behind ∧
      (∀ b ∈ before, ∃ y, f b = .ok y) ∧ f x = .error e := by
  induction xs with
  | nil => simp [pure, Except.pure]
  | cons x xs ih =>
    rw [mapM_cons_eq_error_iff, ih]
    constructor
    · rintro (failed | ⟨succeeds, before, x', behind, rfl, earlier, failed⟩)
      · exact ⟨[], x, xs, rfl, by simp, failed⟩
      · exact ⟨x :: before, x', behind, rfl, List.forall_mem_cons.mpr ⟨succeeds, earlier⟩, failed⟩
    · rintro ⟨before, x', behind, whole, earlier, failed⟩
      cases before with
      | nil =>
        obtain ⟨rfl, rfl⟩ := List.cons.inj whole
        exact .inl failed
      | cons b before =>
        obtain ⟨rfl, rfl⟩ := List.cons.inj whole
        obtain ⟨succeeds, earlier⟩ := List.forall_mem_cons.mp earlier
        exact .inr ⟨succeeds, before, x', behind, rfl, earlier, failed⟩

theorem mapM_append_of_eq_ok {xs zs : List α} {ys : List β} (h : xs.mapM f = .ok ys) :
    (xs ++ zs).mapM f = (zs.mapM f).map (ys ++ ·) := by
  rw [List.mapM_append, h]
  cases zs.mapM f <;> rfl

/-- Lists whose elements have the same results one by one have the same result. -/
theorem mapM_congr {γ : Type} {g : γ → Except ε β} {xs : List α} {zs : List γ}
    (h : List.Forall₂ (fun x z => f x = g z) xs zs) : xs.mapM f = zs.mapM g := by
  induction h with
  | nil => rfl
  | cons same _ ih => rw [List.mapM_cons, List.mapM_cons, same, ih]

theorem mapM_map_eq_ok {γ : Type} {g : γ → α} {k : γ → β} {xs : List γ}
    (h : ∀ x ∈ xs, f (g x) = .ok (k x)) : (xs.map g).mapM f = .ok (xs.map k) := by
  rw [mapM_eq_ok_iff, List.forall₂_map_left_iff, List.forall₂_map_right_iff, List.forall₂_same]
  exact h

theorem exists_of_forall₂ {R : α → β → Prop} {xs : List α} {ys : List β}
    (h : List.Forall₂ R xs ys) {y : β} (hy : y ∈ ys) : ∃ x ∈ xs, R x y := by
  induction h with
  | nil => cases hy
  | @cons x y' xs ys hx _ ih =>
    rcases List.mem_cons.mp hy with rfl | hy
    · exact ⟨x, by simp, hx⟩
    · obtain ⟨x', hx', related⟩ := ih hy
      exact ⟨x', List.mem_cons_of_mem x hx', related⟩

/-- Every result is that of an element. -/
theorem exists_of_mapM_eq_ok {xs : List α} {ys : List β} (h : xs.mapM f = .ok ys) {y : β}
    (hy : y ∈ ys) : ∃ x ∈ xs, f x = .ok y :=
  exists_of_forall₂ (mapM_eq_ok_iff.mp h) hy

theorem length_of_mapM_eq_ok {xs : List α} {ys : List β} (h : xs.mapM f = .ok ys) :
    ys.length = xs.length :=
  (mapM_eq_ok_iff.mp h).length_eq.symm

end SceneArchive.Results
