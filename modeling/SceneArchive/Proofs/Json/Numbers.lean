import SceneArchive.Json.Reader
import SceneArchive.Proofs.Decimal.Quotients
import SceneArchive.Proofs.Json.Within
import SceneArchive.Proofs.NameMap

/-!
# Numbers in a tree

A JSON text has no number beyond the doubles. The numbers of a tree that was read are integers of
sixty-four bits, signed or unsigned, and finite doubles.

* `inRange_of_read?`: the numbers of a tree that was read from a text.
-/

namespace SceneArchive

/-- Whether a number is an integer of sixty-four bits, signed or unsigned, or a finite double. -/
def Number.InRange : Number → Prop
  | .int n => -(twoTo 63 : Int) ≤ n ∧ n < (twoTo 64 : Int)
  | .float x => Binary64.isFinite x = true

theorem Number.isFinite_ofInt {n : Int} (h : (Number.int n).InRange) :
    Binary64.isFinite (Binary64.ofInt n) = true := by
  have large : (twoTo 64 : Int) ≤ twoTo 1023 := by decide +kernel
  have half : (twoTo 63 : Int) < twoTo 64 := by decide
  obtain ⟨least, most⟩ := h
  apply Binary64.isFinite_ofRatio
  rw [Nat.one_mul]
  omega

namespace Json

/-- Whether all numbers of a tree are in the range of JSON. -/
def InRange (t : Json) : Prop := ∀ n, (number n).Within t → n.InRange

variable {t : Json} {n : Number} {items : List Json} {fields : Fields}

theorem inRange_number_iff : (number n).InRange ↔ n.InRange := by
  constructor
  · intro all
    exact all n .refl
  · intro this m inside
    cases inside with
    | refl => exact this

theorem inRange_array_iff : (array items).InRange ↔ ∀ t ∈ items, t.InRange := by
  simp only [InRange, within_array_iff, reduceCtorEq, false_or]
  constructor
  · intro all t mem n inside
    exact all n ⟨t, mem, inside⟩
  · rintro all n ⟨t, mem, inside⟩
    exact all t mem n inside

theorem inRange_object_iff : (object fields).InRange ↔ ∀ m ∈ fields, m.2.InRange := by
  simp only [InRange, within_object_iff, reduceCtorEq, false_or]
  constructor
  · intro all m mem n inside
    exact all n ⟨m, mem, inside⟩
  · rintro all n ⟨m, mem, inside⟩
    exact all m mem n inside

theorem inRange_null : null.InRange := by
  rintro n ⟨⟩

theorem inRange_string (s : String) : (string s).InRange := by
  rintro n ⟨⟩

theorem inRange_of_readWord? {s after : List Char} (h : readWord? s = some (t, after)) :
    t.InRange := by
  unfold readWord? at h
  split at h <;> cases h <;> rintro n ⟨⟩

/-! ## Literals -/

/-- The digits that are taken fit sixty-four bits. -/
theorem leadingDigits_lt {start : Nat} (small : start < twoTo 64) (digits : List Char) :
    (leadingDigits start digits).1 < twoTo 64 := by
  induction digits generalizing start with
  | nil => exact small
  | cons c rest ih =>
    rw [leadingDigits]
    split
    · next next => exact ih next
    · exact small

theorem isFinite_of_scaleDecimal? {coefficient : Nat} {exponent : Int} {x : Float}
    (small : coefficient < twoTo 64) (h : scaleDecimal? coefficient exponent = some x) :
    Binary64.isFinite x = true := by
  have start : Binary64.isFinite (Binary64.ofRatio false coefficient 1) = true :=
    Binary64.isFinite_ofRatio (small.trans_le (by decide +kernel))
  have quotient {y : Float} (finite : Binary64.isFinite y = true) {n : Nat} (few : n ≤ 308)
      (some : 0 < n) : Binary64.isFinite (y / Binary64.ofRatio false (tenTo n) 1) = true :=
    Binary64.isFinite_div finite (Binary64.isFinite_tenTo few) (Binary64.le_shift_tenTo few some)
  simp only [scaleDecimal?] at h
  split at h
  · split at h
    · obtain rfl := Option.some.inj h
      exact start
    · cases h
  · split at h
    · split at h
      · next finite =>
        obtain rfl := Option.some.inj h
        exact finite
      · cases h
    · split at h
      · obtain rfl := Option.some.inj h
        exact quotient start (by omega) (by omega)
      · split at h
        · obtain rfl := Option.some.inj h
          exact quotient (quotient start le_rfl (by decide)) (by omega) (by omega)
        · obtain rfl := Option.some.inj h
          exact Binary64.isFinite_ofRatio (by decide +kernel)

theorem inRange_of_floatLiteral? {m : Decimal.Numeral} (h : floatLiteral? m = some n) :
    n.InRange := by
  simp only [floatLiteral?] at h
  obtain ⟨x, scaled, h⟩ := Option.bind_eq_some_iff.mp h
  have finite : Binary64.isFinite x = true :=
    isFinite_of_scaleDecimal? (leadingDigits_lt (leadingDigits_lt (by decide) _) _) scaled
  cases h
  split
  · exact Binary64.isFinite_neg finite
  · exact finite

theorem inRange_of_intLiteral? {negative : Bool} {digits : List Char}
    (h : intLiteral? negative digits = some n) : n.InRange := by
  simp only [intLiteral?] at h
  split at h
  · split at h
    · obtain rfl := Option.some.inj h
      exact Binary64.isFinite_neg (by decide)
    · split at h
      · obtain rfl := Option.some.inj h
        have : (0 : Int) < twoTo 64 := by decide
        simp only [Number.InRange]
        omega
      · exact inRange_of_floatLiteral? h
  · split at h
    · obtain rfl := Option.some.inj h
      simp only [Number.InRange]
      omega
    · exact inRange_of_floatLiteral? h

theorem inRange_of_readNumber? {s after : List Char} (h : readNumber? s = some (n, after)) :
    n.InRange := by
  -- The literal is read in one of two ways, whatever its parts are.
  have literal {negative : Bool} {whole rest : List Char} {fraction : Option (List Char)}
      (h : (do
        let power ← readExponent? rest
        if fraction.isNone && power.1.isNone then
          some (← intLiteral? negative whole, power.2)
        else
          some (← floatLiteral? ⟨negative, whole, fraction.getD [], power.1.getD 0⟩, power.2)) =
        some (n, after)) : n.InRange := by
    obtain ⟨power, -, h⟩ := Option.bind_eq_some_iff.mp h
    split at h
    · obtain ⟨m, read, h⟩ := Option.bind_eq_some_iff.mp h
      cases h
      exact inRange_of_intLiteral? read
    · obtain ⟨m, read, h⟩ := Option.bind_eq_some_iff.mp h
      cases h
      exact inRange_of_floatLiteral? read
  simp only [readNumber?] at h
  split at h
  all_goals
    split at h
    · cases h
    · split at h
      · split at h
        · cases h
        · exact literal h
      · exact literal h

/-! ## Trees -/

mutual

theorem inRange_of_readValue : ∀ {fuel depth : Nat} {s after : List Char} {t : Json},
    readValue fuel depth s = some (t, after) → t.InRange
  | 0, _, _, _, _, h => by cases h
  | fuel + 1, depth, s, after, t, h => by
    unfold readValue at h
    split at h
    · obtain ⟨⟨text, rest⟩, -, h⟩ := Option.bind_eq_some_iff.mp h
      cases h
      exact inRange_string text
    · split at h
      · cases h
      · split at h
        · cases h
          exact inRange_array_iff.mpr (List.forall_mem_nil _)
        · exact inRange_of_readItems (List.forall_mem_nil _) h
    · split at h
      · cases h
      · split at h
        · cases h
          exact inRange_object_iff.mpr (List.forall_mem_nil _)
        · exact inRange_of_readFields (List.forall_mem_nil _) h
    · rcases (Option.orElse_eq_some _ _ _).mp h with word | ⟨-, number⟩
      · exact inRange_of_readWord? word
      · obtain ⟨⟨n, rest⟩, read, h⟩ := Option.map_eq_some_iff.mp number
        cases h
        exact inRange_number_iff.mpr (inRange_of_readNumber? read)

theorem inRange_of_readItems : ∀ {fuel depth : Nat} {items : List Json} {s after : List Char}
    {t : Json}, (∀ t ∈ items, t.InRange) →
    readItems fuel depth items s = some (t, after) → t.InRange
  | 0, _, _, _, _, _, _, h => by cases h
  | fuel + 1, depth, items, s, after, t, all, h => by
    unfold readItems at h
    obtain ⟨⟨item, rest⟩, read, h⟩ := Option.bind_eq_some_iff.mp h
    have both : ∀ t ∈ item :: items, t.InRange :=
      List.forall_mem_cons.mpr ⟨inRange_of_readValue read, all⟩
    dsimp only at h
    split at h
    · exact inRange_of_readItems both h
    · cases h
      exact inRange_array_iff.mpr fun t mem => both t (List.mem_reverse.mp mem)
    · cases h

theorem inRange_of_readFields : ∀ {fuel depth : Nat} {fields : Fields} {s after : List Char}
    {t : Json}, (∀ m ∈ fields, m.2.InRange) →
    readFields fuel depth fields s = some (t, after) → t.InRange
  | 0, _, _, _, _, _, _, h => by cases h
  | fuel + 1, depth, fields, s, after, t, all, h => by
    unfold readFields at h
    split at h
    · obtain ⟨⟨name, behind⟩, -, h⟩ := Option.bind_eq_some_iff.mp h
      dsimp only at h
      split at h
      · obtain ⟨⟨value, rest⟩, read, h⟩ := Option.bind_eq_some_iff.mp h
        have both : ∀ m ∈ NameMap.insert name value fields, m.2.InRange := by
          intro m mem
          rcases NameMap.mem_insert mem with rfl | mem
          · exact inRange_of_readValue read
          · exact all m mem
        dsimp only at h
        split at h
        · exact inRange_of_readFields both h
        · cases h
          exact inRange_object_iff.mpr both
        · cases h
      · cases h
    · cases h

end

/-- The numbers of a tree that was read from a text are in range. -/
theorem inRange_of_read? {text : String} (h : read? text = some t) : t.InRange := by
  obtain ⟨⟨tree, after⟩, read, h⟩ := Option.bind_eq_some_iff.mp h
  dsimp only at h
  split at h
  · cases h
    exact inRange_of_readValue read
  · cases h

end Json

end SceneArchive
