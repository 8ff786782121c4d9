import Mathlib.Data.Finset.Card
import SceneArchive.Proofs.Results
import SceneArchive.Store.Read

/-!
# Encounters of a traversal

A traversal comes to an end on any links between finitely many records, and expands each of them
once at most. To see what it does on its way, its encounters are noted: each call for a record with
its answer, in the order in which the calls begin. The noting traversal has no bound on its depth
built into its answers: where it would go deeper than allowed it gives nothing at all.

* `Follows`: how encounters extend the visited references one by one.
* `traces_explore`: the traversal does not go deeper than there are records not yet visited, and
  its encounters extend the visited references.
* `calls_orderly`: what holds of every sequence of calls that share their visited references.
-/

namespace SceneArchive

/-- Whether the links of a source lead to records that it lists, if they lead anywhere. -/
structure Source.Closed (s : Source) : Prop where
  load : ∀ {r e}, s.load r = .ok e → e.ref ∈ s.refs
  children : ∀ {r kind es}, s.children r kind = .ok es → ∀ e ∈ es, e.ref ∈ s.refs

theorem Source.closed_ofRecords (schema : Schema) (records : List Entity) :
    (ofRecords schema records).Closed where
  load := by
    intro r e loaded
    unfold ofRecords at loaded
    simp only at loaded
    split at loaded
    · next found =>
      cases loaded
      exact List.mem_map_of_mem (List.mem_of_find?_eq_some found)
    · cases loaded
  children := by
    intro r kind es listed e mem
    cases listed
    rw [List.mem_mergeSort] at mem
    exact List.mem_map_of_mem (List.mem_of_mem_filter mem)

theorem Entity.ref_readBack {e e' : Entity} (h : e.readBack = .ok e') : e'.ref = e.ref := by
  cases e with
  | observation r =>
    obtain ⟨r', read, rfl⟩ := Results.map_eq_ok_iff.mp h
    obtain ⟨o, -, same⟩ := Results.bind_eq_ok_iff.mp read
    cases same
    rfl
  | directory => cases h; rfl
  | projection => cases h; rfl
  | axis => cases h; rfl
  | georeference => cases h; rfl

theorem Store.closed_source (s : Store) : s.source.Closed := by
  have listed {kind : Kind} {e : Entity} (mem : e ∈ s.rows kind) : e.ref ∈ s.refs :=
    List.mem_flatMap.mpr ⟨kind, kind.mem_all, List.mem_map_of_mem mem⟩
  constructor
  · intro r e loaded
    obtain ⟨found, got, same⟩ := Results.bind_eq_ok_iff.mp loaded
    unfold Store.get? at got
    split at got
    · cases got
      cases same
    · next row found =>
      obtain ⟨e', read, rfl⟩ := Results.map_eq_ok_iff.mp got
      cases same
      rw [Entity.ref_readBack read]
      exact listed (List.mem_of_find?_eq_some found)
  · intro r kind es read e mem
    change s.children r kind = .ok es at read
    unfold Store.children at read
    split at read
    · obtain ⟨row, hRow, read⟩ := Results.exists_of_mapM_eq_ok read mem
      rw [Entity.ref_readBack read]
      exact listed (List.mem_of_mem_filter hRow)
    · cases read

namespace Flatten

/-! ## Noting encounters -/

/-- A call for a record: its reference, whether that was visited before, and the answer. -/
structure Encounter where
  ref : Ref
  known : Bool
  answer : Except IndexError Json

/-- A traversal that notes its encounters, and gives nothing if it goes too deep. -/
abbrev Exploration (α : Type) :=
  ExceptT IndexError (StateT (List Ref) (StateT (List Encounter) Option)) α

/-- Notes a call in front of the encounters that it leads to. -/
def noted (e : Entity) (call : Exploration Json) : Exploration Json :=
  ExceptT.mk fun visited met => do
    let ((answer, after), inner) ← (call.run.run visited).run []
    some ((answer, after), met ++ ⟨e.ref, visited.contains e.ref, answer⟩ :: inner)

/-- The traversal with its encounters noted, if it goes at most `depth` levels deep. -/
def explore (s : Source) : Nat → List Kind → Entity → Exploration Json
  | 0, _, _ => ExceptT.mk fun _ _ => none
  | depth + 1, path, e => noted e (visit s (explore s depth) path e)

/-- The references whose expansion was begun. -/
def begun (met : List Encounter) : List Ref := (met.filter (!·.known)).map (·.ref)

/-- The encounters that lead from visited references to others: one that is visited is answered by
a marker, and any other is visited from then on. -/
inductive Follows : List Ref → List Encounter → List Ref → Prop
  | nil (visited : List Ref) : Follows visited [] visited
  | again {visited after : List Ref} {r : Ref} {met : List Encounter} (seen : r ∈ visited)
      (rest : Follows visited met after) :
      Follows visited (⟨r, true, .ok (marker r)⟩ :: met) after
  | first {visited after : List Ref} {r : Ref} {answer : Except IndexError Json}
      {met : List Encounter} (new : r ∉ visited) (rest : Follows (r :: visited) met after) :
      Follows visited (⟨r, false, answer⟩ :: met) after

namespace Follows

variable {visited middle after : List Ref} {met more : List Encounter}

theorem append (h : Follows visited met middle) (h' : Follows middle more after) :
    Follows visited (met ++ more) after := by
  induction h with
  | nil => exact h'
  | again seen _ ih => exact .again seen (ih h')
  | first new _ ih => exact .first new (ih h')

theorem after_eq (h : Follows visited met after) : after = (begun met).reverse ++ visited := by
  induction h with
  | nil => rfl
  | again seen _ ih => exact ih
  | first new _ ih => simp [begun, ih]

theorem subset (h : Follows visited met after) : visited ⊆ after := by
  rw [h.after_eq]
  exact List.subset_append_right _ _

theorem nodup_begun (h : Follows visited met after) :
    (begun met).Nodup ∧ ∀ r ∈ begun met, r ∉ visited := by
  induction h with
  | nil => exact ⟨List.nodup_nil, by simp [begun]⟩
  | again seen _ ih => exact ih
  | @first visited after r answer met new _ ih =>
    obtain ⟨distinct, apart⟩ := ih
    have cons : begun (⟨r, false, answer⟩ :: met) = r :: begun met := rfl
    rw [cons]
    refine ⟨List.nodup_cons.mpr ⟨?_, distinct⟩, ?_⟩
    · intro again
      exact apart r again List.mem_cons_self
    · intro r' mem
      rcases List.mem_cons.mp mem with rfl | mem
      · exact new
      · intro seen
        exact apart r' mem (List.mem_cons_of_mem r seen)

/-- A known reference was visited at the start or begun by an earlier encounter, and is answered
by its marker. -/
theorem answer_of_known {c : Encounter} {earlier later : List Encounter}
    (h : Follows visited (earlier ++ c :: later) after) (known : c.known = true) :
    (c.ref ∈ visited ∨ c.ref ∈ begun earlier) ∧ c.answer = .ok (marker c.ref) := by
  induction earlier generalizing visited with
  | nil =>
    cases h with
    | again seen _ => exact ⟨.inl seen, rfl⟩
    | first => cases known
  | cons d earlier ih =>
    cases h with
    | again seen rest => exact ih rest
    | @first _ _ r answer _ new rest =>
      obtain ⟨seen | seen, answered⟩ := ih rest
      · rcases List.mem_cons.mp seen with same | seen
        · exact ⟨.inr (same ▸ List.mem_cons_self), answered⟩
        · exact ⟨.inl seen, answered⟩
      · exact ⟨.inr (List.mem_cons_of_mem r seen), answered⟩

end Follows

/-! ## Exploring is traversing -/

section

variable {α β : Type}

theorem Traversal.run_bind (x : Traversal α) (f : α → Traversal β) (visited : List Ref) :
    (x >>= f).run visited =
      match x.run visited with
      | (.ok a, after) => (f a).run after
      | (.error e, after) => (.error e, after) := by
  have split : (x >>= f).run visited =
      (ExceptT.bindCont f (x.run visited).1 : StateM (List Ref) _) (x.run visited).2 := rfl
  rw [split]
  obtain ⟨answer, after⟩ := x.run visited
  cases answer <;> rfl

theorem Exploration.run_bind (x : Exploration α) (f : α → Exploration β) (visited : List Ref)
    (met : List Encounter) :
    ((x >>= f).run.run visited).run met =
      ((x.run.run visited).run met).bind fun out =>
        match out.1.1 with
        | .ok a => ((f a).run.run out.1.2).run out.2
        | .error e => some ((.error e, out.1.2), out.2) := by
  have split : ((x >>= f).run.run visited).run met =
      ((x.run.run visited).run met).bind fun out =>
        ((ExceptT.bindCont f out.1.1 : StateT (List Ref) (StateT (List Encounter) Option) _).run
          out.1.2).run out.2 := rfl
  rw [split]
  congr 1
  funext out
  obtain ⟨⟨answer, after⟩, met⟩ := out
  cases answer <;> rfl

end

section

variable {s : Source} {path : List Kind} {e : Entity} {visited : List Ref}

theorem Traversal.run_visit (next : List Kind → Entity → Traversal Json) :
    (visit s next path e).run visited =
      if e.ref ∈ visited then (.ok (marker e.ref), visited)
      else (members s (next (e.kind :: path)) (e.kind :: path) e).run (e.ref :: visited) := by
  have split : (visit s next path e).run visited =
      (if visited.contains e.ref then pure (marker e.ref)
        else do
          modify (e.ref :: ·)
          members s (next (e.kind :: path)) (e.kind :: path) e : Traversal Json).run visited := rfl
  simp only [split, List.contains_iff_mem]
  split <;> rfl

theorem Exploration.run_visit (next : List Kind → Entity → Exploration Json)
    (met : List Encounter) :
    ((visit s next path e).run.run visited).run met =
      if e.ref ∈ visited then some ((.ok (marker e.ref), visited), met)
      else ((members s (next (e.kind :: path)) (e.kind :: path) e).run.run
        (e.ref :: visited)).run met := by
  have split : ((visit s next path e).run.run visited).run met =
      ((if visited.contains e.ref then pure (marker e.ref)
        else do
          modify (e.ref :: ·)
          members s (next (e.kind :: path)) (e.kind :: path) e :
            Exploration Json).run.run visited).run met := rfl
  simp only [split, List.contains_iff_mem]
  split <;> rfl

theorem Exploration.run_noted (call : Exploration Json) (met : List Encounter) :
    ((noted e call).run.run visited).run met =
      ((call.run.run visited).run []).map fun out =>
        (out.1, met ++ ⟨e.ref, visited.contains e.ref, out.1.1⟩ :: out.2) := by
  change ((call.run.run visited).run []).bind _ = _
  cases (call.run.run visited).run [] <;> rfl

end

/-- Whether an exploration ends, answers and visits as a traversal does, and its encounters lead
from the visited references to those visited at its end. -/
def Traces {α : Type} (x : Exploration α) (y : Traversal α) (visited : List Ref) : Prop :=
  ∃ answer after new, (∀ met, (x.run.run visited).run met = some ((answer, after), met ++ new)) ∧
    y.run visited = (answer, after) ∧ Follows visited new after

section

variable {α β : Type} {visited : List Ref}

theorem traces_pure (a : α) : Traces (pure a) (pure a) visited :=
  ⟨.ok a, visited, [], fun met => by rw [List.append_nil]; rfl, rfl, .nil visited⟩

theorem traces_bind {x : Exploration α} {y : Traversal α} {f : α → Exploration β}
    {g : α → Traversal β} (first : Traces x y visited)
    (next : ∀ a after, visited ⊆ after → Traces (f a) (g a) after) :
    Traces (x >>= f) (y >>= g) visited := by
  obtain ⟨answer, middle, new, explored, traversed, follows⟩ := first
  cases answer with
  | error e =>
    refine ⟨.error e, middle, new, ?_, ?_, follows⟩
    · intro met
      rw [Exploration.run_bind, explored]
      rfl
    · rw [Traversal.run_bind, traversed]
  | ok a =>
    obtain ⟨answer, after, more, explored', traversed', follows'⟩ := next a middle follows.subset
    refine ⟨answer, after, new ++ more, ?_, ?_, follows.append follows'⟩
    · intro met
      rw [Exploration.run_bind, explored, ← List.append_assoc]
      exact explored' (met ++ new)
    · rw [Traversal.run_bind, traversed]
      exact traversed'

theorem traces_ofExcept_bind {x : Except IndexError α} {f : α → Exploration β}
    {g : α → Traversal β} (next : ∀ a, x = .ok a → Traces (f a) (g a) visited) :
    Traces (MonadExcept.ofExcept x >>= f) (MonadExcept.ofExcept x >>= g) visited := by
  cases x with
  | ok a => exact next a rfl
  | error e =>
    exact ⟨.error e, visited, [], fun met => by rw [List.append_nil]; rfl, rfl, .nil visited⟩

theorem traces_mapM {f : α → Exploration β} {g : α → Traversal β} {xs : List α}
    (each : ∀ x ∈ xs, ∀ after, visited ⊆ after → Traces (f x) (g x) after) :
    Traces (xs.mapM f) (xs.mapM g) visited := by
  induction xs generalizing visited with
  | nil =>
    rw [List.mapM_nil, List.mapM_nil]
    exact traces_pure []
  | cons x xs ih =>
    rw [List.mapM_cons, List.mapM_cons]
    refine traces_bind (each x List.mem_cons_self visited (List.Subset.refl _)) ?_
    intro y after grown
    refine traces_bind (ih ?_) fun ys after' _ => traces_pure (y :: ys)
    intro x' mem after' grown'
    exact each x' (List.mem_cons_of_mem x mem) after' (List.Subset.trans grown grown')

end

section

variable {s : Source} {visited : List Ref} {e : Entity}

theorem traces_members (closed : s.Closed) {next : Entity → Exploration Json}
    {next' : Entity → Traversal Json} (path : List Kind)
    (each : ∀ x, x.ref ∈ s.refs → ∀ after, visited ⊆ after → Traces (next x) (next' x) after) :
    Traces (members s next path e) (members s next' path e) visited := by
  have parent : Traces (parentMember s next path e) (parentMember s next' path e) visited := by
    unfold parentMember
    cases openParent? s path e with
    | none => exact traces_pure []
    | some parent =>
      refine traces_ofExcept_bind ?_
      intro record loaded
      refine traces_bind (each record (closed.load loaded) visited (List.Subset.refl _)) ?_
      intro tree after _
      exact traces_pure _
  have children (kind : Kind) (after : List Ref) (grown : visited ⊆ after) :
      Traces (childrenMember s next e.ref kind) (childrenMember s next' e.ref kind) after := by
    unfold childrenMember
    refine traces_ofExcept_bind ?_
    intro records listed
    refine traces_bind (traces_mapM ?_) fun trees _ _ => traces_pure _
    intro record mem after' grown'
    exact each record (closed.children listed record mem) after' (List.Subset.trans grown grown')
  unfold members
  refine traces_bind parent ?_
  intro parents after grown
  refine traces_bind (traces_mapM ?_) fun lists _ _ => traces_pure _
  intro kind _ after' grown'
  exact children kind after' (List.Subset.trans grown grown')

theorem traces_visit (closed : s.Closed) {next : List Kind → Entity → Exploration Json}
    {next' : List Kind → Entity → Traversal Json} (path : List Kind)
    (each : e.ref ∉ visited → ∀ path x, x.ref ∈ s.refs → ∀ after, e.ref :: visited ⊆ after →
      Traces (next path x) (next' path x) after) :
    Traces (noted e (visit s next path e)) (visit s next' path e) visited := by
  by_cases seen : e.ref ∈ visited
  · refine ⟨.ok (marker e.ref), visited, [⟨e.ref, true, .ok (marker e.ref)⟩], ?_, ?_,
      .again seen (.nil visited)⟩
    · intro met
      rw [Exploration.run_noted, Exploration.run_visit, if_pos seen, List.contains_iff_mem.mpr seen]
      rfl
    · rw [Traversal.run_visit, if_pos seen]
  · obtain ⟨answer, after, new, explored, traversed, follows⟩ :=
      traces_members (e := e) closed (e.kind :: path) (each seen (e.kind :: path))
    refine ⟨answer, after, ⟨e.ref, false, answer⟩ :: new, ?_, ?_, .first seen follows⟩
    · intro met
      have unseen : visited.contains e.ref = false := by simpa using seen
      rw [Exploration.run_noted, Exploration.run_visit, if_neg seen, explored, unseen]
      rfl
    · rw [Traversal.run_visit, if_neg seen, traversed]

/-- The number of listed records that are not visited yet. -/
def unvisited (s : Source) (visited : List Ref) : Nat := (s.refs.toFinset \ visited.toFinset).card

theorem unvisited_le_length (s : Source) (visited : List Ref) :
    unvisited s visited ≤ s.refs.length :=
  (Finset.card_le_card Finset.sdiff_subset).trans s.refs.toFinset_card_le

theorem unvisited_lt {r : Ref} (listed : r ∈ s.refs) (new : r ∉ visited) {after : List Ref}
    (grown : r :: visited ⊆ after) : unvisited s after < unvisited s visited := by
  apply Finset.card_lt_card
  refine Finset.ssubset_iff_subset_ne.mpr ⟨?_, ?_⟩
  · intro r' mem
    simp only [Finset.mem_sdiff, List.mem_toFinset] at mem ⊢
    exact ⟨mem.1, fun seen => mem.2 (grown (List.mem_cons_of_mem r seen))⟩
  · intro same
    have mem : r ∈ s.refs.toFinset \ visited.toFinset := by simp [listed, new]
    rw [← same] at mem
    simp [grown List.mem_cons_self] at mem

/-- A listed record is traversed within as many levels as there are records not visited. -/
theorem traces_explore (closed : s.Closed) {depth depth' : Nat} (path : List Kind)
    (listed : e.ref ∈ s.refs) (enough : unvisited s visited < depth)
    (enough' : unvisited s visited < depth') :
    Traces (explore s depth path e) (expand s depth' path e) visited := by
  induction depth generalizing depth' path e visited with
  | zero => exact absurd enough (Nat.not_lt_zero _)
  | succ depth ih =>
    obtain ⟨depth', rfl⟩ := Nat.exists_eq_add_one.mpr (Nat.zero_lt_of_lt enough')
    apply traces_visit closed path
    intro new path x listedX after grown
    have fewer : unvisited s after < unvisited s visited := unvisited_lt listed new grown
    exact ih path listedX (by omega) (by omega)

theorem traces_tree (closed : s.Closed) {depth : Nat} (enough : s.refs.length + 2 ≤ depth) :
    Traces (explore s depth [] e) (tree s e) visited := by
  obtain ⟨depth, rfl⟩ := Nat.exists_eq_add_one.mpr (Nat.lt_of_lt_of_le (Nat.succ_pos _) enough)
  apply traces_visit closed []
  intro _ path x listed after _
  have bound : unvisited s after ≤ s.refs.length := unvisited_le_length s after
  exact traces_explore closed path listed (by omega) (by omega)

end

/-! ## Calls that share what is visited -/

/-- A call for the tree of a record: what was visited before and after it, its answer and its
encounters. -/
structure Call where
  root : Entity
  before : List Ref
  answer : Except IndexError Json
  after : List Ref
  met : List Encounter

/-- Calls for the trees of records, each of which starts from what those before it visited, if none
goes deeper than `depth` levels. -/
def calls (s : Source) (depth : Nat) : List Ref → List Entity → Option (List Call)
  | _, [] => some []
  | visited, e :: es => do
    let ((answer, after), met) ← ((explore s depth [] e).run.run visited).run []
    let rest ← calls s depth after es
    return ⟨e, visited, answer, after, met⟩ :: rest

/-- What a call does: it gives what the traversal gives, adds exactly what it began to expand, and
answers every other encounter, which is of a reference visited before, with an object that has one
member and names the reference in it. -/
structure Call.IsOrderly (s : Source) (c : Call) : Prop where
  traverses : (tree s c.root).run c.before = (c.answer, c.after)
  visits : c.after = (begun c.met).reverse ++ c.before
  marks : ∀ earlier x later, c.met = earlier ++ x :: later → x.known = true →
    (x.ref ∈ c.before ∨ x.ref ∈ begun earlier) ∧
      x.answer = .ok (.object
        [("$visited", .string (x.ref.kind.name ++ "/" ++ toString x.ref.id))])

/-- Calls on finitely many records end, whatever the links between them, and no record is expanded
twice by all of them together. -/
theorem calls_orderly {s : Source} (closed : s.Closed) {depth : Nat}
    (enough : s.refs.length + 2 ≤ depth) (visited : List Ref) (roots : List Entity) :
    ∃ cs, calls s depth visited roots = some cs ∧ cs.map (·.root) = roots ∧
      (∀ c ∈ cs, c.IsOrderly s) ∧ (cs.flatMap fun c => begun c.met).Nodup ∧
        ∀ r ∈ cs.flatMap fun c => begun c.met, r ∉ visited := by
  induction roots generalizing visited with
  | nil => exact ⟨[], rfl, rfl, by simp, List.nodup_nil, by simp⟩
  | cons e roots ih =>
    have traced : Traces (explore s depth [] e) (tree s e) visited := traces_tree closed enough
    obtain ⟨answer, after, met, explored, traversed, follows⟩ := traced
    obtain ⟨cs, run, same, orderly, distinct, apart⟩ := ih after
    have visits : after = (begun met).reverse ++ visited := follows.after_eq
    let c : Call := ⟨e, visited, answer, after, met⟩
    refine ⟨c :: cs, ?_, by rw [List.map_cons, same], ?_, ?_, ?_⟩
    · rw [calls, explored]
      change (calls s depth after roots >>= _) = _
      rw [run]
      rfl
    · intro c' mem
      rcases List.mem_cons.mp mem with rfl | mem
      · refine ⟨traversed, visits, ?_⟩
        intro earlier x later written known
        change met = _ at written
        rw [written] at follows
        exact follows.answer_of_known known
      · exact orderly c' mem
    · rw [List.flatMap_cons, List.nodup_append]
      refine ⟨follows.nodup_begun.1, distinct, ?_⟩
      rintro r first r' later rfl
      apply apart r later
      rw [visits]
      exact List.mem_append_left _ (List.mem_reverse.mpr first)
    · intro r mem
      rw [List.flatMap_cons, List.mem_append] at mem
      rcases mem with first | later
      · exact follows.nodup_begun.2 r first
      · intro seen
        exact apart r later (follows.subset seen)

/-- An axis. -/
def eastAxis : Entity :=
  .axis ⟨1, "created", "updated", ⟨1, ⟨"Easting", "E", "east", "LinearUnit", "metre", 1⟩⟩⟩

/-- A source that loads the axis in place of its projection. -/
def ownParent : Source where
  schema := .standard
  refs := [eastAxis.ref]
  load _ := .ok eastAxis
  children _ _ := .ok []

theorem closed_ownParent : ownParent.Closed := by
  constructor
  · intro r e loaded
    cases loaded
    exact List.mem_cons_self
  · intro r kind es listed e mem
    cases listed
    cases mem

/-- Asked for twice, the axis is expanded by the first call, with a marker in the place of its
projection, and the second call gives the marker alone. -/
theorem calls_orderly_ownParent :
    (∃ p, eastAxis.parent? = some p ∧ ownParent.load p = .ok eastAxis) ∧ ownParent.Closed ∧
      ownParent.refs.length + 2 ≤ 3 ∧
        ∃ first second, calls ownParent 3 [] [eastAxis, eastAxis] = some [first, second] ∧
          first.IsOrderly ownParent ∧ second.IsOrderly ownParent ∧
          (begun first.met ++ begun second.met).Nodup ∧ begun first.met = [⟨.axisEntry, 1⟩] ∧
          (∃ tree, first.answer = .ok tree ∧
            tree.field? "projection" = some (.object [("$visited", .string "axis_entry/1")])) ∧
          second.answer = .ok (.object [("$visited", .string "axis_entry/1")]) := by
  have enough : ownParent.refs.length + 2 ≤ 3 := Nat.le_refl 3
  obtain ⟨cs, run, -, orderly, distinct, -⟩ :=
    calls_orderly closed_ownParent enough [] [eastAxis, eastAxis]
  obtain ⟨first, second, run', met, shown, marked⟩ :
      ∃ first second, calls ownParent 3 [] [eastAxis, eastAxis] = some [first, second] ∧
        begun first.met = [⟨.axisEntry, 1⟩] ∧
        (∃ tree, first.answer = .ok tree ∧
          tree.field? "projection" = some (.object [("$visited", .string "axis_entry/1")])) ∧
        second.answer = .ok (.object [("$visited", .string "axis_entry/1")]) :=
    ⟨_, _, rfl, rfl, ⟨_, rfl, rfl⟩, rfl⟩
  obtain rfl := Option.some.inj (run'.symm.trans run)
  obtain ⟨orderly₁, orderly₂⟩ := List.forall_mem_cons.mp orderly
  refine ⟨⟨_, rfl, rfl⟩, closed_ownParent, enough, first, second, run', orderly₁,
    orderly₂ second List.mem_cons_self, ?_, met, shown, marked⟩
  simpa using distinct

end Flatten

end SceneArchive
