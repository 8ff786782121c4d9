import SceneArchive.Proofs.Flatten.Accounts

/-!
# Markers

A marker stands for a record that was visited before, and a reader looks for the expansion of that
record in the same tree or in an earlier one. What calls have visited goes beyond what their trees
expand in one way only: a call that fails keeps the records it began to expand, and gives no tree.
A marker that a later call writes for one of them leads nowhere.

* `Consecutive`: what was visited before a call was begun by one of the calls before it, and by one
  only.
* `markersResolve_iff`: the markers of a sequence of calls lead somewhere exactly if none of them
  stands for a record that a failed call began to expand.
-/

namespace SceneArchive

namespace Flatten

/-- Whether a call is the one that began to expand a record. -/
def Call.Begins (c : Call) (r : Ref) : Prop := r ∈ c.after ∧ r ∉ c.before

/-- Whether calls start from visited references one after the other, and every tree that they give
accounts for what its call visited. -/
inductive Consecutive : List Ref → List Call → Prop
  | nil (visited : List Ref) : Consecutive visited []
  | cons {c : Call} {cs : List Call} (grown : c.before ⊆ c.after)
      (accounts : ∀ t, c.answer = .ok t → Accounts c.before [t] c.after)
      (rest : Consecutive c.after cs) : Consecutive c.before (c :: cs)

namespace Consecutive

variable {visited : List Ref} {cs earlier later : List Call} {c : Call}

theorem accounts (h : Consecutive visited cs) (mem : c ∈ cs) {t : Json}
    (given : c.answer = .ok t) : Accounts c.before [t] c.after := by
  induction h with
  | nil => cases mem
  | cons _ accounts _ ih =>
    rcases List.mem_cons.mp mem with rfl | mem
    · exact accounts t given
    · exact ih mem

theorem expands_iff (h : Consecutive visited cs) (mem : c ∈ cs) {t : Json}
    (given : c.answer = .ok t) {r : Ref} : Expands t r ↔ c.Begins r := by
  have expands := (h.accounts mem given).expands r
  simp only [List.mem_singleton, exists_eq_left] at expands
  exact expands

/-- What was visited before a call was so at the start, or an earlier call began to expand it. -/
theorem mem_before (h : Consecutive visited (earlier ++ c :: later)) {r : Ref}
    (seen : r ∈ c.before) : r ∈ visited ∨ ∃ c' ∈ earlier, c'.Begins r := by
  induction earlier generalizing visited with
  | nil =>
    cases h
    exact .inl seen
  | cons d earlier ih =>
    cases h with
    | cons grown accounts rest =>
      rcases ih rest with after | ⟨c', mem, begins⟩
      · by_cases before : r ∈ d.before
        · exact .inl before
        · exact .inr ⟨d, List.mem_cons_self, after, before⟩
      · exact .inr ⟨c', List.mem_cons_of_mem d mem, begins⟩

theorem subset_before (h : Consecutive visited cs) (mem : c ∈ cs) : visited ⊆ c.before := by
  induction h with
  | nil => cases mem
  | cons grown _ _ ih =>
    rcases List.mem_cons.mp mem with rfl | mem
    · exact List.Subset.refl _
    · exact List.Subset.trans grown (ih mem)

/-- No two calls begin to expand the same record. -/
theorem pairwise_begins (h : Consecutive visited cs) (r : Ref) :
    cs.Pairwise fun a b => ¬ (a.Begins r ∧ b.Begins r) := by
  induction h with
  | nil => exact .nil
  | @cons a cs grown accounts rest ih =>
    refine List.pairwise_cons.mpr ⟨?_, ih⟩
    rintro b mem ⟨first, again⟩
    exact again.2 (rest.subset_before mem first.1)

theorem eq_of_begins (h : Consecutive visited cs) {a b : Call} {r : Ref} (memA : a ∈ cs)
    (memB : b ∈ cs) (beginsA : a.Begins r) (beginsB : b.Begins r) : a = b := by
  by_contra other
  have : Std.Symm fun a b : Call => ¬ (a.Begins r ∧ b.Begins r) :=
    ⟨fun _ _ apart both => apart both.symm⟩
  exact (h.pairwise_begins r).forall memA memB other ⟨beginsA, beginsB⟩

end Consecutive

section

variable {s : Source} {depth : Nat} {visited : List Ref} {roots : List Entity} {cs : List Call}

/-- A call and those behind it. -/
theorem calls_cons {e : Entity} (run : calls s depth visited (e :: roots) = some cs) :
    ∃ answer after met rest,
      ((explore s depth [] e).run.run visited).run [] = some ((answer, after), met) ∧
        calls s depth after roots = some rest ∧ cs = ⟨e, visited, answer, after, met⟩ :: rest := by
  rw [calls] at run
  obtain ⟨⟨⟨answer, after⟩, met⟩, explored, run⟩ := Option.bind_eq_some_iff.mp run
  obtain ⟨rest, called, same⟩ := Option.bind_eq_some_iff.mp run
  exact ⟨answer, after, met, rest, explored, called, (Option.some.inj same).symm⟩

theorem consecutive_calls (forest : s.schema.IsForest) (names : s.schema.NamesApart)
    (run : calls s depth visited roots = some cs) : Consecutive visited cs := by
  induction roots generalizing visited cs with
  | nil =>
    cases run
    exact .nil visited
  | cons e roots ih =>
    obtain ⟨answer, after, met, rest, explored, called, rfl⟩ := calls_cons run
    obtain ⟨grown, given⟩ :=
      ends_explore forest names depth [] e visited [] answer after met explored
    exact .cons (c := ⟨e, visited, answer, after, met⟩) grown given (ih called)

theorem traverses_of_calls (closed : s.Closed) (enough : s.refs.length + 2 ≤ depth)
    (run : calls s depth visited roots = some cs) {c : Call} (mem : c ∈ cs) :
    (tree s c.root).run c.before = (c.answer, c.after) := by
  induction roots generalizing visited cs with
  | nil =>
    cases run
    cases mem
  | cons e roots ih =>
    obtain ⟨answer, after, met, rest, explored, called, rfl⟩ := calls_cons run
    rcases List.mem_cons.mp mem with rfl | mem
    · have traces : Traces (explore s depth [] e) (tree s e) visited := traces_tree closed enough
      obtain ⟨answer', after', met', explored', traversed, -⟩ := traces
      rw [explored' []] at explored
      cases explored
      exact traversed
    · exact ih called mem

end

/-- Whether every marker in a tree that a call gives stands for a record that is expanded in that
tree or in one that an earlier call gave. -/
def MarkersResolve (cs : List Call) : Prop :=
  ∀ earlier c later, cs = earlier ++ c :: later → ∀ t, c.answer = .ok t →
    ∀ r, (marker r).Within t →
      ∃ c' ∈ earlier ++ [c], ∃ t', c'.answer = .ok t' ∧ Expands t' r

/-- Markers lead somewhere exactly if none of them stands for a record that an earlier call began
to expand before it failed. So they do where no call fails. -/
theorem markersResolve_iff {registry : Registry} {s : Source}
    (built : registry.build = .ok s.schema) (names : s.schema.NamesApart) {depth : Nat}
    {roots : List Entity} {cs : List Call} (run : calls s depth [] roots = some cs) :
    (s.Closed → s.refs.length + 2 ≤ depth →
      ∀ c ∈ cs, (tree s c.root).run c.before = (c.answer, c.after)) ∧
    (MarkersResolve cs ↔
      ∀ earlier c later, cs = earlier ++ c :: later → ∀ t, c.answer = .ok t →
        ∀ r, (marker r).Within t →
          ∀ c' ∈ earlier, ∀ fault, c'.answer = .error fault → ¬ c'.Begins r) := by
  have consecutive : Consecutive [] cs :=
    consecutive_calls (Registry.isForest_of_build built) names run
  refine ⟨fun closed enough c mem => traverses_of_calls closed enough run mem, ?_, ?_⟩
  · intro resolve earlier c later whole t given r inside failed mem fault fails begins
    obtain ⟨c', mem', t', given', expands⟩ := resolve earlier c later whole t given r inside
    have listed {d : Call} (mem : d ∈ earlier ++ [c]) : d ∈ cs := by
      rw [whole, List.append_cons]
      exact List.mem_append_left _ mem
    have begins' : c'.Begins r := (consecutive.expands_iff (listed mem') given').mp expands
    have same := consecutive.eq_of_begins (listed (List.mem_append_left _ mem)) (listed mem')
      begins begins'
    rw [same, given'] at fails
    cases fails
  · intro none earlier c later whole t given r inside
    have mem : c ∈ cs := whole ▸ List.mem_append_right _ List.mem_cons_self
    have seen : r ∈ c.after :=
      (consecutive.accounts mem given).marks t List.mem_cons_self r inside
    by_cases before : r ∈ c.before
    · rcases (whole ▸ consecutive).mem_before before with start | ⟨c', mem', begins⟩
      · cases start
      · refine ⟨c', List.mem_append_left _ mem', ?_⟩
        cases given' : c'.answer with
        | error fault =>
          exact absurd begins (none earlier c later whole t given r inside c' mem' fault given')
        | ok t' =>
          have listed : c' ∈ cs := whole ▸ List.mem_append_left _ mem'
          exact ⟨t', rfl, (consecutive.expands_iff listed given').mpr begins⟩
    · exact ⟨c, by simp, t, given, (consecutive.expands_iff mem given).mpr ⟨seen, before⟩⟩

/-- An axis of the projection that has the identifier one. -/
def axisNamed (id : Int) (name : String) : Entity := .axis
  { id := id, created := "", updated := ""
    content := ⟨1, name, name, "east", "LinearUnit", "metre", 1⟩ }

/-- A projection that belongs to the directory of an identifier. -/
def projectionOf (directory : Int) : Entity := .projection
  { id := 1, created := "", updated := ""
    content := ⟨directory, "s", "ProjectedCRS", "UTM", "GeodeticReferenceFrame", "WGS 84", "WGS 84",
      6378137, 298.257223563, "EPSG", 6326, "Cartesian"⟩ }

/-- Two axes of a projection whose directory is missing. -/
def withoutDirectory : Source :=
  .ofRecords .standard [axisNamed 1 "Easting", axisNamed 2 "Northing", projectionOf 5]

/-- The call for the first axis fails above its projection, which stays visited. -/
theorem calls_withoutDirectory : ∃ met met',
    calls withoutDirectory 5 [] [axisNamed 1 "Easting", axisNamed 2 "Northing"] = some
      [ ⟨axisNamed 1 "Easting", [], .error (.argument (.missingRecord ⟨.metadataDirectory, 5⟩)),
          [⟨.projectionDefinition, 1⟩, ⟨.axisEntry, 1⟩], met⟩,
        ⟨axisNamed 2 "Northing", [⟨.projectionDefinition, 1⟩, ⟨.axisEntry, 1⟩],
          .ok (.object (NameMap.insertAll (axisNamed 2 "Northing").fields
            [("projection", marker ⟨.projectionDefinition, 1⟩)])),
          [⟨.axisEntry, 2⟩, ⟨.projectionDefinition, 1⟩, ⟨.axisEntry, 1⟩], met'⟩ ] :=
  ⟨_, _, rfl⟩

theorem markersResolve_iff_withoutDirectory :
    Registry.standard.build = .ok withoutDirectory.schema ∧ withoutDirectory.schema.NamesApart ∧
      ∃ cs, calls withoutDirectory 5 [] [axisNamed 1 "Easting", axisNamed 2 "Northing"] = some cs ∧
        (withoutDirectory.Closed → withoutDirectory.refs.length + 2 ≤ 5 →
          ∀ c ∈ cs, (tree withoutDirectory c.root).run c.before = (c.answer, c.after)) ∧
        (MarkersResolve cs ↔
          ∀ earlier c later, cs = earlier ++ c :: later → ∀ t, c.answer = .ok t →
            ∀ r, (marker r).Within t →
              ∀ c' ∈ earlier, ∀ fault, c'.answer = .error fault → ¬ c'.Begins r) := by
  obtain ⟨met, met', run⟩ := calls_withoutDirectory
  exact ⟨Registry.build_standard, Schema.namesApart_standard, _, run,
    markersResolve_iff Registry.build_standard Schema.namesApart_standard run⟩

/-- The second axis is shown with a marker for the projection, which no tree expands. -/
theorem not_markersResolve_missingDirectory :
    ∃ cs, calls withoutDirectory 5 [] [axisNamed 1 "Easting", axisNamed 2 "Northing"] = some cs ∧
      ¬ MarkersResolve cs := by
  obtain ⟨met, met', run⟩ := calls_withoutDirectory
  refine ⟨_, run, fun resolve => ?_⟩
  have named : ["projection"] = entryNames withoutDirectory [.axisEntry] (axisNamed 2 "Northing") :=
    rfl
  have beside : Beside [("projection", marker ⟨.projectionDefinition, 1⟩)]
      (axisNamed 2 "Northing") :=
    beside_of_entryNames (Registry.isForest_of_build Registry.build_standard)
      Schema.namesApart_standard named (List.forall_mem_singleton.mpr (isCompound_object _))
  have inside := beside.marker_within_iff (r := ⟨.projectionDefinition, 1⟩).mpr
    ⟨_, List.mem_singleton_self _, .refl⟩
  obtain ⟨c, mem, t, given, expands⟩ := resolve [_] _ [] rfl _ rfl _ inside
  rcases List.mem_cons.mp mem with rfl | mem
  · cases given
  · obtain rfl := List.mem_singleton.mp mem
    cases given
    rcases beside.expands_iff.mp expands with same | ⟨m, mem, expands⟩
    · cases same
    · obtain rfl := List.mem_singleton.mp mem
      exact not_expands_marker _ _ expands

/-- A registry in which a projection has its directory under the name of the kind of its axes. -/
def ownerCalledAxes : Registry where
  descriptors :=
    [ { kind := .metadataDirectory, fields := [.required "date_str" .text] },
      Descriptor.belongsTo
        { kind := .projectionDefinition, fields := [.required "schema" .text] }
        "axis_entry" "directory_id",
      Descriptor.belongsTo { kind := .axisEntry, fields := [.required "name" .text] }
        "projection" "projection_id" ]
  wiring :=
    [⟨.projectionDefinition, .metadataDirectory⟩, ⟨.axisEntry, .projectionDefinition⟩]

/-- The directory of the projection. -/
def directoryFive : Entity := .directory
  { id := 5, created := "", updated := "", content := ⟨"19880101", "a"⟩ }

/-- A projection and its directory below that registry. -/
def ownerCalledAxesSource : Source where
  schema := ownerCalledAxes.schema
  refs := [directoryFive.ref, (projectionOf 5).ref]
  load _ := .ok directoryFive
  children _ _ := .ok []

theorem calls_ownerCalledAxes : ∃ met met',
    calls ownerCalledAxesSource 4 [] [projectionOf 5, directoryFive] = some
      [ ⟨projectionOf 5, [], .ok (.object (NameMap.insertAll (projectionOf 5).fields
            [("axis_entry", .array [])])), [directoryFive.ref, (projectionOf 5).ref], met⟩,
        ⟨directoryFive, [directoryFive.ref, (projectionOf 5).ref],
          .ok (marker directoryFive.ref), [directoryFive.ref, (projectionOf 5).ref], met'⟩ ] :=
  ⟨_, _, rfl⟩

/-- The names have to be apart: here the list of the axes takes the place of the directory, so that
a marker leads nowhere although no call fails. -/
theorem not_markersResolve_sharedName :
    ownerCalledAxes.build = .ok ownerCalledAxesSource.schema ∧
      ∃ cs, calls ownerCalledAxesSource 4 [] [projectionOf 5, directoryFive] = some cs ∧
        (∀ c ∈ cs, ∃ t, c.answer = .ok t) ∧ ¬ MarkersResolve cs := by
  obtain ⟨met, met', run⟩ := calls_ownerCalledAxes
  refine ⟨rfl, _, run, by simp, fun resolve => ?_⟩
  have beside : Beside [("axis_entry", .array [])] (projectionOf 5) :=
    ⟨by simp, fun a mem => by simpa [Kind.name] using Entity.name_ne_attribute .axisEntry mem,
      List.forall_mem_singleton.mpr (isCompound_array [])⟩
  obtain ⟨c, mem, t, given, expands⟩ := resolve [_] _ [] rfl _ rfl _ .refl
  rcases List.mem_cons.mp mem with rfl | mem
  · cases given
    rcases beside.expands_iff.mp expands with same | ⟨m, mem, expands⟩
    · cases same
    · obtain rfl := List.mem_singleton.mp mem
      obtain ⟨t, mem, -⟩ := expands_array_iff.mp expands
      cases mem
  · obtain rfl := List.mem_singleton.mp mem
    cases given
    exact not_expands_marker _ _ expands

end Flatten

end SceneArchive
