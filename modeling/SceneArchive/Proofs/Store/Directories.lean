import Mathlib.Data.Finset.Card
import Mathlib.Data.Finset.Dedup
import SceneArchive.Proofs.Store.History

/-!
# The directories of a run

The table of directories is determined by what was asked for. A directory is asked for by its token:
directly, by a manifest, or by a record or description that is valid and names its owner by a
token. Only the first request for a token that is not blank adds anything; what becomes afterwards
of the operation that made it does not matter. Between the operations of a run files may come and
go.

* `Asks`: what a request makes of the table, shown of every operation in `Operation.asks`.
* `contentOfToken?_afterCalls`: the directory of a token is the first one asked for under it.
* `directories_of_calls`: presence, path, identifier and number of the directories.
-/

namespace SceneArchive

/-- The directory that a reference asks for: one of a token, with a path. -/
def ParentRef.request? : ParentRef → Option Directory
  | resolved _ => none
  | named token path => some ⟨token, path⟩

/-- The directory that a reference asks for once something is found valid; else it is not looked
at. -/
def ParentRef.requestBehind {α : Type} (parent : ParentRef) : Except IndexError α → Option Directory
  | .ok _ => parent.request?
  | .error _ => none

namespace Store

variable {α β : Type} {isFile : String → Bool}

/-- The directory that an operation asks for. A manifest asks for its directory before anything else
in it is looked at. -/
def Operation.request? (isFile : String → Bool) : Operation → Option Directory
  | getOrCreateDirectory token path => some ⟨token, path⟩
  | storeObservation parent record => parent.requestBehind (Observation.ofRecord record)
  | storeProjection parent description =>
    parent.requestBehind (ProjectionWithAxes.ofDescription description)
  | storeAxis _ _ => none
  | storeGeoreference parent description =>
    parent.requestBehind (Georeference.ofDescription isFile description)
  | ingest manifest => manifest.resolvedToken.toOption.map fun token => ⟨token, manifest.path⟩

/-- An operation, with the time at which it is made and the files that there are then. -/
structure Call extends Step where
  isFile : String → Bool

/-- The store that a call leaves, whether it succeeds or fails. -/
def Call.next (s : Store) (call : Call) : Store := call.operation.next call.isFile call.now s

/-- The store that calls make of the empty one. -/
def afterCalls (calls : List Call) : Store := calls.foldl Call.next empty

/-- The directories that calls ask for, in order. -/
def requests (calls : List Call) : List Directory :=
  calls.filterMap fun call => call.operation.request? call.isFile

/-- The token and path of the directory of a token. -/
def contentOfToken? (s : Store) (token : String) : Option Directory :=
  (s.directoryOfToken? token).map (·.content)

/-- Whether a directory asked for is that of a token, and may be stored. -/
def isAskedFor (token : String) (d : Directory) : Bool :=
  d.token == token && !Text.allBlank token

/-- What a request makes of the directory of a token: the one that is there stays; else there is
the one asked for, if it is of this token. -/
def Asks (request : Option Directory) (s t : Store) : Prop :=
  ∀ token, t.contentOfToken? token =
    (s.contentOfToken? token).or (request.filter (isAskedFor token))

variable {s t : Store} {parent : ParentRef} {now token : String}

theorem isAskedFor_of_ne {d : Directory} (other : d.token ≠ token) :
    isAskedFor token d = false := by
  simp [isAskedFor, other]

namespace Asks

theorem none (s : Store) : Asks none s s := by
  intro token
  rw [Option.filter_none, Option.or_none]

theorem trans {request : Option Directory} {u : Store} (first : Asks request s t)
    (second : Asks .none t u) : Asks request s u := by
  intro token
  rw [second token, Option.filter_none, Option.or_none, first token]

/-- A request for the directory of a blank token adds nothing. -/
theorem blank (blank : Text.allBlank token = true) (path : String) (s : Store) :
    Asks (some ⟨token, path⟩) s s := by
  intro other
  have refused : isAskedFor other ⟨token, path⟩ = false := by
    by_cases same : token = other
    · simp [isAskedFor, ← same, blank]
    · exact isAskedFor_of_ne same
  rw [Option.filter_some_neg refused, Option.or_none]

/-- A request for a directory that is there adds nothing. -/
theorem reused {d : Stored Directory} (found : s.directoryOfToken? token = some d)
    (path : String) :
    Asks (some ⟨token, path⟩) s { s with directories := s.directories.skipId } := by
  intro other
  change s.contentOfToken? other = _
  by_cases same : token = other
  · rw [contentOfToken?, ← same, found]
    rfl
  · rw [Option.filter_some_neg (isAskedFor_of_ne same), Option.or_none]

theorem created (present : Text.allBlank token = false) (now path : String) (s : Store) :
    Asks (some ⟨token, path⟩) s
      { s with directories := (s.directories.insert now ⟨token, path⟩).2 } := by
  intro other
  let row := (s.directories.insert now ⟨token, path⟩).1
  change ((s.directories.rows ++ [row]).find? (·.content.token == other)).map (·.content) = _
  rw [List.find?_append, Option.map_or]
  congr 1
  by_cases same : token = other
  · have asked : isAskedFor other ⟨token, path⟩ = true := by simp [isAskedFor, ← same, present]
    have named : (row.content.token == other) = true := beq_iff_eq.mpr same
    rw [Option.filter_some_pos asked, List.find?_singleton, named]
    rfl
  · have others : (row.content.token == other) = false := beq_eq_false_iff_ne.mpr same
    rw [Option.filter_some_neg (isAskedFor_of_ne same), List.find?_singleton, others]
    rfl

/-- What is refused asks for nothing, or for what is not stored. -/
theorem refused {validated : Except IndexError α}
    (h : ¬ s.LeadsToDirectory parent ∨ ∃ e, validated = .error e) :
    Asks (parent.requestBehind validated) s s := by
  cases validated with
  | error e => exact none s
  | ok new =>
    rcases h with lost | ⟨e, invalid⟩
    · cases parent with
      | resolved id => exact none s
      | named token path => exact blank (by simpa [LeadsToDirectory] using lost) path s
    · cases invalid

theorem resolved {id : Int} {table : RecordTable Directory} (h : Resolves s now parent id table)
    {validated : Except IndexError α} {new : α} (valid : validated = .ok new) :
    Asks (parent.requestBehind validated) s { s with directories := table } := by
  rw [valid]
  cases h with
  | stored => exact none s
  | reused _ found => exact reused found _
  | created present => exact created present now _ s

end Asks

/-! ## Single operations -/

theorem asks_getOrCreateDirectory (now token path : String) (s : Store) :
    Asks (some ⟨token, path⟩) s ((getOrCreateDirectory now token path).outcome s).2 := by
  rw [outcome_getOrCreateDirectory]
  split
  · next blank => exact .blank blank path s
  · next present =>
    cases found : s.directoryOfToken? token with
    | some d => exact .reused found path
    | none => exact .created (by simpa using present) now path s

theorem asks_storeObservation (now : String) (parent : ParentRef) (record : RawRecord)
    (s : Store) :
    Asks (parent.requestBehind (Observation.ofRecord record)) s
      ((storeObservation now parent record).outcome s).2 := by
  rcases storeObservation_cases now parent record s with
    ⟨refused, e, h⟩ | ⟨-, new, id, table, valid, resolved, h⟩
  · rw [h]
    exact .refused refused
  · rw [h]
    exact Asks.resolved resolved valid

theorem asks_storeProjection (now : String) (parent : ParentRef)
    (description : ProjectionDescription) (s : Store) :
    Asks (parent.requestBehind (ProjectionWithAxes.ofDescription description)) s
      ((storeProjection now parent description).outcome s).2 := by
  rcases storeProjection_cases now parent description s with
    ⟨refused, e, h⟩ | ⟨new, id, table, valid, resolved, -, e, h⟩ |
    ⟨new, id, table, valid, resolved, -, h⟩
  · rw [h]
    exact .refused refused
  · rw [h]
    exact Asks.resolved resolved valid
  · simp only at h
    rw [h]
    exact Asks.resolved resolved valid

theorem asks_storeAxis (now : String) (projection : Int) (description : AxisDescription)
    (s : Store) : Asks none s ((storeAxis now projection description).outcome s).2 := by
  rcases storeAxis_cases now projection description s with ⟨-, e, h⟩ | ⟨new, -, -, h⟩
  · rw [h]
    exact .none s
  · simp only at h
    rw [h]
    exact .none s

theorem asks_storeGeoreference (now : String) (parent : ParentRef)
    (description : GeoreferenceDescription) (s : Store) :
    Asks (parent.requestBehind (Georeference.ofDescription isFile description)) s
      ((storeGeoreference isFile now parent description).outcome s).2 := by
  rcases storeGeoreference_cases isFile now parent description s with
    ⟨refused, e, h⟩ | ⟨new, id, table, valid, resolved, h⟩
  · rw [h]
    exact .refused refused
  · simp only at h
    rw [h]
    exact Asks.resolved resolved valid

theorem asks_insertGeoreferences (now : String) (directory : Int) (files : List Georeference)
    (s : Store) : Asks none s ((insertGeoreferences now directory files).outcome s).2 := by
  rw [outcome_insertGeoreferences]
  exact .none s

theorem asks_bind {request : Option Directory} {x : StoreM α} {f : α → StoreM β}
    (first : Asks request s (x.outcome s).2) (next : ∀ a t, Asks none t ((f a).outcome t).2) :
    Asks request s ((x >>= f).outcome s).2 := by
  rw [StoreM.outcome_bind]
  rcases h : x.outcome s with ⟨_ | a, t⟩
  · simpa only [h] using first
  · rw [h] at first
    exact first.trans (next a t)

/-- Behind a directory that is known by its identifier nothing more is asked for. -/
theorem requestBehind_resolved (id : Int) (validated : Except IndexError α) :
    (ParentRef.resolved id).requestBehind validated = none := by
  cases validated <;> rfl

theorem asks_storeObservations (now : String) (directory : Int) (records : List RawRecord)
    (s : Store) :
    Asks none s ((storeObservations now (.resolved directory) records).outcome s).2 := by
  induction records generalizing s with
  | nil => exact .none s
  | cons record rest ih =>
    have first := asks_storeObservation now (.resolved directory) record s
    rw [requestBehind_resolved] at first
    exact asks_bind first fun _ t => ih t

theorem asks_storeProjection? (now : String) (directory : Int)
    (description : Option ProjectionDescription) (s : Store) :
    Asks none s ((storeProjection? now (.resolved directory) description).outcome s).2 := by
  cases description with
  | none => exact .none s
  | some d =>
    have first := asks_storeProjection now (.resolved directory) d s
    rw [requestBehind_resolved] at first
    exact asks_bind first fun _ t => .none t

theorem asks_ingest (now : String) (m : Manifest) (s : Store) :
    Asks (m.resolvedToken.toOption.map fun token => ⟨token, m.path⟩) s
      ((ingest isFile now m).outcome s).2 := by
  unfold ingest
  rw [StoreM.outcome_bind, StoreM.outcome_ofExcept]
  cases m.resolvedToken with
  | error e => exact .none s
  | ok token =>
    refine asks_bind (asks_getOrCreateDirectory now token m.path s) ?_
    intro directory t
    refine asks_bind (asks_storeObservations now directory.id m.observations t) ?_
    intro _ t
    refine asks_bind (asks_storeProjection? now directory.id m.projection t) ?_
    intro counts t
    refine asks_bind (by exact .none t) ?_
    intro files t
    exact asks_bind (asks_insertGeoreferences now directory.id files t) fun _ t => .none t

theorem Operation.asks (now : String) (s : Store) (operation : Operation) :
    Asks (operation.request? isFile) s (operation.next isFile now s) := by
  cases operation with
  | getOrCreateDirectory token path => exact asks_getOrCreateDirectory now token path s
  | storeObservation parent record => exact asks_storeObservation now parent record s
  | storeProjection parent d => exact asks_storeProjection now parent d s
  | storeAxis projection d => exact asks_storeAxis now projection d s
  | storeGeoreference parent d => exact asks_storeGeoreference now parent d s
  | ingest manifest => exact asks_ingest now manifest s

/-! ## Runs of calls -/

/-- A history is a run during which the files stay the same. -/
theorem after_eq_afterCalls (isFile : String → Bool) (history : List Step) :
    after isFile history = afterCalls (history.map fun step => ⟨step, isFile⟩) := by
  rw [afterCalls, List.foldl_map]
  rfl

theorem find?_requests_cons (call : Call) (rest : List Call) (p : Directory → Bool) :
    (requests (call :: rest)).find? p =
      ((call.operation.request? call.isFile).filter p).or ((requests rest).find? p) := by
  unfold requests
  rw [List.filterMap_cons]
  cases call.operation.request? call.isFile with
  | none => rfl
  | some d =>
    cases asked : p d with
    | true =>
      rw [Option.filter_some_pos asked, List.find?_cons_of_pos asked]
      rfl
    | false =>
      rw [Option.filter_some_neg asked, List.find?_cons_of_neg (by simp [asked])]
      rfl

theorem contentOfToken?_foldl (calls : List Call) (s : Store) (token : String) :
    (calls.foldl Call.next s).contentOfToken? token =
      (s.contentOfToken? token).or ((requests calls).find? (isAskedFor token)) := by
  induction calls generalizing s with
  | nil => simp [requests]
  | cons call rest ih =>
    have asked : Asks (call.operation.request? call.isFile) s (call.next s) :=
      call.operation.asks call.now s
    rw [List.foldl_cons, ih, asked, find?_requests_cons, Option.or_assoc]

/-- The directory of a token has the content of the first one asked for under it. -/
theorem contentOfToken?_afterCalls (calls : List Call) (token : String) :
    (afterCalls calls).contentOfToken? token = (requests calls).find? (isAskedFor token) :=
  contentOfToken?_foldl calls empty token

theorem isSome_directoryOfToken?_iff (calls : List Call) (token : String) :
    ((afterCalls calls).directoryOfToken? token).isSome ↔
      Text.allBlank token = false ∧ ∃ d ∈ requests calls, d.token = token := by
  rw [← Option.isSome_map (f := (·.content)), ← contentOfToken?, contentOfToken?_afterCalls,
    List.find?_isSome]
  simp only [isAskedFor, Bool.and_eq_true, beq_iff_eq, Bool.not_eq_true']
  constructor
  · rintro ⟨d, asked, same, present⟩
    exact ⟨present, d, asked, same⟩
  · rintro ⟨present, d, asked, same⟩
    exact ⟨d, asked, same, present⟩

theorem find?_requests_of_found {calls : List Call} {d : Stored Directory}
    (found : (afterCalls calls).directoryOfToken? token = some d) :
    (requests calls).find? (·.token == token) = some d.content := by
  have present := (isSome_directoryOfToken?_iff calls token).mp (by rw [found]; rfl)
  have same : isAskedFor token = (·.token == token) := by
    funext d
    simp [isAskedFor, present.1]
  rw [← same, ← contentOfToken?_afterCalls, contentOfToken?, found]
  rfl

/-! ## What calls keep

The changes of a run are made over different files. What they keep does not depend on the files, so
they are looked at as changes that do not ask for any. -/

/-- More files allow more changes. -/
theorem Change.mono {isFile' : String → Bool}
    (more : ∀ path, isFile path = true → isFile' path = true) (c : Change isFile s t) :
    Change isFile' s t := by
  cases c with
  | reuse => exact .reuse s
  | directory now d present absent => exact .directory s now d present absent
  | observation now o owner => exact .observation s now o owner
  | projection now p owner first => exact .projection s now p owner first
  | axis now a owner => exact .axis s now a owner
  | georeference now g owner image => exact .georeference s now g owner (more _ image)

theorem Changes.mono {isFile' : String → Bool}
    (more : ∀ path, isFile path = true → isFile' path = true) (c : Changes isFile s t) :
    Changes isFile' s t := by
  induction c with
  | refl => exact .refl
  | tail _ last ih => exact ih.tail (last.mono more)

theorem changes_foldl_calls (calls : List Call) (s : Store) :
    Changes (fun _ => true) s (calls.foldl Call.next s) := by
  induction calls generalizing s with
  | nil => exact .refl
  | cons call rest ih =>
    have first : Changes call.isFile s (call.next s) := call.operation.changes call.now s
    exact (first.mono fun _ _ => rfl).trans (ih _)

theorem wellFormed_afterCalls (calls : List Call) : (afterCalls calls).WellFormed fun _ => true :=
  (changes_foldl_calls calls empty).wellFormed (wellFormed_empty _)

/-- A directory that is found by its token once is found by it from then on. -/
theorem directoryOfToken?_afterCalls_append {calls : List Call} {d : Stored Directory}
    (found : (afterCalls calls).directoryOfToken? token = some d) (later : List Call) :
    (afterCalls (calls ++ later)).directoryOfToken? token = some d := by
  have changes := changes_foldl_calls later (afterCalls calls)
  rw [afterCalls, ← List.foldl_append, ← afterCalls] at changes
  have injective : Function.Injective Entity.directory := fun a b same => Entity.directory.inj same
  obtain ⟨added, same⟩ :=
    (List.prefix_map_iff_of_injective injective).mp (changes.rows_isPrefix .metadataDirectory)
  rw [directoryOfToken?] at found
  rw [directoryOfToken?, afterCalls, ← same, List.find?_append, found]
  rfl

theorem getOrCreateDirectory_of_found {d : Stored Directory}
    (present : Text.allBlank token = false) (found : s.directoryOfToken? token = some d)
    (now path : String) : ((getOrCreateDirectory now token path).outcome s).1 = .ok d := by
  rw [outcome_getOrCreateDirectory, if_neg (by simp [present]), found]

theorem mem_tokens_iff : token ∈ s.directories.rows.map (·.content.token) ↔
    (s.directoryOfToken? token).isSome := by
  simp [directoryOfToken?, List.find?_isSome]

theorem count_directories (calls : List Call) :
    (afterCalls calls).directories.count =
      (((requests calls).map (·.token)).filter (!Text.allBlank ·)).toFinset.card := by
  have distinct : ((afterCalls calls).directories.rows.map (·.content.token)).Nodup :=
    List.pairwise_map.mpr (wellFormed_afterCalls calls).tokens_distinct
  have same : ((afterCalls calls).directories.rows.map (·.content.token)).toFinset =
      (((requests calls).map (·.token)).filter (!Text.allBlank ·)).toFinset := by
    ext token
    rw [List.mem_toFinset, mem_tokens_iff, isSome_directoryOfToken?_iff, List.mem_toFinset,
      List.mem_filter, List.mem_map, Bool.not_eq_true', and_comm]
  rw [← same, List.toFinset_card_of_nodup distinct, List.length_map]
  rfl

/-- Calls determine the directories. There is one of a token exactly if the token is not blank and
was asked for. Its path is the one of the first request, it is the same record in every later
answer, and there are as many directories as different tokens that were asked for and are not
blank. -/
theorem directories_of_calls (calls : List Call) :
    (∀ token, ((afterCalls calls).directoryOfToken? token).isSome ↔
      Text.allBlank token = false ∧ ∃ d ∈ requests calls, d.token = token) ∧
    (∀ token d, (afterCalls calls).directoryOfToken? token = some d →
      (requests calls).find? (·.token == token) = some d.content ∧
      ∀ later, (afterCalls (calls ++ later)).directoryOfToken? token = some d ∧
        ∀ now path,
          ((getOrCreateDirectory now token path).outcome (afterCalls (calls ++ later))).1 = .ok d) ∧
    (afterCalls calls).directories.count =
      (((requests calls).map (·.token)).filter (!Text.allBlank ·)).toFinset.card := by
  refine ⟨isSome_directoryOfToken?_iff calls, ?_, count_directories calls⟩
  intro token d found
  have present := (isSome_directoryOfToken?_iff calls token).mp (by rw [found]; rfl)
  refine ⟨find?_requests_of_found found, ?_⟩
  intro later
  have kept := directoryOfToken?_afterCalls_append found later
  exact ⟨kept, getOrCreateDirectory_of_found present.1 kept⟩

end Store

end SceneArchive
