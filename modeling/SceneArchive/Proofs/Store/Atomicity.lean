import SceneArchive.Proofs.Store.Outcome
import SceneArchive.Proofs.Store.ReadBack

/-!
# Storing one observation

Storing an observation has four steps and no transaction around them: the record is validated, the
directory is resolved or created, the row is inserted, and the row is read again. Only the last
step can fail after something was stored, and it does so exactly for the dates that are written in
a form that is no date.

* `storeObservation_unreadable`: what is left behind then.
* `storeObservation_allOrNothing_iff`: in every other case the action does all or nothing.
-/

namespace SceneArchive.Store

/-- Storing an observation either fails and leaves every table as it was, or it adds one row,
which is also its result and has the attributes of the validated record, behind the directory of
the reference, which is created if need be. -/
def StoresAllOrNothing (s : Store) (now : String) (parent : ParentRef) (record : RawRecord) :
    Prop :=
  match (storeObservation now parent record).outcome s with
  | (.error _, t) => ∀ kind, t.rows kind = s.rows kind
  | (.ok stored, t) =>
    (∃ new, Observation.ofRecord record = .ok new ∧ stored.content.content.Agrees new) ∧
      ∃ directories, Resolves s now parent stored.content.owner directories ∧
        t = { s with
          directories
          observations := ⟨stored.id, s.observations.rows ++ [stored]⟩ }

/-- Whether a record is valid, and leads to a directory, but has a date whose text is no date. -/
def StoresUnreadable (s : Store) (parent : ParentRef) (record : RawRecord) : Prop :=
  s.LeadsToDirectory parent ∧
    ∃ new, Observation.ofRecord record = .ok new ∧ new.HasUnreadableDate

/-- An unreadable observation is stored, and its directory with it; then the action fails. -/
theorem storeObservation_unreadable {s : Store} {parent : ParentRef} {record : RawRecord}
    (now : String) (h : s.StoresUnreadable parent record) :
    ∃ text directories row,
      Resolves s now parent row.content.owner directories ∧
      (storeObservation now parent record).outcome s =
        ( .error (.storage (.invalidDate text (some "acquisitio"))),
          { s with
            directories
            observations := ⟨row.id, s.observations.rows ++ [row]⟩ }) := by
  obtain ⟨found, new, valid, unreadable⟩ := h
  rcases storeObservation_cases now parent record s with
    ⟨lost | ⟨e, invalid⟩, -⟩ | ⟨-, new', id, table, valid', resolved, outcome⟩
  · exact absurd found lost
  · rw [valid] at invalid
    cases invalid
  · rw [valid] at valid'
    cases valid'
    let row := (s.observations.insert now ⟨id, new.storedForm⟩).1
    have rowUnreadable : row.content.content.HasUnreadableDate := unreadable
    obtain ⟨text, refused⟩ := readObservation_eq_error rowUnreadable
    refine ⟨text, table, row, resolved, ?_⟩
    rw [outcome, refused]
    rfl

/-- Storing an observation is all or nothing unless the observation is unreadable. -/
theorem storesAllOrNothing_of_readable {s : Store} {parent : ParentRef} {record : RawRecord}
    (now : String) (h : ¬ s.StoresUnreadable parent record) :
    s.StoresAllOrNothing now parent record := by
  unfold StoresAllOrNothing
  rcases storeObservation_cases now parent record s with
    ⟨-, e, outcome⟩ | ⟨found, new, id, table, valid, resolved, outcome⟩
  · rw [outcome]
    intro kind
    rfl
  · let row := (s.observations.insert now ⟨id, new.storedForm⟩).1
    have readable : ¬ row.content.content.HasUnreadableDate := by
      intro unreadable
      exact h ⟨found, new, valid, unreadable⟩
    rw [readObservation_eq_ok readable] at outcome
    rw [outcome]
    exact ⟨⟨new, valid, new.storedForm_agrees⟩, table, resolved, rfl⟩

theorem not_storesAllOrNothing {s : Store} {parent : ParentRef} {record : RawRecord}
    (now : String) (h : s.StoresUnreadable parent record) :
    ¬ s.StoresAllOrNothing now parent record := by
  obtain ⟨text, directories, row, -, outcome⟩ := storeObservation_unreadable now h
  unfold StoresAllOrNothing
  rw [outcome]
  intro unchanged
  have lengths := congrArg List.length (unchanged .observationRecord)
  simp [rows] at lengths

/-- The exact condition under which storing an observation is all or nothing, and what is left
behind otherwise: the row and its directory, under an error. -/
theorem storeObservation_allOrNothing_iff (s : Store) (now : String) (parent : ParentRef)
    (record : RawRecord) :
    (s.StoresAllOrNothing now parent record ↔ ¬ s.StoresUnreadable parent record) ∧
      (s.StoresUnreadable parent record →
        ∃ text directories row,
          Resolves s now parent row.content.owner directories ∧
          (storeObservation now parent record).outcome s =
            ( .error (.storage (.invalidDate text (some "acquisitio"))),
              { s with
                directories
                observations := ⟨row.id, s.observations.rows ++ [row]⟩ })) := by
  refine ⟨⟨?_, storesAllOrNothing_of_readable now⟩, storeObservation_unreadable now⟩
  intro all unreadable
  exact not_storesAllOrNothing now unreadable all

/-- A complete record with a date of the year -1. -/
def yearBeforeZero : RawRecord :=
  [ ("acquisitio", .string "-0001-01-01"),
    ("batch", .string "b1"),
    ("cloudperce", .number (.int 0)),
    ("orbitid", .number (.int 1)),
    ("satellite", .string "LT5"),
    ("scenepath", .number (.int 1)),
    ("scenerow", .number (.int 1)),
    ("sensorid", .string "TM"),
    ("tarsize", .number (.int 1)) ]

theorem yearBeforeZero_unreadable :
    ∃ new, Observation.ofRecord yearBeforeZero = .ok new ∧ new.HasUnreadableDate := by
  have year : ((Observation.ofRecord yearBeforeZero).toOption.bind (·.acquired)).map (·.year) =
      some (-1) := by
    decide +kernel
  cases valid : Observation.ofRecord yearBeforeZero with
  | error e => simp [valid, Except.toOption] at year
  | ok new =>
    simp only [valid, Except.toOption, Option.bind_some, Option.map_eq_some_iff] at year
    obtain ⟨d, acquired, minusOne⟩ := year
    exact ⟨new, rfl, d, acquired, by omega, by omega⟩

/-- Into the empty store the record goes with its directory, and the action fails. -/
theorem not_storesAllOrNothing_yearBeforeZero :
    ¬ empty.StoresAllOrNothing "2024-01-01T00:00:00Z" (.named "19880101" "a") yearBeforeZero := by
  have found : empty.LeadsToDirectory (.named "19880101" "a") := by
    change Text.allBlank "19880101" = false
    decide
  exact not_storesAllOrNothing _ ⟨found, yearBeforeZero_unreadable⟩

end SceneArchive.Store
