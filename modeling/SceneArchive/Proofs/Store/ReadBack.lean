import SceneArchive.Proofs.Calendar
import SceneArchive.Proofs.Decimal.Binary64
import SceneArchive.Store.ReadBack

/-!
# Stored content

What a table keeps of the content of a record: the same values, the sign of a zero apart. An
observation is also read again, which gives what is stored, unless the text of its date is refused.

* `Observation.storedForm_agrees` and its companions: storing changes no attribute but the sign of a
  zero.
* `readBack_eq_ok`, `readBack_eq_error`: which observations are read again, and what is said of
  the others.
-/

namespace SceneArchive

open Binary64 (SameNumber sameNumber_withoutNegativeZero)

/-! ## What is kept -/

namespace Observation

/-- All nine attributes of two observations agree; of the two zeros either counts as the other. -/
structure Agrees (a b : Observation) : Prop where
  batch : a.batch = b.batch
  tarSize : a.tarSize = b.tarSize
  satellite : a.satellite = b.satellite
  sensor : a.sensor = b.sensor
  acquired : a.acquired = b.acquired
  cloudPercent : SameNumber a.cloudPercent b.cloudPercent
  orbit : a.orbit = b.orbit
  scenePath : a.scenePath = b.scenePath
  sceneRow : a.sceneRow = b.sceneRow

theorem storedForm_agrees (o : Observation) : o.storedForm.Agrees o where
  batch := rfl
  tarSize := rfl
  satellite := rfl
  sensor := rfl
  acquired := rfl
  cloudPercent := sameNumber_withoutNegativeZero o.cloudPercent
  orbit := rfl
  scenePath := rfl
  sceneRow := rfl

end Observation

namespace Projection

/-- All attributes of two projections agree; of the two zeros either counts as the other. -/
structure Agrees (p q : Projection) : Prop where
  schema : p.schema = q.schema
  type : p.type = q.type
  name : p.name = q.name
  datumType : p.datumType = q.datumType
  datumName : p.datumName = q.datumName
  ellipsoidName : p.ellipsoidName = q.ellipsoidName
  semiMajorAxis : SameNumber p.semiMajorAxis q.semiMajorAxis
  inverseFlattening : SameNumber p.inverseFlattening q.inverseFlattening
  datumAuthority : p.datumAuthority = q.datumAuthority
  datumCode : p.datumCode = q.datumCode
  subtype : p.subtype = q.subtype

theorem storedForm_agrees (p : Projection) : p.storedForm.Agrees p where
  schema := rfl
  type := rfl
  name := rfl
  datumType := rfl
  datumName := rfl
  ellipsoidName := rfl
  semiMajorAxis := sameNumber_withoutNegativeZero p.semiMajorAxis
  inverseFlattening := sameNumber_withoutNegativeZero p.inverseFlattening
  datumAuthority := rfl
  datumCode := rfl
  subtype := rfl

end Projection

namespace Axis

/-- All attributes of two axes agree; of the two zeros either counts as the other. -/
structure Agrees (a b : Axis) : Prop where
  name : a.name = b.name
  abbreviation : a.abbreviation = b.abbreviation
  direction : a.direction = b.direction
  unitType : a.unitType = b.unitType
  unitName : a.unitName = b.unitName
  conversionFactor : SameNumber a.conversionFactor b.conversionFactor

theorem storedForm_agrees (a : Axis) : a.storedForm.Agrees a where
  name := rfl
  abbreviation := rfl
  direction := rfl
  unitType := rfl
  unitName := rfl
  conversionFactor := sameNumber_withoutNegativeZero a.conversionFactor

end Axis

namespace Georeference

/-- All attributes of two georeference files agree; of the two zeros either counts as the other. -/
structure Agrees (g h : Georeference) : Prop where
  path : g.path = h.path
  image : g.image = h.image
  scaleX : SameNumber g.placement.scaleX h.placement.scaleX
  rotationY : SameNumber g.placement.rotationY h.placement.rotationY
  rotationX : SameNumber g.placement.rotationX h.placement.rotationX
  scaleY : SameNumber g.placement.scaleY h.placement.scaleY
  upperLeftX : SameNumber g.placement.upperLeftX h.placement.upperLeftX
  upperLeftY : SameNumber g.placement.upperLeftY h.placement.upperLeftY

theorem storedForm_agrees (g : Georeference) : g.storedForm.Agrees g where
  path := rfl
  image := rfl
  scaleX := sameNumber_withoutNegativeZero g.placement.scaleX
  rotationY := sameNumber_withoutNegativeZero g.placement.rotationY
  rotationX := sameNumber_withoutNegativeZero g.placement.rotationX
  scaleY := sameNumber_withoutNegativeZero g.placement.scaleY
  upperLeftX := sameNumber_withoutNegativeZero g.placement.upperLeftX
  upperLeftY := sameNumber_withoutNegativeZero g.placement.upperLeftY

end Georeference

/-! ## What is read again -/

namespace Observation

/-- Whether the date of an observation has one of the years whose text is no date. -/
def HasUnreadableDate (o : Observation) : Prop :=
  ∃ d, o.acquired = some d ∧ -999 ≤ d.year ∧ d.year ≤ -1

theorem readBack_eq_ok {o : Observation} (h : ¬ o.HasUnreadableDate) : o.readBack = .ok o := by
  unfold readBack
  cases acquired : o.acquired with
  | none => rfl
  | some d =>
    have year : d.year ≤ -1000 ∨ 0 ≤ d.year := by
      by_contra other
      exact h ⟨d, acquired, by omega, by omega⟩
    simp only [Date.readBack, Date.readChars?_chars d year, bind, Except.bind]
    rw [← acquired]
    rfl

theorem readBack_eq_error {o : Observation} (h : o.HasUnreadableDate) :
    ∃ text, o.readBack = .error (.storage (.invalidDate text (some "acquisitio"))) := by
  obtain ⟨d, acquired, years⟩ := h
  refine ⟨d.text, ?_⟩
  unfold readBack
  simp only [acquired, Date.readBack, Date.readChars?_chars_eq_none d years]
  rfl

end Observation

theorem readObservation_eq_ok {r : Stored (Owned Observation)}
    (h : ¬ r.content.content.HasUnreadableDate) : readObservation r = .ok r := by
  unfold readObservation
  rw [Observation.readBack_eq_ok h]
  rfl

theorem readObservation_eq_error {r : Stored (Owned Observation)}
    (h : r.content.content.HasUnreadableDate) :
    ∃ text, readObservation r = .error (.storage (.invalidDate text (some "acquisitio"))) := by
  obtain ⟨text, refused⟩ := Observation.readBack_eq_error h
  refine ⟨text, ?_⟩
  unfold readObservation
  rw [refused]
  rfl

end SceneArchive
