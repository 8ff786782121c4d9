import SceneArchive.Store.Basic
import SceneArchive.Json.Reader

/-!
# Stores as text

A store as one JSON text, and the store that such a text holds. Numbers are written by their bits,
so that every one of them reads back. In a file a byte that begins no text stands before the text,
so that no text is taken for the file of a store.
-/

namespace SceneArchive

namespace Dump

/-- A double by its bits. -/
def float (x : Float) : Json := .int (Binary64.bits x)

/-- The double of a tree. -/
def float? : Json → Option Float
  | .number (.int n) => some (Float.ofBits (UInt64.ofNat n.toNat))
  | _ => none

/-- The text of a tree. -/
def text? : Json → Option String
  | .string s => some s
  | _ => none

/-- The integer of a tree. -/
def int? : Json → Option Int
  | .number (.int n) => some n
  | _ => none

/-- A date that may be missing. -/
def date : Option Date → Json
  | none => .null
  | some d => .array [.int d.year, .int d.month, .int d.day]

/-- The date of a tree, if it holds one or null. -/
def date? : Json → Option (Option Date)
  | .null => some none
  | .array [y, m, d] => do
    some (some (← Date.ofParts? (← int? y) (← int? m).toNat (← int? d).toNat))
  | _ => none

/-- The content of a directory. -/
def directory (d : Directory) : List Json := [.string d.token, .string d.path]

/-- The directory of its written content. -/
def directory? : List Json → Option Directory
  | [token, path] => do some ⟨← text? token, ← text? path⟩
  | _ => none

/-- The content of an observation. -/
def observation (o : Observation) : List Json :=
  [ .string o.batch, .int o.tarSize, .string o.satellite, .string o.sensor, date o.acquired,
    float o.cloudPercent, .int o.orbit, .int o.scenePath, .int o.sceneRow ]

/-- The observation of its written content. -/
def observation? : List Json → Option Observation
  | [a, b, c, d, e, f, g, h, i] => do
    some ⟨← text? a, ← int? b, ← text? c, ← text? d, ← date? e, ← float? f, ← int? g, ← int? h,
      ← int? i⟩
  | _ => none

/-- The content of a projection. -/
def projection (p : Projection) : List Json :=
  [ .string p.schema, .string p.type, .string p.name, .string p.datumType, .string p.datumName,
    .string p.ellipsoidName, float p.semiMajorAxis, float p.inverseFlattening,
    .string p.datumAuthority, .int p.datumCode, .string p.subtype ]

/-- The projection of its written content. -/
def projection? : List Json → Option Projection
  | [a, b, c, d, e, f, g, h, i, j, k] => do
    some ⟨← text? a, ← text? b, ← text? c, ← text? d, ← text? e, ← text? f, ← float? g,
      ← float? h, ← text? i, ← int? j, ← text? k⟩
  | _ => none

/-- The content of an axis. -/
def axis (a : Axis) : List Json :=
  [ .string a.name, .string a.abbreviation, .string a.direction, .string a.unitType,
    .string a.unitName, float a.conversionFactor ]

/-- The axis of its written content. -/
def axis? : List Json → Option Axis
  | [a, b, c, d, e, f] => do
    some ⟨← text? a, ← text? b, ← text? c, ← text? d, ← text? e, ← float? f⟩
  | _ => none

/-- The content of a georeference file. -/
def georeference (g : Georeference) : List Json :=
  .string g.path :: .string g.image :: g.placement.toList.map float

/-- The georeference file of its written content. -/
def georeference? : List Json → Option Georeference
  | [path, image, a, b, c, d, e, f] => do
    some ⟨← text? path, ← text? image,
      ⟨← float? a, ← float? b, ← float? c, ← float? d, ← float? e, ← float? f⟩⟩
  | _ => none

/-- Content with its owner before it. -/
def owned {α : Type} (content : α → List Json) (o : Owned α) : List Json :=
  .int o.owner :: content o.content

/-- The owned content of its written form. -/
def owned? {α : Type} (content? : List Json → Option α) : List Json → Option (Owned α)
  | owner :: rest => do some ⟨← int? owner, ← content? rest⟩
  | [] => none

/-- A record. -/
def record {α : Type} (content : α → List Json) (r : Stored α) : Json :=
  .array (.int r.id :: .string r.created :: .string r.updated :: content r.content)

/-- The record of a tree. -/
def record? {α : Type} (content? : List Json → Option α) : Json → Option (Stored α)
  | .array (id :: created :: updated :: rest) => do
    some ⟨← int? id, ← text? created, ← text? updated, ← content? rest⟩
  | _ => none

/-- A table. -/
def table {α : Type} (content : α → List Json) (t : RecordTable α) : Json :=
  .array (.int t.lastId :: t.rows.map (record content))

/-- The table of a tree. -/
def table? {α : Type} (content? : List Json → Option α) : Option Json → Option (RecordTable α)
  | some (.array (lastId :: rows)) => do some ⟨← int? lastId, ← rows.mapM (record? content?)⟩
  | _ => none

end Dump

namespace Store

/-- The text of a store. -/
def dump (s : Store) : String :=
  (Json.ofFields
    [ (Kind.metadataDirectory.name, Dump.table Dump.directory s.directories),
      (Kind.observationRecord.name, Dump.table (Dump.owned Dump.observation) s.observations),
      (Kind.projectionDefinition.name, Dump.table (Dump.owned Dump.projection) s.projections),
      (Kind.axisEntry.name, Dump.table (Dump.owned Dump.axis) s.axes),
      (Kind.georeferenceFile.name, Dump.table (Dump.owned Dump.georeference) s.georeferences)
    ]).compact

/-- The store of a text, if the text holds one. -/
def ofDump? (text : String) : Option Store := do
  let tree ← Json.read? text
  let table (kind : Kind) := tree.field? kind.name
  some {
    directories := ← Dump.table? Dump.directory? (table .metadataDirectory)
    observations := ← Dump.table? (Dump.owned? Dump.observation?) (table .observationRecord)
    projections := ← Dump.table? (Dump.owned? Dump.projection?) (table .projectionDefinition)
    axes := ← Dump.table? (Dump.owned? Dump.axis?) (table .axisEntry)
    georeferences := ← Dump.table? (Dump.owned? Dump.georeference?) (table .georeferenceFile) }

/-! ## The file of a store -/

/-- The first byte of the file of a store, which no text has. It says whether changes of the file go
through a log. -/
def fileMark (logged : Bool) : UInt8 := if logged then 0xff else 0xfe

/-- The bytes of the file of a store. -/
def fileBytes (logged : Bool) (s : Store) : ByteArray :=
  (ByteArray.empty.push (fileMark logged)).append s.dump.toUTF8

/-- Whether changes of a file go through a log, and the store in it, if the bytes are those of the
file of a store. -/
def ofFileBytes? (bytes : ByteArray) : Option (Bool × Store) := do
  let logged ← [true, false].find? fun logged => bytes.data[0]? == some (fileMark logged)
  let store ← ofDump? (← String.fromUTF8? (bytes.extract 1 bytes.size))
  return (logged, store)

end Store

end SceneArchive
