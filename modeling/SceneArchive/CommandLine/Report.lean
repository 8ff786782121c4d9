import SceneArchive.CommandLine.Arguments
import SceneArchive.Store.Ingest
import SceneArchive.Store.Search

/-!
# Reports

What the commands print: as lines of text, or as one JSON value.
-/

namespace SceneArchive.CommandLine.Report

/-- Lines, each with its line break. -/
def lines (ls : List String) : String := String.join (ls.map (· ++ "\n"))

/-- A report in a format. -/
def print (format : OutputFormat) (tree : Json) (text : List String) : String :=
  match format with
  | .json => tree.pretty ++ "\n"
  | .text => lines text

/-- The line of what was stored for a manifest. -/
def ingestLine (s : IngestSummary) : String :=
  s!"{s.token} (directory {s.directoryId}): observations={s.observations} " ++
    s!"projections={s.projections} axes={s.axes} georeferences={s.georeferences}"

/-- The report of what was stored for manifests. -/
def ingest (format : OutputFormat) (summaries : List IngestSummary) : String :=
  print format (.array (summaries.map (·.toJson))) (summaries.map ingestLine)

/-- The report of the searchable fields of each kind. -/
def fields (format : OutputFormat) (kinds : NameMap (List String)) : String :=
  print format (.object (kinds.map fun (kind, names) => (kind, .array (names.map .string))))
    (kinds.flatMap fun (kind, names) => (kind ++ ":") :: names.map ("  " ++ ·))

/-- The report that a search was written to a file. -/
def written (count : Nat) (target : String) (format : ExportFormat) : String :=
  lines [s!"wrote {count} record(s) to {target} as {format.tag}"]

/-- A number of a summary, or a hyphen in its place. -/
def number (x : Option Float) : String := (x.map Decimal.Layout.plain.text).getD "-"

/-- The lines of a summary of values. -/
def statsLines : FieldStats → List String
  | .numeric s =>
    [ s!"  count={s.count} unique_count={s.uniqueCount}",
      "  min=" ++ number s.min ++ " max=" ++ number s.max,
      "  mean=" ++ number s.mean ++ " median=" ++ number s.median ++ " std_dev=" ++
        number (some s.stdDev),
      "  has_missing=" ++ if s.hasMissing then "true" else "false" ]
  | .text s =>
    [ s!"  count={s.count} unique_count={s.uniqueCount}",
      "  samples: " ++ ", ".intercalate s.sampleValues ]
  | .unsupported => ["  " ++ Stats.unsupportedText]

/-- The report of the values of a field. -/
def info (format : OutputFormat) (i : FieldInfo) : String :=
  print format i.toJson <|
    [ s!"field: {i.name}",
      s!"entity_kind: {i.kind.name}",
      s!"value_type: {i.type.name}" ] ++ statsLines i.stats

end SceneArchive.CommandLine.Report
