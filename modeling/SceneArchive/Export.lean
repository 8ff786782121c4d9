import SceneArchive.Error
import SceneArchive.Path
import SceneArchive.Csv
import SceneArchive.Toml.Printer
import SceneArchive.Yaml.Printer

/-!
# Export of trees

The four formats in which a list of trees is written.
-/

namespace SceneArchive

/-- A format of exported text. -/
inductive ExportFormat where
  | json
  | csv
  | toml
  | yaml
  deriving DecidableEq, Repr

namespace ExportFormat

/-- Every format. -/
def all : List ExportFormat := [json, csv, toml, yaml]

/-- The name of a format, which is also the extension of its files. -/
def tag : ExportFormat → String
  | json => "json"
  | csv => "csv"
  | toml => "toml"
  | yaml => "yaml"

/-- The names of each format. -/
def names : List (String × ExportFormat) := ("yml", yaml) :: all.map fun f => (f.tag, f)

/-- The format of a name in any case of ASCII letters. -/
def ofTag? (tag : String) : Option ExportFormat :=
  (names.find? fun (name, _) => name.toList == tag.toList.map Char.toLower).map (·.2)

/-- The format of a name; other names are refused. -/
def ofTag (tag : String) : Except IndexError ExportFormat :=
  match ofTag? tag with
  | some format => .ok format
  | none => .error (.argument (.unknownFormat tag))

/-- The format that the extension of a path names. -/
def ofPath? (path : String) : Option ExportFormat := (Path.extension? path).bind ofTag?

end ExportFormat

/-- The list of trees in a format. TOML has no null, so nulls are left out there, and no integer
above those of signed sixty-four bits. -/
def exportTrees (format : ExportFormat) (trees : List Json) : Except IndexError String :=
  match format with
  | .json => .ok ((Json.array trees).pretty ++ "\n")
  | .csv => .ok (Csv.text trees)
  | .toml =>
    let records := Toml.itemsWithoutNulls trees
    if Toml.itemsFit records then .ok (Toml.document [("records", .array records)])
    else .error (.encoding .tomlInteger)
  | .yaml => .ok (Yaml.document trees)

end SceneArchive
