import SceneArchive.CommandLine.Config
import SceneArchive.CommandLine.Directive
import SceneArchive.CommandLine.Failure
import SceneArchive.CommandLine.Report
import SceneArchive.Index

/-!
# Running a call

A call reads its config, checks the log directive, finds and opens the database, and carries out
its command. Ingesting stops at the first failure and keeps what was stored before it; the other
commands change no database.
-/

namespace SceneArchive.CommandLine

/-- What a call leaves behind beside its files. -/
structure Outcome where
  exitCode : Nat
  stdout : String
  stderr : String
  deriving DecidableEq, Repr

/-- The version of the program. -/
def versionText : String := "scenedex 0.1.0\n"

/-- How the program is called. -/
def helpText : String :=
  Report.lines
    [ "Index, search and export satellite scene archive metadata",
      "",
      "Usage: scenedex [OPTIONS] <COMMAND>",
      "",
      "Commands:",
      "  ingest <MANIFEST>...   Ingest extracted directory manifests (JSON)",
      "  search --query <QUERY> Search georeference files and export the matches",
      "         [--to <FILE>] [--export <FORMAT>]",
      "  fields                 List searchable fields grouped by entity kind",
      "  info <FIELD>           Summarize the stored values of one field",
      "",
      "Options:",
      "      --config <FILE>           Path to the CLI config file",
      "      --db <FILE>               Index database",
      "      --log-level <DIRECTIVE>   Log filter, e.g. info or scenedex=debug",
      "      --synchronous <MODE>      full, normal or off",
      "      --format <FORMAT>         text or json",
      "  -h, --help                    Print help",
      "  -V, --version                 Print version" ]

/-- The outcome of arguments that are none of a call. -/
def Halt.outcome : Halt → Outcome
  | usage => ⟨2, "", "error: invalid arguments\n\n" ++ helpText⟩
  | help => ⟨0, helpText, ""⟩
  | version => ⟨0, versionText, ""⟩

/-- The outcome of a call: its report, or why it fails. -/
def Outcome.ofReport : Except Failure String → Outcome
  | .ok report => ⟨0, report, ""⟩
  | .error failure => ⟨failure.exitCode, "", "error: " ++ failure.message ++ "\n"⟩

variable {m : Type → Type} [Monad m]

/-! ## Before the command -/

/-- The config at a path. A missing file gives no defaults. -/
def loadConfig (files : Files m) : Option String → m (Except Failure Config)
  | none => return .ok {}
  | some path => do
    match ← files.status path with
    | .missing => return .ok {}
    | _ =>
      match ← files.readText path with
      | .error fault => return .error (.configUnreadable path fault)
      | .ok text =>
        match Config.ofToml? text with
        | some config => return .ok config
        | none => return .error (.configMalformed path)

/-- The log directive where none is given. -/
def defaultDirective : String := "warn"

/-- Refuses a log directive that is malformed. -/
def checkDirective (call : Call) (config : Config) : Except Failure Unit :=
  match Directive.check ((call.logLevel <|> config.logLevel).getD defaultDirective) with
  | .ok _ => .ok ()
  | .error .malformed => .error (.index (.argument .logLevel))
  | .error .broken => .error .directiveBroken

/-- The path of the database. -/
def databasePath (call : Call) (config : Config) : Except Failure String :=
  match call.database <|> config.database with
  | some path => .ok path
  | none => .error .noDatabase

/-- Refuses a synchronous mode of the config that the call does not set and that has no name of a
mode in any case. -/
def checkSynchronous (call : Call) (config : Config) : Except Failure Unit :=
  match call.synchronous, config.synchronous with
  | none, some given =>
    if (Synchronous.ofName? (String.ofList (given.toList.map Char.toLower))).isSome then .ok ()
    else .error (.configSynchronous given)
  | _, _ => .ok ()

/-- The path of the database of a call that is in order. -/
def prepare (call : Call) (config : Config) : Except Failure String := do
  checkDirective call config
  let path ← databasePath call config
  checkSynchronous call config
  return path

/-! ## Ingesting -/

/-- An activity on an index. What it has stored before it fails stays. -/
abbrev Session (m : Type → Type) (α : Type) := ExceptT Failure (StateT Index m) α

/-- The manifests of a tree, which is one or an array of them. -/
def manifestsOf (tree : Json) : Except DecodeError (List Manifest) :=
  match tree with
  | .array items => items.mapM Manifest.decode
  | single => (Manifest.decode single).map ([·])

/-- The manifests of a file. -/
def readManifests (files : Files m) (path : String) : m (Except Failure (List Manifest)) := do
  match ← files.readText path with
  | .error fault => return .error (.manifestUnreadable path fault)
  | .ok text =>
    match Json.read? text with
    | none => return .error (.manifestMalformed path)
    | some tree => return (manifestsOf tree).mapError (.manifestInvalid path)

/-- The images of a manifest that are files. -/
def presentImages (files : Files m) (manifest : Manifest) : m (List String) :=
  (manifest.georeferences.map (·.imagePath)).filterM fun path =>
    return (← files.status path) == .file

/-- Stores a manifest. -/
def ingestManifest (files : Files m) (now : String) (manifest : Manifest) :
    Session m IngestSummary := do
  let present ← (presentImages files manifest : m (List String))
  let (result, index) := (← get).run (Store.ingest (fun path => present.contains path) now manifest)
  set index
  match result with
  | .ok summary => return summary
  | .error e => throw (.index e)

/-- Stores the manifests of a file, all of which are read before. -/
def ingestFile (files : Files m) (now path : String) : Session m (List IngestSummary) := do
  match ← (readManifests files path : m (Except Failure (List Manifest))) with
  | .ok manifests => manifests.mapM (ingestManifest files now)
  | .error failure => throw failure

/-- Stores the manifests of files in order and saves the index, also where it fails. -/
def ingest (files : Files m) (now : String) (index : Index) (paths : List String) :
    m (Except Failure (List IngestSummary)) := do
  let (result, index) ← (paths.mapM (ingestFile files now) : Session m _).run.run index
  match ← index.save files with
  | .ok _ => return result.map List.flatten
  | .error e => return .error (.index e)

/-! ## Searching -/

/-- The format of an export: the one given, else the one of the extension of the target, else the
one of the config, else JSON. -/
def exportFormat (config : Config) (target : Option String) (format : Option ExportFormat) :
    Except Failure ExportFormat :=
  match format <|> target.bind ExportFormat.ofPath?, config.exportFormat with
  | some format, _ => .ok format
  | none, some given =>
    match ExportFormat.ofTag? given with
    | some format => .ok format
    | none => .error (.configExportFormat given)
  | none, none => .ok .json

/-- The number of matches of a query, the format they are exported in, and the exported text. -/
def matchesText (config : Config) (store : Store) (query : String) (target : Option String)
    (format : Option ExportFormat) : Except Failure (Nat × ExportFormat × String) := do
  let trees ← (store.searchTrees query).mapError .index
  let format ← exportFormat config target format
  let text ← (exportTrees format trees).mapError .index
  return (trees.length, format, text)

/-- Exports the matches of a query to a file or into the report. -/
def search (files : Files m) (config : Config) (store : Store) (query : String)
    (target : Option String) (format : Option ExportFormat) : m (Except Failure String) := do
  match matchesText config store query target format, target with
  | .error failure, _ => return .error failure
  | .ok (_, _, text), none => return .ok text
  | .ok (count, format, text), some path =>
    match ← files.writeText path text with
    | .ok _ => return .ok (Report.written count path format)
    | .error fault => return .error (.target fault)

/-! ## The call -/

/-- Whether a command creates a database that is missing. -/
def Command.creates : Command → Bool
  | ingest _ => true
  | _ => false

/-- Carries out a command on an opened index. -/
def Command.run (files : Files m) (now : String) (config : Config) (format : OutputFormat)
    (index : Index) : Command → m (Except Failure String)
  | .ingest manifests =>
    return (← CommandLine.ingest files now index manifests).map (Report.ingest format)
  | .search query target exported =>
    CommandLine.search files config index.store query target exported
  | .fields => return .ok (Report.fields format Catalog.standard.byKind)
  | .info field =>
    return ((index.store.fieldInfo field).mapError .index).map (Report.info format)

/-- Runs a call. -/
def Call.run (files : Files m) (environment : Environment) (now : String) (call : Call) :
    m (Except Failure String) := do
  match ← loadConfig files (call.config <|> environment.configPath?) with
  | .error failure => return .error failure
  | .ok config =>
    match prepare call config with
    | .error failure => return .error failure
    | .ok path =>
      match ← Index.openFile files path call.command.creates with
      | .error e => return .error (.index e)
      | .ok index =>
        let report ← call.command.run files now config call.format index
        index.close files
        return report

/-- Runs the call of arguments. -/
def run (files : Files m) (environment : Environment) (now : String) (arguments : List String) :
    m Outcome := do
  match Call.read environment arguments with
  | .error why => return why.outcome
  | .ok call => return .ofReport (← call.run files environment now)

end SceneArchive.CommandLine
