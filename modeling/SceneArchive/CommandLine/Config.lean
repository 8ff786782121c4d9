import SceneArchive.Toml.Reader

/-!
# Config files

The defaults of a call that a config file gives, a TOML document of three sections. Other keys and
sections are left alone. A section may also be an array of its values in declared order.
-/

namespace SceneArchive.CommandLine

/-- The contents of a config file. -/
structure Config where
  /-- The path of the database. -/
  database : Option String := none
  synchronous : Option String := none
  logLevel : Option String := none
  exportFormat : Option String := none
  deriving DecidableEq, Repr

namespace Config

/-- The text of a value that may be absent; other values than texts are refused. -/
def text? : Option Json → Option (Option String)
  | none => some none
  | some (.string s) => some (some s)
  | some _ => none

/-- The texts of the keys of a section. An array has to hold a text for each of them. A date or
time, which is read as null, has none of the keys. -/
def section? (keys : List String) : Option Json → Option (List (Option String))
  | none | some .null => some (keys.map fun _ => none)
  | some (.object fields) => keys.mapM fun key => text? (NameMap.get? fields key)
  | some (.array items) =>
    if items.length < keys.length then none
    else (items.take keys.length).mapM fun item => text? (some item)
  | some _ => none

/-- The config of a document. -/
def ofToml? (document : String) : Option Config := do
  let tree ← Toml.read? document
  match ← section? ["default", "synchronous"] (tree.field? "database"),
      ← section? ["level"] (tree.field? "logging"),
      ← section? ["format"] (tree.field? "export") with
  | [database, synchronous], [logLevel], [exportFormat] =>
    some { database, synchronous, logLevel, exportFormat }
  | _, _, _ => none

end Config

end SceneArchive.CommandLine
