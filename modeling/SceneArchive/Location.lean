import SceneArchive.Error
import SceneArchive.Json.Reader
import SceneArchive.Path
import SceneArchive.Text.Bytes

/-!
# Locations of databases

What the name of a database stands for: a file, or memory alone. A name may be a path or a URI that
begins with `file:`, whose options say how the file is to be used. Of a path the text is resolved,
without a look at the directories on the way.
-/

namespace SceneArchive

/-- What may be done to a file. -/
inductive Access where
  | readOnly
  /-- Reading and writing the file if it is there. -/
  | existing
  /-- Reading, writing and creating the file. -/
  | full
  deriving DecidableEq, Repr

/-- What keeps the changes of a database whole. -/
inductive Journal where
  /-- A file that stands beside the database while a change is made. -/
  | temporary
  /-- A log that stands beside the database while it is open. -/
  | log
  /-- A log and what the programs that use it share. -/
  | sharedLog
  deriving DecidableEq, Repr

/-- The file of a database and how it is to be used. -/
structure DatabaseFile where
  /-- The path as it is given. -/
  given : String
  access : Access
  /-- Whether the file is taken for one that never changes. -/
  frozen : Bool
  journal : Journal
  /-- The path of a file whose permissions a new file takes. -/
  model : Option String
  deriving DecidableEq, Repr

/-- The path of the file. -/
def DatabaseFile.path (f : DatabaseFile) : String := Path.resolved f.given

/-- Whether a database may be changed. -/
def DatabaseFile.isWritable (f : DatabaseFile) : Bool := f.access ≠ .readOnly && !f.frozen

/-- Where a database is kept. -/
inductive Location where
  | memory (isWritable : Bool)
  | file (f : DatabaseFile)
  deriving DecidableEq, Repr

/-- Whether a database may be changed. -/
def Location.isWritable : Location → Bool
  | memory isWritable => isWritable
  | file f => f.isWritable

namespace Location

/-! ## Pieces of a URI -/

/-- The bytes of a text with the bytes that are written by two digits behind a percent sign. A zero
ends the text. -/
def decodedBytes : List Char → List UInt8
  | '%' :: high :: low :: rest =>
    match Json.hexValue? high, Json.hexValue? low with
    | some high, some low =>
      let byte := 16 * high + low
      if byte = 0 then [] else UInt8.ofNat byte :: decodedBytes rest
    | _, _ => 0x25 :: decodedBytes (high :: low :: rest)
  | c :: rest => (String.singleton c).toUTF8.toList ++ decodedBytes rest
  | [] => []

/-- A piece of a URI as text. -/
def decoded (s : List Char) : String := String.ofList (Text.ofBytes (decodedBytes s))

/-- The names and values of options. -/
abbrev Options := List (String × String)

/-- The name and the value of an option. -/
def optionOf (s : List Char) : String × String :=
  let (name, value) := s.span (· != '=')
  (decoded name, decoded (value.drop 1))

/-- The options behind the question mark of a URI, those with names. -/
def options (query : String) : Options :=
  (query.splitOn "&").map (fun s => optionOf s.toList) |>.filter fun (name, _) => name != ""

/-- The first value of an option. -/
def Options.value? (o : Options) (name : String) : Option String :=
  (o.find? (·.1 == name)).map (·.2)

/-! ## Switches -/

/-- The number that begins a text, in a base of ten or sixteen; zero if it is none of thirty-one
bits. -/
def leadingNumber (s : List Char) : Nat :=
  let n := match s with
    | '0' :: 'x' :: rest | '0' :: 'X' :: rest =>
      (rest.takeWhile fun c => (Json.hexValue? c).isSome).foldl
        (fun n c => 16 * n + (Json.hexValue? c).getD 0) 0
    | s => Decimal.valueOfDigits (s.takeWhile Char.isDigit)
  if n < 0x80000000 then n else 0

/-- Whether a value turns a switch on: a word that says so, or a number whose last byte is not
zero. -/
def turnsOn (value : String) : Bool :=
  if value.toList.head?.any Char.isDigit then leadingNumber value.toList % 256 != 0
  else ["on", "yes", "true"].contains (String.ofList (value.toList.map Char.toLower))

/-- Whether a switch is on. -/
def Options.isOn (o : Options) (name : String) : Bool := (o.value? name).any turnsOn

/-! ## Modes -/

/-- What the modes of a URI ask for. -/
structure Mode where
  inMemory : Bool := false
  access : Access := .full
  deriving DecidableEq, Repr

/-- Whether an access grants no more than another one. -/
def grantsNoMore (access limit : Access) : Bool :=
  match access, limit with
  | .readOnly, _ | _, .full | .existing, .existing => true
  | _, _ => false

/-- A mode with an access, which is refused if it grants more than the access before it. -/
def Mode.restrict (m : Mode) (given : String) (access : Access) : Except UriFault Mode :=
  if m.inMemory || grantsNoMore access m.access then .ok ⟨false, access⟩
  else .error (.accessNotAllowed given)

/-- A mode after one more option. -/
def Mode.after (m : Mode) (name value : String) : Except UriFault Mode :=
  match name with
  | "cache" =>
    if value == "shared" || value == "private" then .ok m else .error (.cacheMode value)
  | "mode" =>
    match value with
    | "ro" => m.restrict value .readOnly
    | "rw" => m.restrict value .existing
    | "rwc" => m.restrict value .full
    | "memory" => .ok ⟨true, .full⟩
    | _ => .error (.accessMode value)
  | _ => .ok m

/-! ## File systems -/

/-- The ways in which files are reached. -/
inductive FileSystem where
  /-- Programs share a file by locks. -/
  | locking
  /-- A program has a file for itself. -/
  | exclusive
  /-- Nothing keeps programs apart that a log could rest on. -/
  | plain
  /-- Files are kept in memory. -/
  | inMemory
  deriving DecidableEq, Repr

/-- The file system of a name. -/
def FileSystem.ofName? : String → Option FileSystem
  | "unix" => some locking
  | "unix-excl" => some exclusive
  | "unix-none" | "unix-dotfile" => some plain
  | "memdb" => some inMemory
  | _ => none

/-- The file system that is asked for last. -/
def Options.fileSystem (o : Options) : Except UriFault FileSystem :=
  match Options.value? o.reverse "vfs" with
  | none => .ok .locking
  | some name =>
    match FileSystem.ofName? name with
    | some fileSystem => .ok fileSystem
    | none => .error (.fileSystem name)

/-! ## Names -/

/-- The journal of a database. Only a program that may change a file has it for itself. -/
def journalOf (fileSystem : FileSystem) (o : Options) (access : Access) : Journal :=
  if fileSystem = .plain || o.isOn "nolock" then .temporary
  else if fileSystem = .exclusive && access ≠ .readOnly then .log
  else .sharedLog

/-- The location of a path that is used as options ask. Nothing and the name `:memory:` stand for
memory. -/
def ofPath (path : String) (fileSystem : FileSystem) (mode : Mode) (o : Options) : Location :=
  if mode.inMemory then .memory true
  else if path.isEmpty || path == ":memory:" then .memory (mode.access ≠ .readOnly)
  else
    let f : DatabaseFile :=
      { given := path
        access := mode.access
        frozen := o.isOn "immutable"
        journal := journalOf fileSystem o mode.access
        model := o.value? "modeof" }
    if fileSystem = .inMemory then .memory f.isWritable else .file f

/-- What follows the authority of a URI, which is that of this machine. -/
def afterAuthority (s : List Char) : Except UriFault (List Char) :=
  match s with
  | '/' :: '/' :: rest =>
    let (authority, rest) := rest.span (· != '/')
    if authority.isEmpty || authority == "localhost".toList then .ok rest
    else .error (.authority (String.ofList authority))
  | s => .ok s

/-- The location of what follows the scheme of a URI. -/
def ofUri (s : List Char) : Except UriFault Location := do
  let s := (← afterAuthority s).takeWhile (· != '#')
  let (path, query) := s.span (· != '?')
  let o := options (String.ofList (query.drop 1))
  let mode ← o.foldlM (fun (m : Mode) (name, value) => m.after name value) {}
  return ofPath (decoded path) (← o.fileSystem) mode o

/-- The location of a name. -/
def ofName (name : String) : Except UriFault Location :=
  match name.toList with
  | 'f' :: 'i' :: 'l' :: 'e' :: ':' :: rest => ofUri rest
  | _ => .ok (ofPath name .locking {} [])

end Location

end SceneArchive
