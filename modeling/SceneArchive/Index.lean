import SceneArchive.Files
import SceneArchive.Location
import SceneArchive.Store.Dump

/-!
# Indexes

An index is a store that is kept in a file or in memory alone. Opening reads the file, or creates
it and the directories above it; saving writes it. While an index is open a log may stand beside its
file. What is stored in an index that may only be read fails.
-/

namespace SceneArchive

/-- Where an index is to be kept. -/
inductive Backend where
  | memory
  /-- A database by its name. -/
  | file (name : String)
  deriving DecidableEq, Repr

/-- An opened index. -/
structure Index where
  location : Location
  store : Store
  deriving Repr

namespace Index

/-- The index that is kept nowhere and holds nothing. -/
def inMemory : Index := ⟨.memory true, .empty⟩

variable {m : Type → Type} [Monad m]

/-- Writes an index to where it is kept. -/
def save (files : Files m) (index : Index) : m (Except IndexError Unit) := do
  match index.location with
  | .memory _ => return .ok ()
  | .file f =>
    if !f.isWritable then return .ok ()
    match ← files.write f.path (index.store.fileBytes (f.journal ≠ .temporary)) with
    | .ok _ => return .ok ()
    | .error _ => return .error (.storage (.cannotOpen f.path))

/-! ## Files beside the file of an index -/

/-- The file that stands beside the file of an index while a change is made. -/
def journalPath (f : DatabaseFile) : String := f.path ++ "-journal"

/-- The log of the file of an index. -/
def logPath (f : DatabaseFile) : String := f.path ++ "-wal"

/-- What the programs share that use a log. -/
def sharedPath (f : DatabaseFile) : String := f.path ++ "-shm"

/-- Puts the log of an index beside its file. -/
def openLog (files : Files m) (f : DatabaseFile) : m (Except IndexError Unit) := do
  if f.journal = .temporary then return .ok ()
  match ← files.write (logPath f) .empty with
  | .error _ => return .error (.storage .inputOutput)
  | .ok _ =>
    if f.journal = .log then return .ok ()
    match ← files.write (sharedPath f) .empty with
    | .error _ => return .error (.storage .readOnly)
    | .ok _ => return .ok ()

/-- Takes the log of an index away. The log of an index that may not be changed stays. -/
def close (files : Files m) (index : Index) : m Unit := do
  match index.location with
  | .memory _ => return ()
  | .file f =>
    if f.isWritable && f.journal ≠ .temporary then
      files.remove (logPath f)
      files.remove (sharedPath f)

/-! ## Opening -/

/-- Makes room for the file of an index that is not there yet. -/
def prepare (files : Files m) (path : String) (create : Bool) : m (Except IndexError Unit) := do
  if !create then return .error (.missingDatabase path)
  match Path.directory? path with
  | none => return .ok ()
  | some directory => return (← files.createDirectories directory).mapError .file

/-- Writes the file of an index anew. -/
def establish (files : Files m) (f : DatabaseFile) (store : Store) :
    m (Except IndexError Index) := do
  if !f.isWritable then return .error (.storage .readOnly)
  match ← files.write (journalPath f) .empty with
  | .error _ => return .error (.storage .cannotOpenCompanion)
  | .ok _ =>
    files.remove (journalPath f)
    match ← openLog files f with
    | .error e => return .error e
    | .ok _ =>
      let index : Index := ⟨.file f, store⟩
      return (← index.save files).map fun _ => index

/-- Goes on with the file of an index, which is `logged` or not. Its log needs a place to stand; a
file without one is written anew if the index is to have a log. -/
def resume (files : Files m) (f : DatabaseFile) (logged : Bool) (store : Store) :
    m (Except IndexError Index) := do
  let index : Index := ⟨.file f, store⟩
  if f.frozen then return .ok index
  match logged, f.journal with
  | true, .temporary => return .error (.storage .cannotOpenCompanion)
  | false, .temporary => return .ok index
  | true, _ => return (← openLog files f).map fun _ => index
  | false, _ => establish files f store

/-- Opens an index by the bytes of its file. A file of one byte is as good as an empty one. -/
def openBytes (files : Files m) (f : DatabaseFile) (bytes : ByteArray) :
    m (Except IndexError Index) :=
  if bytes.size ≤ 1 then establish files f .empty
  else
    match Store.ofFileBytes? bytes with
    | some (logged, store) => resume files f logged store
    | none => return .error (.storage .notDatabase)

/-- The most bytes that the path of a database has. -/
def longestPath : Nat := 480

/-- Whether the file of a database can be reached: its path is not too long, and no name of the
given path is looked up in a file. -/
def isReachable (files : Files m) (f : DatabaseFile) : m Bool := do
  if longestPath < f.path.utf8ByteSize then return false
  else (Path.lookups [] (Path.components f.given)).allM fun directory =>
    return (← files.status directory) != .file

/-- Whether the file whose permissions a new file takes is missing. -/
def lacksModel (files : Files m) (f : DatabaseFile) : m Bool :=
  match f.model with
  | some path => return (← files.status path) == .missing
  | none => return false

/-- Opens the file of a database, whose name faults show. -/
def openAt (files : Files m) (name : String) (f : DatabaseFile) : m (Except IndexError Index) := do
  let failed := .error (.storage (.cannotOpen name))
  if !(← isReachable files f) then return failed
  if ← lacksModel files f then return .error (.storage .inputOutput)
  match ← files.status f.path with
  | .directory => return if f.access = .readOnly then .error (.storage .inputOutput) else failed
  | .file =>
    match ← files.read f.path with
    | .ok bytes => openBytes files f bytes
    | .error _ => return failed
  | .missing =>
    if f.access ≠ .full then return failed
    match ← files.write f.path .empty with
    | .ok _ => openBytes files f .empty
    | .error _ => return failed

/-- How many bytes of a path stand before its first zero, if there is one. -/
def zeroPosition? (path : String) : Option Nat :=
  let (before, rest) := path.toList.span (· != '\x00')
  if rest.isEmpty then none else some (String.ofList before).utf8ByteSize

/-- Opens the database of a name. -/
def openNamed (files : Files m) (name : String) : m (Except IndexError Index) := do
  match zeroPosition? name with
  | some position => return .error (.storage (.zeroInPath position))
  | none =>
    match Location.ofName name with
    | .error fault => return .error (.storage (.invalidUri fault))
    | .ok (.memory true) => return .ok inMemory
    | .ok (.memory false) => return .error (.storage .readOnly)
    | .ok (.file f) => openAt files name f

/-- Opens the index of a name, creating it where no file is found by that name and creating is
allowed. -/
def openFile (files : Files m) (name : String) (create : Bool) : m (Except IndexError Index) := do
  match ← files.status name with
  | .missing =>
    match ← prepare files name create with
    | .error e => return .error e
    | .ok _ => openNamed files name
  | _ => openNamed files name

/-- Opens an index. -/
def openBackend (files : Files m) (backend : Backend) (create : Bool) :
    m (Except IndexError Index) :=
  match backend with
  | .memory => return .ok inMemory
  | .file name => openFile files name create

/-! ## Using an index -/

/-- Runs an action on the store of an index. An action that stores something fails where that is not
allowed, and stores nothing. -/
def run {α : Type} (index : Index) (action : StoreM α) : Except IndexError α × Index :=
  let (result, store) := action.outcome index.store
  if !index.location.isWritable && store.lastIds != index.store.lastIds then
    (.error (.storage .readOnly), index)
  else (result, { index with store })

end Index

end SceneArchive
