import SceneArchive.Files
import SceneArchive.Path

/-!
# File trees

A directory with all that is in it, as a value. Paths are relative to it. A place above it begins
with the names of parents; what is beside it is missing, unless it is made.
-/

namespace SceneArchive

/-- The place of a file or directory: the names on the way to it, those of parents first. -/
abbrev Place := List (List Char)

/-- The directories and files below a directory. -/
structure FileTree where
  directories : List Place
  files : List (Place × ByteArray)

namespace FileTree

/-- The tree of an empty directory. -/
def empty : FileTree := ⟨[], []⟩

/-- The name of the parent of a directory. -/
def parentName : List Char := ['.', '.']

/-- Whether a place is a directory. The directory of the tree and those above it are. -/
def isDirectory (t : FileTree) (p : Place) : Bool :=
  p.all (· == parentName) || t.directories.contains p

/-- The place above a place. -/
def above (p : Place) : Place := if p.all (· == parentName) then p ++ [parentName] else p.dropLast

/-- The bytes of the file at a place. -/
def fileAt? (t : FileTree) (p : Place) : Option ByteArray :=
  (t.files.find? (·.1 == p)).map (·.2)

/-- What is at a place. -/
def statusAt (t : FileTree) (p : Place) : PathStatus :=
  if t.isDirectory p then .directory else if (t.fileAt? p).isSome then .file else .missing

/-- Whether a name is too long for that of a file. -/
def isLongName (name : List Char) : Bool := 255 < (String.ofList name).utf8ByteSize

/-- Refuses a path that no file can have. -/
def checkPath (path : String) : Except FileFault Unit :=
  if path.toList.contains '\x00' then .error .zeroInName
  else if 4096 ≤ path.utf8ByteSize then .error .nameTooLong
  else .ok ()

/-- The place that components lead to from a directory. Every component but the last has to lead
to a directory. -/
def walk (t : FileTree) (start : Place) : List PathComponent → Except FileFault Place
  | [] => .ok start
  | .root :: _ => .error .missing
  | .current :: rest => t.walk start rest
  | .parent :: rest => t.walk (above start) rest
  | .name name :: rest =>
    let next := start ++ [name]
    if isLongName name then .error .nameTooLong
    else if rest.isEmpty then .ok next
    else
      match t.statusAt next with
      | .directory => t.walk next rest
      | .file => .error .notDirectory
      | .missing => .error .missing

/-- Whether a path can only be one of a directory, by what stands at its end. -/
def demandsDirectory (path : String) : Bool :=
  match path.toList.reverse with
  | '/' :: _ => true
  | '.' :: '/' :: _ => true
  | _ => false

/-- The place of a path. -/
def locate (t : FileTree) (path : String) : Except FileFault Place := do
  checkPath path
  if path.isEmpty then throw .missing
  let place ← t.walk [] (Path.components path)
  if demandsDirectory path && t.statusAt place == .file then throw .notDirectory
  return place

/-- What a path leads to. -/
def status (t : FileTree) (path : String) : PathStatus :=
  match t.locate path with
  | .ok place => t.statusAt place
  | .error _ => .missing

/-- Whether a path leads to a file. -/
def isFile (t : FileTree) (path : String) : Bool := t.status path == .file

/-- The bytes of a file. -/
def read (t : FileTree) (path : String) : Except FileFault ByteArray := do
  let place ← t.locate path
  if t.isDirectory place then throw .isDirectory
  match t.fileAt? place with
  | some bytes => return bytes
  | none => throw .missing

/-- The files without one. -/
def without (t : FileTree) (place : Place) : FileTree :=
  { t with files := t.files.filter (·.1 != place) }

/-- Makes bytes the content at a place. -/
def putFile (t : FileTree) (place : Place) (bytes : ByteArray) : FileTree :=
  { t with files := (place, bytes) :: (t.without place).files }

/-- Writes a file in a directory that is there. -/
def write (t : FileTree) (path : String) (bytes : ByteArray) : Except FileFault FileTree := do
  let place ← t.locate path
  if t.isDirectory place || demandsDirectory path then throw .isDirectory
  if t.statusAt place.dropLast != .directory then throw .missing
  return t.putFile place bytes

/-- Removes a file, if it is there. -/
def remove (t : FileTree) (path : String) : FileTree :=
  match t.locate path with
  | .ok place => t.without place
  | .error _ => t

/-- Creates the directories on the way from a directory. Those created before a fault stay. -/
def makeDirectories (t : FileTree) (start : Place) :
    List PathComponent → Except FileFault Unit × FileTree
  | [] => (.ok (), t)
  | .root :: _ => (.error .missing, t)
  | .current :: rest => t.makeDirectories start rest
  | .parent :: rest => t.makeDirectories (above start) rest
  | .name name :: rest =>
    let next := start ++ [name]
    if isLongName name then (.error .nameTooLong, t)
    else
      match t.statusAt next with
      | .directory => t.makeDirectories next rest
      | .file => (.error (if rest.isEmpty then .fileExists else .notDirectory), t)
      | .missing => makeDirectories { t with directories := next :: t.directories } next rest

/-- Creates a directory and those above it. -/
def createDirectories (t : FileTree) (path : String) : Except FileFault Unit × FileTree :=
  match checkPath path with
  | .ok _ => t.makeDirectories [] (Path.components path)
  | .error fault => (.error fault, t)

/-- Adds a file and the directories above it, as far as they are missing. -/
def addFile (t : FileTree) (path text : String) : FileTree :=
  let components := Path.components path
  let t := (t.makeDirectories [] components.dropLast).2
  match t.walk [] components with
  | .ok place => t.putFile place text.toUTF8
  | .error _ => t

/-- Adds a directory. -/
def addDirectory (t : FileTree) (path : String) : FileTree := (t.createDirectories path).2

/-- An operation that changes the tree if it does not fail. -/
def change (f : FileTree → Except FileFault FileTree) : StateM FileTree (Except FileFault Unit) :=
  fun t =>
    match f t with
    | .ok t => (.ok (), t)
    | .error fault => (.error fault, t)

/-- Access to the files of a tree. -/
def access : Files (StateM FileTree) where
  status path := return (← get).status path
  read path := return (← get).read path
  write path bytes := change (·.write path bytes)
  remove path := modify (·.remove path)
  createDirectories path := fun t => t.createDirectories path

end FileTree

end SceneArchive
