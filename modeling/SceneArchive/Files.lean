import SceneArchive.Error

/-!
# Files

What this library asks of the files around it. The operations are parameters, so that a command
can run over the files of a machine as well as over a `FileTree`.
-/

namespace SceneArchive

/-- What a path leads to. -/
inductive PathStatus where
  | missing
  | file
  | directory
  deriving DecidableEq, Repr

/-- Access to files. -/
structure Files (m : Type → Type) where
  /-- What a path leads to. -/
  status : String → m PathStatus
  /-- The bytes of a file. -/
  read : String → m (Except FileFault ByteArray)
  /-- Makes bytes the whole content of a file, which is created if it is missing. -/
  write : String → ByteArray → m (Except FileFault Unit)
  /-- Removes a file, if it is there. -/
  remove : String → m Unit
  /-- Creates a directory and those above it, as far as they are missing. -/
  createDirectories : String → m (Except FileFault Unit)

namespace Files

variable {m : Type → Type} [Monad m]

/-- The text that bytes stand for, if they stand for one. -/
def textOf (bytes : ByteArray) : Except FileFault String :=
  match String.fromUTF8? bytes with
  | some text => .ok text
  | none => .error .notText

/-- The text of a file. -/
def readText (files : Files m) (path : String) : m (Except FileFault String) :=
  return (← files.read path).bind textOf

/-- Makes a text the whole content of a file. -/
def writeText (files : Files m) (path text : String) : m (Except FileFault Unit) :=
  files.write path text.toUTF8

end Files

end SceneArchive
