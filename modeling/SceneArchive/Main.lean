import Std.Time.Format
import SceneArchive.CommandLine.Run

/-!
# The program

Runs a call over the files and the environment of the process.
-/

namespace SceneArchive.Program

/-- The fault behind an error of the operating system. -/
def faultOf : IO.Error → FileFault
  | .noFileOrDirectory .. => .missing
  | .inappropriateType _ code _ => if code == 21 then .isDirectory else .notDirectory
  | .alreadyExists .. => .fileExists
  | .permissionDenied .. => .denied
  | .invalidArgument _ 36 _ => .nameTooLong
  | _ => .denied

/-- An action with its fault as a value. -/
def attempt {α : Type} (action : IO α) : IO (Except FileFault α) := do
  try
    return .ok (← action)
  catch e =>
    return .error (faultOf e)

/-- What a path leads to. A directory opens, but nothing can be read from it. -/
def status (path : String) : IO PathStatus := do
  match ← attempt (IO.FS.Handle.mk path .read) with
  | .error .missing | .error .notDirectory | .error .nameTooLong => return .missing
  | .error .isDirectory => return .directory
  | .error _ => return .file
  | .ok handle =>
    match ← attempt (handle.read 1) with
    | .error .isDirectory => return .directory
    | _ => return .file

/-- The files of the process. -/
def files : Files IO where
  status := status
  read path := attempt (IO.FS.readBinFile path)
  write path bytes := attempt (IO.FS.writeBinFile path bytes)
  remove path := discard (attempt (IO.FS.removeFile path))
  createDirectories path := attempt (IO.FS.createDirAll path)

/-- The environment of the process. -/
def environment : IO CommandLine.Environment := do
  return {
    database := ← IO.getEnv "SCENEDEX_DB"
    config := ← IO.getEnv "SCENEDEX_CONFIG"
    configHome := ← IO.getEnv "XDG_CONFIG_HOME"
    home := (← IO.getEnv "HOME").filter (!·.isEmpty) }

/-- A time with a fraction of a second, without the zeros at its end. -/
def withoutFinalZeros (time : String) : String :=
  match time.toList.reverse.dropWhile (· == '0') with
  | '.' :: rest => String.ofList rest.reverse
  | rest => String.ofList rest.reverse

/-- The time as it is stored with records. -/
def now : IO String := do
  let moment := Std.Time.DateTime.ofTimestamp (← Std.Time.Timestamp.now) .UTC
  return withoutFinalZeros (moment.date.get.format "uuuu-MM-dd'T'HH:mm:ss.SSSSSSSSS") ++ "Z"

end SceneArchive.Program

/-- Runs the call of the arguments of the process. -/
def main (arguments : List String) : IO UInt32 := do
  let environment ← SceneArchive.Program.environment
  let now ← SceneArchive.Program.now
  let outcome ← SceneArchive.CommandLine.run SceneArchive.Program.files environment now arguments
  IO.print outcome.stdout
  IO.eprint outcome.stderr
  return outcome.exitCode.toUInt32
