import SceneArchive.Error
import SceneArchive.Manifest.Decode

/-!
# Failures of a call

Each failure holds its cause; `Failure.message` words it.
-/

namespace SceneArchive.CommandLine

/-- Why a call fails. -/
inductive Failure where
  /-- The log directive cannot be read to its end. -/
  | directiveBroken
  | configUnreadable (path : String) (fault : FileFault)
  | configMalformed (path : String)
  | configSynchronous (given : String)
  | configExportFormat (given : String)
  | noDatabase
  | manifestUnreadable (path : String) (fault : FileFault)
  | manifestMalformed (path : String)
  | manifestInvalid (path : String) (error : DecodeError)
  | target (fault : FileFault)
  | index (error : IndexError)

/-- The text of a failure. -/
def Failure.message : Failure → String
  | directiveBroken => "the log directive is cut inside a character"
  | configUnreadable path fault => s!"failed to read CLI config {path}: {fault.message}"
  | configMalformed path => s!"failed to parse CLI config {path}"
  | configSynchronous given => s!"config synchronous value '{given}' is invalid"
  | configExportFormat given =>
    s!"config export format '{given}' is invalid (expected json, csv, toml or yaml)"
  | noDatabase => "no database given; pass --db or set [database] default in the config"
  | manifestUnreadable path fault => s!"failed to read manifest {path}: {fault.message}"
  | manifestMalformed path => s!"failed to parse manifest {path}"
  | manifestInvalid path error => s!"invalid manifest {path}: {error.message}"
  | target fault => fault.message
  | index error => error.message

/-- The exit code of a failure. -/
def Failure.exitCode : Failure → Nat
  | directiveBroken => 101
  | _ => 1

end SceneArchive.CommandLine
