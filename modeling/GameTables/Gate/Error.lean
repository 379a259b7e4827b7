import GameTables.FileSystem.Error
import GameTables.Text.Quote

/-!
# Errors of the gate

Why a run of the gate ends without the outcome that was asked for.
-/

namespace GameTables

/-- What is missing among the arguments of the gate. -/
inductive MissingArgument where
  | separator
  | sentinel
  | command
  deriving DecidableEq, Repr

def MissingArgument.message : MissingArgument → String
  | .separator => "missing `--` before the command"
  | .sentinel => "missing sentinel file"
  | .command => "missing command after `--`"

inductive GateError where
  | usage (missing : MissingArgument)
  /-- The name of the sentinel is not made of capitals and underscores. -/
  | sentinelName (path : Bytes)
  | source (path : Bytes) (error : FileError)
  /-- The command could not be started. -/
  | start (program : String) (error : FileError)
  | commandFailed (status : Nat)
  | file (error : FileError)
  deriving DecidableEq, Repr

def GateError.message : GateError → String
  | .usage missing => missing.message
  | .sentinelName path => s!"Unacceptable sentinel file name {Text.shownBytes path}"
  | .source path error => s!"cannot read source file {Text.shownBytes path}: {error.message}"
  | .start program error => s!"failed to run {Text.shown program}: {error.message}"
  | .commandFailed status => s!"command exited with status {status}"
  | .file error => s!"IO error: {error.message}"

end GameTables
