import GameTables.Gate.Run
import GameTables.PacketSource.Directory
import GameTables.TableSource.File

/-!
# Command lines

The three tools as they are called: the generator of the tables, the generator of the packet sources
and the gate. A tool is given the name it was called by and its arguments, and comes to an ending,
which has an exit status.
-/

namespace GameTables

/-- What the tools ask of the host apart from files. -/
class Terminal (m : Type → Type) where
  /-- Prints a text as an error. -/
  complain (text : String) : m Unit
  /-- Whether a variable of the environment is set, to whatever value. -/
  isSet (variableName : String) : m Bool

/-- How a tool ends. -/
inductive Ending where
  | done
  /-- The tool has said what is wrong, or leaves it to the command that it started. -/
  | stopped (status : Nat)
  /-- An error is reported. -/
  | failed (report : String)
  /-- An argument is no text, and the tool breaks off in a panic before it has looked at anything. -/
  | undecodable
  deriving DecidableEq, Repr

namespace Ending

def status : Ending → Nat
  | .done => 0
  | .stopped status => status
  | .failed _ => 1
  | .undecodable => 101

/-- The ending after a result. -/
def ofResult {ε α : Type} (message : ε → String) : Except ε α → Ending
  | .ok _ => .done
  | .error error => .failed (message error)

end Ending

namespace CommandLine

variable {m : Type → Type} {Handle : Type} [Monad m] [Storage m Handle] [Terminal m]

/-- The generator that the sources name: the file name of the tool, or all of what it was called by if
that has none. -/
def generatorName (program : Bytes) : String :=
  ((Path.fileName? program).getD program).toStringLossy

def isText (argument : Bytes) : Bool := argument.toString?.isSome

/-- Says how a tool is used. -/
def usage (program : Bytes) (arguments : String) : m Ending := do
  Terminal.complain s!"Usage: {program.toStringLossy} {arguments}\n"
  return .stopped 1

/-- The generator of the tables. -/
def tables (program : Bytes) (arguments : List Bytes) : m Ending := do
  if !(program :: arguments).all isText then return .undecodable
  match arguments with
  | [blocks, properties, out] =>
    return .ofResult TableError.message
      (← (TableSource.generateFile (generatorName program) blocks properties out).run)
  | _ => usage program "<blocks.json> <block_properties.json> <output.rs>"

/-- The generator of the packet sources. -/
def packets (program : Bytes) (arguments : List Bytes) : m Ending := do
  if !(program :: arguments).all isText then return .undecodable
  match arguments with
  | [document, out] =>
    return .ofResult PacketError.message
      (← (PacketSource.generateDirectory (generatorName program) document out).run)
  | _ => usage program "<packets.json> <out_dir>"

/-- The variable that forces the gate to start the command. -/
def forceVariable : String := "REGEN_GATE_FORCE"

/-- The gate, `start` being how commands are started. -/
def gate (start : List Bytes → ExceptT FileError m CommandEnd) (program : Bytes)
    (arguments : List Bytes) : m Ending := do
  match GateArguments.parse arguments with
  | .error missing =>
    Terminal.complain (missing.message ++ "\n")
    usage program "<source-file>... <sentinel-file> -- <command> [args...]"
  | .ok arguments =>
    match ← (Gate.run start (← Terminal.isSet forceVariable) arguments).run with
    | .error (.sentinelName path) =>
      Terminal.complain ((GateError.sentinelName path).message ++ ":\n")
      Terminal.complain "Basename can only contain uppercase letters and underscores\n"
      return .stopped 1
    | .error (.commandFailed status) => return .stopped status
    | result => return .ofResult GateError.message result

/-- A tool on all that it is called with: the name it is called by, and its arguments. Where even the name
is missing, it has one of its own. -/
def called (ownName : String) (tool : Bytes → List Bytes → m Ending) : List Bytes → m Ending
  | [] => tool (Bytes.ofString ownName) []
  | program :: arguments => tool program arguments

end CommandLine

end GameTables
