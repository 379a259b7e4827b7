import GameTables.Gate.Arguments
import GameTables.Storage.Basic

/-!
# Runs of the gate

The gate starts a command when the sentinel is missing or older than a source, and sets the time of
the sentinel when the command has succeeded. A command that failed is started again by the next run,
as the sentinel is left as it was. The name of the sentinel is made of capitals and underscores, so
that the gate never writes to a file of another purpose.
-/

namespace GameTables

/-- How a command that was started came to its end. -/
inductive CommandEnd where
  | exited (status : UInt8)
  | killed
  deriving DecidableEq, Repr

/-- What a run of the gate came to. -/
inductive Outcome where
  /-- The sentinel is newer than every source; nothing was started. -/
  | upToDate
  /-- The command succeeded, and the sentinel has a new time. -/
  | regenerated
  deriving DecidableEq, Repr

namespace Gate

/-! ## Names of sentinels -/

def isCapital (b : UInt8) : Bool :=
  65 ≤ b && b ≤ 90

def isSentinelByte (b : UInt8) : Bool :=
  isCapital b || b == 95

/-- Whether a path can be a sentinel. The path must not end in a separator, as it then leads to a
directory. -/
def isSentinel (path : Bytes) : Bool :=
  path.getLast? != some Path.separator &&
    match Path.fileName? path with
    | none => false
    | some name => name != [] && name.all isSentinelByte

def checkSentinel (path : Bytes) : Except GateError Unit :=
  if isSentinel path then .ok () else .error (.sentinelName path)

/-! ## Running -/

variable {m : Type → Type} {Handle : Type} [Monad m] [Storage m Handle]

/-- Whether a source is newer than a sentinel of the given time. The sources are looked at in order,
up to the first that is. -/
def isSomeNewer (stamp : Time) : List Bytes → ExceptT GateError m Bool
  | [] => return false
  | source :: rest => do
    let modified ← (Storage.modified source).adapt (.source source)
    if stamp < modified then return true else isSomeNewer stamp rest

/-- Whether the sentinel is missing or older than a source. -/
def isOutOfDate (sentinel : Bytes) (sources : List Bytes) : ExceptT GateError m Bool := do
  match ← (Storage.modified sentinel : ExceptT FileError m Time).run with
  | .ok stamp => isSomeNewer stamp sources
  | .error .notFound => return true
  | .error error => throw (.file error)

/-- Starts a command and waits for its end. A command that was killed counts as one that exited with
status 1. -/
def runCommand (start : List Bytes → ExceptT FileError m CommandEnd) :
    List Bytes → ExceptT GateError m Unit
  | [] => throw (.usage .command)
  | program :: arguments => do
    match ← (start (program :: arguments)).adapt (.start program.toStringLossy) with
    | .exited status => if status ≠ 0 then throw (.commandFailed status.toNat)
    | .killed => throw (.commandFailed 1)

/-- A run of the gate, `start` being how commands are started. When forced it does not look at any
time. -/
def run (start : List Bytes → ExceptT FileError m CommandEnd) (force : Bool)
    (arguments : GateArguments) : ExceptT GateError m Outcome := do
  if let .error error := checkSentinel arguments.sentinel then throw error
  if !force then
    if !(← isOutOfDate arguments.sentinel arguments.sources) then return .upToDate
  runCommand start arguments.command
  (Storage.touch arguments.sentinel).adapt .file
  return .regenerated

end Gate

end GameTables
