import GameTables.CommandLine
import GameTables.FileSystem.Operations

/-!
# A model of the host

Files, a clock, the environment of the programs and what they print. The clock moves on with every
operation. An operation may fail for reasons that are not in the files, such as missing permissions:
`outages` says when.
-/

namespace GameTables

/-- A reason of the host for refusing an operation that the files would allow. -/
inductive Outage where
  | permissionDenied
  | tooManyLinks
  | noSpace
  | inputOutput
  deriving DecidableEq, Repr

def Outage.error : Outage → FileError
  | .permissionDenied => .permissionDenied
  | .tooManyLinks => .tooManyLinks
  | .noSpace => .noSpace
  | .inputOutput => .inputOutput

/-- What the host is asked for. -/
inductive Request where
  /-- To say what is there at a path. -/
  | look (path : Bytes)
  /-- To read contents, or to change something. -/
  | work
  deriving DecidableEq, Repr

structure Host where
  files : FileSystem
  clock : Time
  outages : Request → Time → Option Outage
  /-- The variables of the environment. -/
  environment : List (Bytes × Bytes)
  /-- What was printed. -/
  output : Bytes
  /-- What was printed as errors. -/
  errorOutput : Bytes

namespace Host

/-- A host with an empty working directory. -/
def start (now : Time) : Host where
  files := .start now
  clock := now
  outages := fun _ _ => none
  environment := []
  output := []
  errorOutput := []

/-- Lets the clock move on. -/
def tick (host : Host) : Host :=
  { host with clock := host.clock + 1 }

/-- What comes of an operation at the next point of time. -/
def outcome {α : Type} (request : Request) (operation : FileSystem → Time → Except FileError α)
    (host : Host) : Except FileError α :=
  match host.outages request host.tick.clock with
  | some outage => .error outage.error
  | none => operation host.files host.tick.clock

/-- Looks at what is there at a path. -/
def look {α : Type} (path : Bytes) (operation : FileSystem → Except FileError α) :
    ExceptT FileError (StateM Host) α :=
  ExceptT.mk fun host => (host.outcome (.look path) fun files _ => operation files, host.tick)

/-- An operation on the files at the next point of time. -/
def attempt {α : Type} (operation : FileSystem → Time → Except FileError (α × FileSystem)) :
    ExceptT FileError (StateM Host) α :=
  ExceptT.mk fun host =>
    match host.outcome .work operation with
    | .error error => (.error error, host.tick)
    | .ok (result, files) => (.ok result, { host.tick with files })

/-- An operation that has no result but the changed files. -/
def change (operation : FileSystem → Time → Except FileError FileSystem) :
    ExceptT FileError (StateM Host) Unit :=
  attempt fun files now => return ((), ← operation files now)

instance : Storage (StateM Host) Location where
  read path := attempt fun files _ => return (← files.read path, files)
  modified path := look path fun files => files.modified path
  openFile path := attempt fun files now => files.openFile now path
  stamp file := change fun files now => .ok (files.stamp now file)
  leadsToDirectory path := do
    return (← (look path fun files => .ok (files.leadsToDirectory path)).run).toOption.getD false
  makeDirectory path := change fun files now => files.makeDirectory now path
  createTemporary directory := attempt fun files now => files.createTemporary now directory
  fill temporary contents := change fun files now =>
    .ok (files.put temporary (.file contents now))
  sync _ := change fun files _ => .ok files
  publish temporary path := change fun files now => files.moveTemporary now temporary path
  discard temporary := fun host =>
    let host := host.tick
    ((), { host with files := host.files.take host.clock temporary })

instance : Terminal (StateM Host) where
  complain text := modify fun host =>
    { host with errorOutput := host.errorOutput ++ Bytes.ofString text }
  isSet variableName := fun host =>
    ((host.environment.lookup (Bytes.ofString variableName)).isSome, host)

end Host

end GameTables
