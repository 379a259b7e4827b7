import GameTables.CommandLine

/-!
# The tools

Runs the tools on the files of the host. The first argument names the tool.
-/

namespace GameTables

/-- A file that is open for writing. -/
structure OpenFile where
  path : String
  handle : IO.FS.Handle

namespace OpenFile

/-- The error that the host gave. -/
def fileError : IO.Error → FileError
  | .noFileOrDirectory .. => .notFound
  | .inappropriateType _ number _ => if number = 21 then .isADirectory else .notADirectory
  | .alreadyExists .. => .alreadyExists
  | .permissionDenied .. => .permissionDenied
  | .resourceBusy .. => .busy
  | .unsatisfiedConstraints .. => .directoryNotEmpty
  | .resourceExhausted .. => .noSpace
  | .invalidArgument _ number _ =>
    if number = 36 then .nameTooLong else if number = 40 then .tooManyLinks else .inputOutput
  | _ => .inputOutput

def attempt {α : Type} (action : IO α) : ExceptT FileError IO α :=
  ExceptT.mk do
    match ← action.toBaseIO with
    | .ok result => return .ok result
    | .error error => return .error (fileError error)

def contentsOf (bytes : Bytes) : ByteArray := ⟨bytes.toArray⟩

instance : Storage IO OpenFile where
  read path := attempt do
    return (← IO.FS.readBinFile path.toStringLossy).toList
  modified path := attempt do
    let metadata ← ((← IO.currentDir) / path.toStringLossy).metadata
    let ⟨seconds, nanoseconds⟩ := metadata.modified
    return seconds * 1000000000 + nanoseconds.toNat
  openFile path := attempt do
    let name := path.toStringLossy
    return ⟨name, ← IO.FS.Handle.mk name .append⟩
  stamp file := attempt do
    IO.FS.writeBinFile file.path (← IO.FS.readBinFile file.path)
  leadsToDirectory path := do
    ((← IO.currentDir) / path.toStringLossy).isDir
  makeDirectory path := attempt (IO.FS.createDir path.toStringLossy)
  createTemporary directory := attempt do
    let name := Bytes.ofString s!".tmp{← IO.rand 0 1000000000}"
    let path := (Path.join directory name).toStringLossy
    return ⟨path, ← IO.FS.Handle.mk path .writeNew⟩
  fill temporary contents := attempt (temporary.handle.write (contentsOf contents))
  sync temporary := attempt temporary.handle.flush
  publish temporary path := attempt (IO.FS.rename temporary.path path.toStringLossy)
  discard temporary := do
    let _ ← (IO.FS.removeFile temporary.path).toBaseIO

instance : Terminal IO where
  complain text := IO.eprint text
  isSet variableName := return (← IO.getEnv variableName).isSome

end OpenFile

/-- Runs a tool on the files of the host. The gate finds out whether its command is needed, but here it
starts no programs. -/
def runTool (tool : String) (arguments : List String) : IO UInt32 := do
  let call := (tool :: arguments).map Bytes.ofString
  let ending ←
    match tool with
    | "mc-data-gen" => CommandLine.called tool CommandLine.tables call
    | "mc-packets-gen" => CommandLine.called tool CommandLine.packets call
    | "regen-gate" =>
      CommandLine.called tool (CommandLine.gate fun _ => throw .permissionDenied) call
    | _ => pure (.failed s!"no tool is called {tool}")
  if let .failed report := ending then IO.eprintln s!"Error: {report}"
  return UInt32.ofNat ending.status

end GameTables

def main (arguments : List String) : IO UInt32 :=
  match arguments with
  | [] => GameTables.runTool "" []
  | tool :: rest => GameTables.runTool tool rest
