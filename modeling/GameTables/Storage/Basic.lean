import GameTables.FileSystem.Basic

/-!
# Storage

What the programs ask of the host that keeps their files. The programs are written for any storage:
they run on the files of a real host, and on a model of one about which statements can be made.

A file is replaced as a whole. Its contents are written to a temporary file in the same directory,
which then takes the place of the old file; when a step fails the temporary file is removed.
-/

namespace GameTables

/-- Storage whose operations are steps of `m`. A file that is open is held as a `Handle`. -/
class Storage (m : Type → Type) (Handle : outParam Type) where
  read (path : Bytes) : ExceptT FileError m Bytes
  modified (path : Bytes) : ExceptT FileError m Time
  /-- Opens a file for writing behind its end. It is created when it is missing. -/
  openFile (path : Bytes) : ExceptT FileError m Handle
  /-- Sets the time of an open file to now. -/
  stamp (file : Handle) : ExceptT FileError m Unit
  /-- Whether a path leads to a directory. It does not where the host refuses to say. -/
  leadsToDirectory (path : Bytes) : m Bool
  makeDirectory (path : Bytes) : ExceptT FileError m Unit
  /-- Creates an empty file under a fresh name in a directory. -/
  createTemporary (directory : Bytes) : ExceptT FileError m Handle
  fill (temporary : Handle) (contents : Bytes) : ExceptT FileError m Unit
  /-- Makes sure that the contents outlive the host. -/
  sync (temporary : Handle) : ExceptT FileError m Unit
  /-- Moves a temporary file to a path, in the place of a file that is there. -/
  publish (temporary : Handle) (path : Bytes) : ExceptT FileError m Unit
  discard (temporary : Handle) : m Unit

namespace Storage

variable {m : Type → Type} {Handle : Type} [Monad m] [Storage m Handle]

/-- Reads a file that has to be UTF-8. -/
def readText (path : Bytes) : ExceptT FileError m String := do
  match (← read path).toString? with
  | some text => return text
  | none => throw .notText

/-- Creates a file when it is missing, and sets its time to now. -/
def touch (path : Bytes) : ExceptT FileError m Unit := do
  stamp (← openFile path)

/-- Fills a temporary file and moves it to a path. -/
def publishContents (temporary : Handle) (path contents : Bytes) : ExceptT FileError m Unit := do
  fill temporary contents
  sync temporary
  publish temporary path

/-- Replaces a file as a whole. -/
def replaceFile (path contents : Bytes) : ExceptT FileError m Unit := do
  let temporary ← createTemporary (Path.directory path)
  tryCatch (publishContents temporary path contents) fun error => do
    (discard temporary : m Unit)
    throw error

/-- Creates the first of a list of directories, each the parent of the one before it, and those of the
others that this needs. -/
def makeFirst : List Bytes → ExceptT FileError m Unit
  | [] => return
  | path :: above => do
    let make (again : ExceptT FileError m Unit) : ExceptT FileError m Unit :=
      tryCatch (makeDirectory path) fun
        | .notFound => again
        | .alreadyExists => do
          if !(← (leadsToDirectory path : m Bool)) then throw .alreadyExists
        | error => throw error
    make do
      makeFirst above
      make (throw .notFound)

/-- Creates a directory and the missing ones above it. -/
def makeDirectories (path : Bytes) : ExceptT FileError m Unit :=
  makeFirst (Path.ancestors path)

end Storage

end GameTables
