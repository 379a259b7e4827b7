import GameTables.PacketSource.Render
import GameTables.Storage.Basic

/-!
# The directory of the packet sources

Reads the document and writes the four files into a directory, one after the other. The directory is
created when it is missing, and nothing is touched unless the document could be read and checked.
-/

namespace GameTables.PacketSource

variable {m : Type → Type} {Handle : Type} [Monad m] [Storage m Handle]

/-- Writes files into a directory, in order. -/
def writeFiles (out : Bytes) : List GeneratedFile → ExceptT FileError m Unit
  | [] => return
  | file :: rest => do
    Storage.replaceFile (Path.join out (Bytes.ofString file.name)) (Bytes.ofString file.contents)
    writeFiles out rest

/-- Generates the sources from the file of the document and writes them into a directory. -/
def generateDirectory (generator : String) (document out : Bytes) : ExceptT PacketError m Unit := do
  let text ← (Storage.readText document).adapt .file
  match generate generator text with
  | .error error => throw error
  | .ok files =>
    (Storage.makeDirectories out).adapt .file
    (writeFiles out files).adapt .file

end GameTables.PacketSource
