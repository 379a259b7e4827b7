import GameTables.Storage.Basic
import GameTables.TableSource.Render

/-!
# The file of the tables

Reads the two documents and replaces the output file. The output is not touched unless everything
could be read and checked.
-/

namespace GameTables.TableSource

variable {m : Type → Type} {Handle : Type} [Monad m] [Storage m Handle]

/-- Generates the source from the files of the two documents and writes it to a file. -/
def generateFile (generator : String) (blocks properties out : Bytes) :
    ExceptT TableError m Unit := do
  let propertiesText ← (Storage.readText properties).adapt .file
  let blocksText ← (Storage.readText blocks).adapt .file
  match generate generator blocksText propertiesText with
  | .error error => throw error
  | .ok source => (Storage.replaceFile out (Bytes.ofString source)).adapt .file

end GameTables.TableSource
