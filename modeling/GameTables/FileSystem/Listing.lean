import GameTables.FileSystem.Operations

/-!
# Listings

Everything inside the working directory, by paths from there, in the order of the bytes of the paths.
-/

namespace GameTables.FileSystem

/-- Whether a byte string comes before another, or is the same. -/
def bytesLE : Bytes → Bytes → Bool
  | [], _ => true
  | _ :: _, [] => false
  | a :: as, b :: bs => a < b || (a == b && bytesLE as bs)

/-- The nodes inside the working directory with their paths. -/
def listing (fs : FileSystem) : List (Bytes × Node) :=
  let places := fs.inside fs.workingDirectory
  let entries := places.filterMap fun place =>
    (fs.node? place).map fun node =>
      (Path.ofParts false (place.drop fs.workingDirectory.length), node)
  entries.mergeSort fun a b => bytesLE a.1 b.1

end GameTables.FileSystem
