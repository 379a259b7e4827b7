import GameTables.FileSystem.Basic

/-!
# Following paths

A path is followed segment by segment, from the root when it is rooted and else from the working
directory. Every segment, the empty one after a final separator included, is looked for in a
directory. To create something, the path is followed up to its last segment only.
-/

namespace GameTables.FileSystem

/-- The number of bytes that a name may have. -/
def maxName : Nat := 255

/-- The number of bytes that a path may have. -/
def maxPath : Nat := 4095

/-- Follows segments from a place in the tree. -/
def walk (fs : FileSystem) (place : Location) : List Bytes → Except FileError Location
  | [] => .ok place
  | segment :: rest =>
    if !fs.isDirectory place then .error .notADirectory
    else if segment = [] ∨ segment = Path.here then walk fs place rest
    else if segment = Path.up then walk fs place.dropLast rest
    else if maxName < segment.length then .error .nameTooLong
    else if (fs.node? (place ++ [segment])).isNone then .error .notFound
    else walk fs (place ++ [segment]) rest

/-- Where following a path begins. -/
def origin (fs : FileSystem) (path : Bytes) : Location :=
  if Path.isRooted path then [] else fs.workingDirectory

/-- Refuses what is no path. -/
def checkPath (path : Bytes) : Except FileError Unit :=
  if path.contains 0 then .error .zeroInPath
  else if path = [] then .error .notFound
  else if maxPath < path.length then .error .nameTooLong
  else .ok ()

/-- The location of what is there at a path. -/
def locate (fs : FileSystem) (path : Bytes) : Except FileError Location := do
  checkPath path
  fs.walk (fs.origin path) (Path.segments path)

/-- The node at a path. -/
def nodeAt (fs : FileSystem) (path : Bytes) : Except FileError Node := do
  let place ← fs.locate path
  match fs.node? place with
  | some node => return node
  | none => throw .notFound

/-- Where a path would put something. -/
inductive Target where
  /-- The path ends in no name but in `.`, in `..` or at the root. -/
  | unnamed
  /-- The path ends in a name in an existing directory. -/
  | named (directory : Location) (name : Bytes) (slash : Bool)
  deriving DecidableEq, Repr

/-- Follows a path up to the name that it ends in. -/
def target (fs : FileSystem) (path : Bytes) : Except FileError Target := do
  checkPath path
  let backwards := (Path.segments path).reverse
  match backwards.dropWhile (· = []) with
  | [] => return .unnamed
  | name :: before =>
    let directory ← fs.walk (fs.origin path) before.reverse
    if !fs.isDirectory directory then throw .notADirectory
    if name = Path.here ∨ name = Path.up then return .unnamed
    if maxName < name.length then throw .nameTooLong
    return .named directory name (backwards.head? == some [])

end GameTables.FileSystem
