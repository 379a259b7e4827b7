import GameTables.FileSystem.Resolve

/-!
# Operations on files

What the host does with a path at a given time. A refused operation changes nothing.
-/

namespace GameTables.FileSystem

variable (fs : FileSystem) (now : Time)

/-! ## Reading -/

def read (path : Bytes) : Except FileError Bytes := do
  match ← fs.nodeAt path with
  | .file contents _ => return contents
  | .directory _ => throw .isADirectory

def modified (path : Bytes) : Except FileError Time := do
  return (← fs.nodeAt path).modified

/-! ## Writing -/

/-- Puts a node at a name that is new in its directory. -/
def create (directory : Location) (name : Bytes) (node : Node) : FileSystem :=
  (fs.put (directory ++ [name]) node).stamp now directory

/-- Opens a file for writing, which is created when it is missing, and gives its place. A file that is
there is left as it is. -/
def openFile (path : Bytes) : Except FileError (Location × FileSystem) := do
  match ← fs.target path with
  | .unnamed => throw .isADirectory
  | .named directory name slash =>
    if slash then throw .isADirectory
    let place := directory ++ [name]
    match fs.node? place with
    | none => return (place, fs.create now directory name (.file [] now))
    | some (.file ..) => return (place, fs)
    | some (.directory _) => throw .isADirectory

/-- What the file at a location holds; nothing if there is none. -/
def contentsAt (place : Location) : Bytes :=
  match fs.node? place with
  | some (.file contents _) => contents
  | _ => []

/-- Opens a file and turns its contents into others. -/
def writeWith (change : Bytes → Bytes) (path : Bytes) : Except FileError FileSystem := do
  let (place, opened) ← fs.openFile now path
  return opened.put place (.file (change (opened.contentsAt place)) now)

def write (path contents : Bytes) : Except FileError FileSystem :=
  fs.writeWith now (fun _ => contents) path

def append (path contents : Bytes) : Except FileError FileSystem :=
  fs.writeWith now (· ++ contents) path

/-- Sets the time of what is there at a path. -/
def setTime (time : Time) (path : Bytes) : Except FileError FileSystem := do
  return fs.stamp time (← fs.locate path)

/-! ## Directories -/

def makeDirectory (path : Bytes) : Except FileError FileSystem := do
  match ← fs.target path with
  | .unnamed => throw .alreadyExists
  | .named directory name _ =>
    if (fs.node? (directory ++ [name])).isSome then throw .alreadyExists
    return fs.create now directory name (.directory now)

/-- Whether a path leads to a directory. -/
def leadsToDirectory (path : Bytes) : Bool :=
  match fs.nodeAt path with
  | .ok node => node.isDirectory
  | .error _ => false

/-! ## Removing -/

/-- Takes what is at a location out of its directory. -/
def take (place : Location) : FileSystem :=
  (fs.erase place).stamp now place.dropLast

def removeFile (path : Bytes) : Except FileError FileSystem := do
  match ← fs.target path with
  | .unnamed => throw .isADirectory
  | .named directory name slash =>
    let place := directory ++ [name]
    match fs.node? place with
    | none => throw .notFound
    | some (.directory _) => throw .isADirectory
    | some (.file ..) => if slash then throw .notADirectory else return fs.take now place

/-- The locations of everything inside a directory. -/
def inside (place : Location) : List Location :=
  (fs.nodes.map (·.1)).filter fun other => place.length < other.length ∧ other.take place.length = place

def removeDirectory (path : Bytes) : Except FileError FileSystem := do
  match ← fs.target path with
  | .unnamed => throw .busy
  | .named directory name _ =>
    let place := directory ++ [name]
    match fs.node? place with
    | none => throw .notFound
    | some (.file ..) => throw .notADirectory
    | some (.directory _) =>
      if fs.inside place = [] then return fs.take now place else throw .directoryNotEmpty

/-- Takes away what is at a path, with everything inside it. -/
def removeAll (path : Bytes) : Except FileError FileSystem := do
  match ← fs.target path with
  | .unnamed => throw .busy
  | .named directory name _ =>
    let place := directory ++ [name]
    if (fs.node? place).isNone then throw .notFound
    return ((fs.inside place).foldl erase fs).take now place

/-! ## Temporary files -/

/-- A name that is nowhere in use: it is longer than all names that are. -/
def freshName : Bytes :=
  let lengths := fs.nodes.map fun entry => (entry.1.getLast?.getD []).length
  46 :: List.replicate (lengths.foldl max 0) 116

/-- What a name of a temporary file looks like. Only its length matters, for the path has to fit. -/
def temporaryPattern : Bytes := Bytes.ofString ".tmpXXXXXX"

/-- A path as it is from the root. -/
def rootedPath (path : Bytes) : Bytes :=
  if Path.isRooted path then path
  else Path.join (Path.ofParts true fs.workingDirectory) path

/-- Creates an empty file under a fresh name in a directory. -/
def createTemporary (path : Bytes) : Except FileError (Location × FileSystem) := do
  checkPath (Path.join (fs.rootedPath path) temporaryPattern)
  let directory ← fs.locate path
  if !fs.isDirectory directory then throw .notADirectory
  return (directory ++ [fs.freshName], fs.create now directory fs.freshName (.file [] now))

/-- Moves a temporary file to a path, in the place of a file that is there. -/
def moveTemporary (temporary : Location) (path : Bytes) : Except FileError FileSystem := do
  match ← fs.target path with
  | .unnamed => throw .busy
  | .named directory name slash =>
    if slash then throw .notADirectory
    let place := directory ++ [name]
    match fs.node? place, fs.node? temporary with
    | some (.directory _), _ => throw .isADirectory
    | _, none => throw .notFound
    | _, some node => return ((fs.take now temporary).put place node).stamp now directory

end GameTables.FileSystem
