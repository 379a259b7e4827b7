import GameTables.FileSystem.Error
import GameTables.FileSystem.Path

/-!
# File systems

A tree of directories and files. A node is found by the names on the way from the root. Every node
has a modification time; that of a directory changes when a name in it comes or goes. Nodes have no owners,
no permissions and no links: what these would forbid is refused by the host, for reasons of its own.
-/

namespace GameTables

/-- Nanoseconds since 1970. -/
abbrev Time := Int

/-- The names on the way from the root. -/
abbrev Location := List Bytes

inductive Node where
  | file (contents : Bytes) (modified : Time)
  | directory (modified : Time)
  deriving DecidableEq, Repr

namespace Node

def modified : Node → Time
  | .file _ modified => modified
  | .directory modified => modified

def withTime (time : Time) : Node → Node
  | .file contents _ => .file contents time
  | .directory _ => .directory time

def isDirectory : Node → Bool
  | .file .. => false
  | .directory _ => true

end Node

/-- The nodes at their locations. A later entry for a location does not count. -/
structure FileSystem where
  nodes : List (Location × Node)
  /-- The working directory. -/
  workingDirectory : Location

namespace FileSystem

/-- A file system that holds nothing but an empty working directory. -/
def start (now : Time) : FileSystem :=
  let work : Location := [[119, 111, 114, 107]]
  ⟨[([], .directory now), (work, .directory now)], work⟩

def node? (fs : FileSystem) (place : Location) : Option Node :=
  (fs.nodes.find? (·.1 == place)).map (·.2)

def isDirectory (fs : FileSystem) (place : Location) : Bool :=
  ((fs.node? place).map Node.isDirectory).getD false

/-- Puts a node at a location, in the place of what is there. -/
def put (fs : FileSystem) (place : Location) (node : Node) : FileSystem :=
  { fs with nodes := (place, node) :: fs.nodes.filter (·.1 != place) }

/-- Takes the node away from a location. -/
def erase (fs : FileSystem) (place : Location) : FileSystem :=
  { fs with nodes := fs.nodes.filter (·.1 != place) }

/-- Sets the time of a node. -/
def stamp (fs : FileSystem) (now : Time) (place : Location) : FileSystem :=
  match fs.node? place with
  | none => fs
  | some node => fs.put place (node.withTime now)

/-- What is at a location apart from its time: the contents of a file, or that it is a directory. -/
def view (fs : FileSystem) (place : Location) : Option (Option Bytes) :=
  (fs.node? place).map fun
    | .file contents _ => some contents
    | .directory _ => none

/-! ## What changes show -/

@[simp] theorem node?_put_self (fs : FileSystem) (place : Location) (node : Node) :
    (fs.put place node).node? place = some node := by
  simp [node?, put]

theorem find?_filter_ne {nodes : List (Location × Node)} {place other : Location}
    (h : other ≠ place) :
    (nodes.filter (·.1 != place)).find? (·.1 == other) = nodes.find? (·.1 == other) := by
  induction nodes with
  | nil => rfl
  | cons entry rest ih =>
    by_cases hp : entry.1 = place
    · have : entry.1 ≠ other := fun he => h (he ▸ hp)
      simp [hp, ih, Ne.symm h]
    · by_cases ho : entry.1 = other
      · simp [ho, h]
      · simp [hp, ho, ih]

theorem node?_put_of_ne {fs : FileSystem} {place other : Location} {node : Node}
    (h : other ≠ place) : (fs.put place node).node? other = fs.node? other := by
  simp [node?, put, find?_filter_ne h, Ne.symm h]

@[simp] theorem node?_erase_self (fs : FileSystem) (place : Location) :
    (fs.erase place).node? place = none := by
  simp [node?, erase]

theorem node?_erase_of_ne {fs : FileSystem} {place other : Location} (h : other ≠ place) :
    (fs.erase place).node? other = fs.node? other := by
  simp [node?, erase, find?_filter_ne h]

end FileSystem

end GameTables
