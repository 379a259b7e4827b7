import GameTables.Bytes

/-!
# Paths

A path is a byte string in which `/` separates names. Two readings of it are needed. Its *segments*
are all the byte strings between separators; the file system follows them one by one. Its *parts* are
the segments that say something: empty ones are skipped, and so is `.`, except in front of a path that
is not rooted. The name of the file and the parent of a path are found among the parts.
-/

namespace GameTables.Path

/-- The byte of `/`. -/
def separator : UInt8 := 47

/-- The segment `.`, which stays in a directory. -/
def here : Bytes := [46]

/-- The segment `..`, which leaves a directory. -/
def up : Bytes := [46, 46]

/-- The byte strings between separators, empty ones included. -/
def segments : Bytes → List Bytes
  | [] => [[]]
  | b :: rest =>
    if b = separator then [] :: segments rest
    else
      match segments rest with
      | [] => [[b]]
      | segment :: others => (b :: segment) :: others

def isRooted (path : Bytes) : Bool :=
  path.head? == some separator

/-- The segments that say something. -/
def parts (path : Bytes) : List Bytes :=
  match segments path with
  | [] => []
  | first :: rest =>
    (if first = [] then [] else [first]) ++ rest.filter fun part => part ≠ [] ∧ part ≠ here

/-- The last part, unless it is `.` or `..`. -/
def fileName? (path : Bytes) : Option Bytes :=
  match (parts path).getLast? with
  | none => none
  | some part => if part = here ∨ part = up then none else some part

/-- The path made of parts. -/
def ofParts (rooted : Bool) (parts : List Bytes) : Bytes :=
  (if rooted then [separator] else []) ++ [separator].intercalate parts

/-- The paths that end in the segments that say something, longest first, for the first segment of a path
and the others, last first. They have the bytes of the path, repeated separators included. -/
def climb (first : Bytes) : List Bytes → List Bytes
  | [] => if first = [] then [] else [first]
  | segment :: before =>
    if segment = [] ∨ segment = here then climb first before
    else [separator].intercalate (first :: before.reverse ++ [segment]) :: climb first before

/-- A path as it stands and then the paths above it, longest first, down to a single part. -/
def ancestors (path : Bytes) : List Bytes :=
  match segments path with
  | [] => []
  | first :: rest =>
    match climb first rest.reverse with
    | [] => []
    | _ :: above => path :: above

/-- The path without its last part. A path without parts has no parent; the parent of a single part is
the root or, for a path that is not rooted, empty. -/
def parent? (path : Bytes) : Option Bytes :=
  match ancestors path with
  | [] => none
  | [_] => some (if isRooted path then [separator] else [])
  | _ :: parent :: _ => some parent

/-- The directory that holds what a path names. -/
def directory (path : Bytes) : Bytes :=
  match parent? path with
  | none => here
  | some parent => if parent = [] then here else parent

/-- The path of a name inside a directory. -/
def join (path name : Bytes) : Bytes :=
  if path = [] ∨ path.getLast? = some separator then path ++ name
  else path ++ separator :: name

end GameTables.Path
