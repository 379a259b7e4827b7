import GameTables.Host.Basic

/-!
# Programs of the host

The gate starts commands that it knows nothing of, and what is said of its runs is said for every way in
which a command may behave. These programs, and the shell that puts them together, are one such way: with
them a run can be followed from its arguments to the files that it leaves. They are the programs that
wrapped commands use: what they print, what they do to the files and the status they exit with.
-/

namespace GameTables

/-- What a program that came to its end has printed, and its status. -/
structure Finished where
  status : UInt8
  output : Bytes
  errorOutput : Bytes

namespace Program

/-- An end without output. -/
def quiet (status : UInt8) : Finished := ⟨status, [], []⟩

/-- An end with a line on the stream for errors. -/
def complaint (status : UInt8) (line : Bytes) : Finished := ⟨status, [], line ++ [10]⟩

/-! ## Printing -/

/-- The characters that stand for others behind a backslash. -/
def escaped? : Char → Option Char
  | 'a' => some '\x07'
  | 'b' => some '\x08'
  | 'f' => some '\x0c'
  | 'n' => some '\n'
  | 'r' => some '\r'
  | 't' => some '\t'
  | 'v' => some '\x0b'
  | '\\' => some '\\'
  | _ => none

/-- Replaces escapes in a text whose bytes are read as characters. -/
def unescape : List Char → List Char
  | '\\' :: c :: rest =>
    match escaped? c with
    | some d => d :: unescape rest
    | none => '\\' :: c :: unescape rest
  | c :: rest => c :: unescape rest
  | [] => []

def characters (bytes : Bytes) : List Char := bytes.map fun b => Char.ofNat b.toNat

def bytes (characters : List Char) : Bytes := characters.map fun c => UInt8.ofNat c.toNat

/-- Prints its arguments with spaces between them. The shell replaces escapes, the program of the same
name does not. -/
def echo (escapes : Bool) (arguments : List Bytes) : Finished :=
  let bare := arguments.head? = some [45, 110]
  let line := [32].intercalate (if bare then arguments.tail else arguments)
  let ending : Bytes := if bare then [] else [10]
  ⟨0, (if escapes then bytes (unescape (characters line)) else line) ++ ending, []⟩

/-- Goes once through a format, and gives what is printed and the arguments that are left. -/
def format : List Char → List Bytes → List Char × List Bytes
  | [], arguments => ([], arguments)
  | '%' :: '%' :: rest, arguments =>
    let (printed, left) := format rest arguments
    ('%' :: printed, left)
  | '%' :: c :: rest, arguments =>
    let argument := characters (arguments.head?.getD [])
    let shown :=
      if c = 's' then argument
      else if c = 'b' then unescape argument
      else if c = 'c' then argument.take 1
      else if argument = [] then ['0']
      else argument
    let (printed, left) := format rest arguments.tail
    (shown ++ printed, left)
  | c :: rest, arguments =>
    let (printed, left) := format rest arguments
    (c :: printed, left)

/-- Goes through a format as long as arguments are left. -/
def formatAll (pattern : List Char) (arguments : List Bytes) : Nat → List Char
  | 0 => []
  | fuel + 1 =>
    let (printed, left) := format pattern arguments
    if left = [] ∨ left.length = arguments.length then printed
    else printed ++ formatAll pattern left fuel

def printf : List Bytes → Finished
  | [] => complaint 2 (Bytes.ofString "printf: usage: printf format [arguments]")
  | pattern :: arguments =>
    ⟨0, bytes (formatAll (unescape (characters pattern)) arguments (arguments.length + 1)), []⟩

/-! ## Files -/

/-- Splits options from the other arguments. -/
def options (arguments : List Bytes) : List Bytes × List Bytes :=
  arguments.partition fun argument => argument.head? = some 45 ∧ argument ≠ [45]

def hasOption (options : List Bytes) (letter : Char) : Bool :=
  options.any (·.contains (UInt8.ofNat letter.toNat))

/-- Does something for each argument. The status is 1 when one of them fails, and a line says so. -/
def forEach (action : Bytes → ExceptT FileError (StateM Host) Bytes)
    (complain : Bytes → FileError → Option String) : List Bytes → StateM Host Finished
  | [] => return quiet 0
  | argument :: rest => do
    let first ← (action argument).run
    let others ← forEach action complain rest
    match first with
    | .ok printed => return { others with output := printed ++ others.output }
    | .error error =>
      match complain argument error with
      | none => return others
      | some line =>
        return { others with
          status := 1
          errorOutput := Bytes.ofString (line ++ "\n") ++ others.errorOutput }

def change (operation : FileSystem → Time → Except FileError FileSystem) :
    ExceptT FileError (StateM Host) Bytes := do
  Host.change operation
  return []

def cat (input : Bytes) (arguments : List Bytes) : StateM Host Finished :=
  if arguments = [] then return ⟨0, input, []⟩
  else
    forEach (fun path => if path = [45] then pure input else Storage.read path)
      (fun path error => some s!"cat: {path.toStringLossy}: {error.words}") arguments

def rm (arguments : List Bytes) : StateM Host Finished :=
  let (options, paths) := options arguments
  let recursive := hasOption options 'r' || hasOption options 'R'
  let force := hasOption options 'f'
  forEach
    (fun path => change fun files now =>
      if recursive then files.removeAll now path else files.removeFile now path)
    (fun path error =>
      if force ∧ error = .notFound then none
      else some s!"rm: cannot remove '{path.toStringLossy}': {error.words}")
    paths

def rmdir (arguments : List Bytes) : StateM Host Finished :=
  forEach (fun path => change fun files now => files.removeDirectory now path)
    (fun path error => some s!"rmdir: failed to remove '{path.toStringLossy}': {error.words}")
    (options arguments).2

def mkdir (arguments : List Bytes) : StateM Host Finished :=
  let (options, paths) := options arguments
  forEach
    (fun path => do
      if hasOption options 'p' then Storage.makeDirectories path else Storage.makeDirectory path
      return [])
    (fun path error =>
      some s!"mkdir: cannot create directory '{path.toStringLossy}': {error.words}")
    paths

def touch (arguments : List Bytes) : StateM Host Finished :=
  forEach (fun path => do Storage.touch path; return [])
    (fun path error => some s!"touch: cannot touch '{path.toStringLossy}': {error.words}")
    (options arguments).2

/-- Where a file goes that is copied to a path: into a directory under its own name. -/
def destination (source path : Bytes) : ExceptT FileError (StateM Host) Bytes := do
  if ← (Storage.leadsToDirectory path : StateM Host Bool) then
    return Path.join path ((Path.fileName? source).getD [])
  else return path

/-- Copies a file to a path, and takes the old file away when it moves. -/
def copy (name : String) (moves : Bool) (arguments : List Bytes) : StateM Host Finished :=
  match (options arguments).2 with
  | [source, path] =>
    forEach
      (fun source => do
        let contents ← Storage.read source
        let place ← destination source path
        Host.change fun files now => files.write now place contents
        if moves then Host.change fun files now => files.removeFile now source
        return [])
      (fun source error => some s!"{name}: cannot stat '{source.toStringLossy}': {error.words}")
      [source]
  | _ => return complaint 1 (Bytes.ofString s!"{name}: missing file operand")

/-! ## Looking a program up -/

/-- A program: from its input and its arguments to its end. -/
abbrev Code := Bytes → List Bytes → StateM Host Finished

/-- The programs with their names. -/
def installed : List (String × Code) := [
  ("true", fun _ _ => return quiet 0),
  ("false", fun _ _ => return quiet 1),
  ("echo", fun _ arguments => return echo false arguments),
  ("printf", fun _ arguments => return printf arguments),
  ("cat", cat),
  ("rm", fun _ => rm),
  ("rmdir", fun _ => rmdir),
  ("mkdir", fun _ => mkdir),
  ("touch", fun _ => touch),
  ("cp", fun _ => copy "cp" false),
  ("mv", fun _ => copy "mv" true),
  ("sleep", fun _ _ => return quiet 0)]

/-- What a command can start. -/
inductive Startable where
  | shell
  | program (code : Code)

/-- All that can be started, with the names. -/
def startables : List (Bytes × Startable) :=
  (Bytes.ofString "sh", .shell)
    :: installed.map fun (name, code) => (Bytes.ofString name, .program code)

/-- The directories in which programs are looked for. -/
def directories : List Location :=
  [[Bytes.ofString "bin"], [Bytes.ofString "usr", Bytes.ofString "bin"]]

/-- The files together with the programs in their directories. -/
def withPrograms (files : FileSystem) : FileSystem :=
  let nodes (directory : Location) : List (Location × Node) :=
    (List.range directory.length).map (fun k => (directory.take (k + 1), .directory 0))
      ++ startables.map fun (name, _) => (directory ++ [name], .file [] 0)
  { files with nodes := files.nodes ++ directories.flatMap nodes }

/-- What a command starts, or why there is nothing to start. A name without a separator is looked for in
the directories of programs, where `.` and `..` are directories. A path leads to a program only from the
root; other files are not executable. -/
def lookUp (files : FileSystem) (program : Bytes) : Except FileError Startable :=
  if program.contains Path.separator then do
    let place ← (if Path.isRooted program then withPrograms files else files).locate program
    match place.getLast?.bind (startables.lookup ·) with
    | some startable =>
      if directories.contains place.dropLast then return startable else throw .permissionDenied
    | none => throw .permissionDenied
  else if FileSystem.maxName < program.length then throw .nameTooLong
  else if program = Path.here ∨ program = Path.up then throw .permissionDenied
  else
    match startables.lookup program with
    | some startable => return startable
    | none => throw .notFound

/-- The number of bytes that an argument may have. -/
def maxArgument : Nat := 131071

/-- What a command with its arguments starts, or why it cannot start. -/
def lookUpCommand (files : FileSystem) (program : Bytes) (arguments : List Bytes) :
    Except FileError Startable := do
  if (program :: arguments).any (·.contains 0) then throw .zeroInArgument
  let startable ← lookUp files program
  if arguments.any (maxArgument < ·.length) then throw .argumentTooLong
  return startable

end Program

end GameTables
