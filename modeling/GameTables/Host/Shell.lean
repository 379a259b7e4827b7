import GameTables.Gate.Run
import GameTables.Host.Programs
import GameTables.Host.Script

/-!
# The shell of the host

Runs scripts, and starts the commands of the gate: a command is a program of the host or the shell
with a script. `Shell.start` is the behaviour of commands with which runs of the gate are carried out.
-/

namespace GameTables.Shell

open Script (Piece Word Redirection Simple)

/-! ## Expansion -/

/-- What parameters stand for in a running script. -/
structure Scope where
  /-- The name of the script and its arguments. -/
  arguments : List Bytes
  environment : List (Bytes × Bytes)
  /-- The status of the last command. -/
  status : UInt8

/-- The number under which the shell runs. -/
def ownNumber : String := "4242"

def isBlank (b : UInt8) : Bool := b == 32 || b == 9 || b == 10

def parameter (scope : Scope) (name : List Char) : Bytes :=
  match name with
  | ['@'] | ['*'] => [32].intercalate scope.arguments.tail
  | ['#'] => Bytes.ofString (toString scope.arguments.tail.length)
  | ['?'] => Bytes.ofString (toString scope.status)
  | ['$'] => Bytes.ofString ownNumber
  | name =>
    if name.all Char.isDigit then
      (scope.arguments[(String.ofList name).toNat?.getD 0]?).getD []
    else (scope.environment.lookup (Program.bytes name)).getD []

/-- Fields of a word so far: the finished ones, and the one that was begun. -/
structure Fields where
  finished : List Bytes
  begun : Option Bytes

namespace Fields

def extend (fields : Fields) (more : Bytes) : Fields :=
  { fields with begun := some (fields.begun.getD [] ++ more) }

def close (fields : Fields) : Fields :=
  ⟨fields.finished ++ fields.begun.toList, none⟩

/-- Adds text that is split at blanks. -/
def split (fields : Fields) (text : Bytes) : Fields :=
  text.foldl (fun fields b => if isBlank b then fields.close else fields.extend [b]) fields

/-- Adds values that are fields of their own. -/
def addAll (fields : Fields) : List Bytes → Fields
  | [] => fields
  | [value] => fields.extend value
  | value :: rest => (fields.extend value).close.addAll rest

def add (scope : Scope) (fields : Fields) : Piece → Fields
  | .text characters _ => fields.extend (Program.bytes characters)
  | .parameter ['@'] true => fields.addAll scope.arguments.tail
  | .parameter name true => fields.extend (parameter scope name)
  | .parameter name false => fields.split (parameter scope name)

end Fields

/-- The fields that a word stands for. -/
def expand (scope : Scope) (word : Word) : List Bytes :=
  (word.foldl (Fields.add scope) ⟨[], none⟩).close.finished

/-! ## Streams -/

/-- Where a stream leads. -/
inductive Sink where
  | output
  | errorOutput
  | file (path : Bytes)

def Sink.write (contents : Bytes) : Sink → StateM Host Unit
  | .output => modify fun host => { host with output := host.output ++ contents }
  | .errorOutput => modify fun host => { host with errorOutput := host.errorOutput ++ contents }
  | .file path => do
    if contents ≠ [] then
      let _ ← (Host.change fun files now => files.append now path contents).run

structure Streams where
  input : Bytes
  output : Sink
  errorOutput : Sink

def Streams.sink (streams : Streams) : Nat → Sink
  | 1 => streams.output
  | _ => streams.errorOutput

def Streams.lead (streams : Streams) (stream : Nat) (sink : Sink) : Streams :=
  if stream = 1 then { streams with output := sink } else { streams with errorOutput := sink }

/-- What is said about a file that cannot be opened. -/
def openingFailed (verb missing : String) (path : Bytes) (error : FileError) : Bytes :=
  let words := if error = .notFound then missing else error.words
  Bytes.ofString s!"cannot {verb} " ++ path ++ Bytes.ofString (": " ++ words)

/-- Opens what a redirection leads to, or says what failed. -/
def redirect (scope : Scope) (streams : Streams) (redirection : Redirection) :
    ExceptT Bytes (StateM Host) Streams := do
  let path (file : Word) : Bytes := [32].intercalate (expand scope file)
  match redirection with
  | .input file =>
    let input ← (Storage.read (path file)).adapt (openingFailed "open" "No such file" (path file))
    return { streams with input }
  | .replace stream file =>
    (Host.change fun files now => files.write now (path file) []).adapt
      (openingFailed "create" "Directory nonexistent" (path file))
    return streams.lead stream (.file (path file))
  | .append stream file =>
    (Host.change fun files now => files.append now (path file) []).adapt
      (openingFailed "create" "Directory nonexistent" (path file))
    return streams.lead stream (.file (path file))
  | .same stream other => return streams.lead stream (streams.sink other)

/-! ## Commands -/

/-- What becomes of the script after a command. -/
inductive Flow where
  | next (status : UInt8)
  | stop (ending : CommandEnd)

/-- Signals that end nothing, by number and by name. -/
def harmlessSignals : List String :=
  ["-0", "-17", "-18", "-23", "-28", "-CHLD", "-CONT", "-URG", "-WINCH"]

/-- Sends a signal to the shell itself. -/
def kill : List Bytes → Flow
  | [number] => if number = Bytes.ofString ownNumber then .stop .killed else .next 1
  | [signal, number] =>
    if number ≠ Bytes.ofString ownNumber then .next 1
    else if harmlessSignals.any (Bytes.ofString · = signal) then .next 0
    else .stop .killed
  | _ => .next 1

/-- The status with which a script exits. -/
def exitStatus (last : UInt8) : List Bytes → UInt8
  | [] => last
  | argument :: _ =>
    match argument.toString?.bind String.toNat? with
    | some number => UInt8.ofNat number
    | none => 2

/-- Runs a program with its streams, and gives its status. -/
def runCode (streams : Streams) (code : StateM Host Finished) : StateM Host UInt8 := do
  let finished ← code
  streams.output.write finished.output
  streams.errorOutput.write finished.errorOutput
  return finished.status

/-- Runs the shell. Without arguments it reads its input, which is empty. -/
def runShell (runScript : Bytes → List Bytes → StateM Host CommandEnd) :
    List Bytes → StateM Host CommandEnd
  | [] => return .exited 0
  | [45, 99] :: script :: arguments => runScript script arguments
  | _ => return .exited 2

/-- Runs a simple command; `runScript` runs the scripts of shells that it starts. -/
def runSimple (runScript : Bytes → List Bytes → StateM Host CommandEnd) (scope : Scope)
    (command : Simple) : StateM Host Flow := do
  let words := command.words.flatMap (expand scope)
  let streams : Streams := ⟨[], .output, .errorOutput⟩
  let complain (streams : Streams) (status : UInt8) (words : Bytes) : StateM Host Flow :=
    let line := scope.arguments.head?.getD [] ++ Bytes.ofString ": 1: " ++ words
    return .next (← runCode streams (pure (Program.complaint status line)))
  match ← (command.redirections.foldlM (redirect scope) streams).run, words with
  | .error words, _ => complain streams 2 words
  | .ok _, [] => return .next (if command.redirections = [] then scope.status else 0)
  | .ok streams, program :: arguments =>
    match program.toString?.getD "" with
    | ":" => return .next 0
    | "exit" => return .stop (.exited (exitStatus scope.status arguments))
    | "kill" => return kill arguments
    | "echo" => return .next (← runCode streams (pure (Program.echo true arguments)))
    | _ =>
      match Program.lookUp (← get).files program with
      | .ok .shell =>
        match ← runShell runScript arguments with
        | .exited status => return .next status
        | .killed => return .next 137
      | .ok (.program code) => return .next (← runCode streams (code streams.input arguments))
      | .error .permissionDenied =>
        complain streams 126 (program ++ Bytes.ofString ": Permission denied")
      | .error _ => complain streams 127 (program ++ Bytes.ofString ": not found")

/-- Runs commands one after the other. -/
def runCommands (runScript : Bytes → List Bytes → StateM Host CommandEnd) (scope : Scope) :
    List Simple → StateM Host CommandEnd
  | [] => return .exited scope.status
  | command :: rest => do
    let wanted :=
      match command.condition with
      | .always => true
      | .onSuccess => scope.status == 0
      | .onFailure => scope.status != 0
    if wanted then
      match ← runSimple runScript scope command with
      | .next status => runCommands runScript { scope with status } rest
      | .stop ending => return ending
    else runCommands runScript scope rest

/-- Runs a script with the arguments behind it, of which the first one is its name. Shells that are
started inside each other are followed up to a depth. -/
def runScript : Nat → Bytes → List Bytes → StateM Host CommandEnd
  | 0, _, _ => return .exited 2
  | depth + 1, script, arguments => do
    match Script.parse script with
    | none => return .exited 2
    | some commands =>
      let arguments := if arguments = [] then [Bytes.ofString "sh"] else arguments
      runCommands (runScript depth) ⟨arguments, (← get).environment, 0⟩ commands

/-- How many shells may be started inside each other. -/
def maxDepth : Nat := 16

/-- Starts a command of the gate, with an empty input. -/
def start (command : List Bytes) : ExceptT FileError (StateM Host) CommandEnd :=
  match command with
  | [] => throw .notFound
  | program :: arguments => do
    match ← Program.lookUpCommand (← get).files program arguments with
    | .shell => runShell (runScript maxDepth) arguments
    | .program code => return .exited (← runCode ⟨[], .output, .errorOutput⟩ (code [] arguments))

end GameTables.Shell
