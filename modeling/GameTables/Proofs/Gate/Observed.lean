import GameTables.Gate.Run
import GameTables.Host.Basic

/-!
# The gate among others

Runs of the gate on a host whose files others change meanwhile. Every look at a file, every start and
end of a command and every new time of the sentinel is written down, and so is every edit of a source by
others, which may happen before each of these steps. A touch is two of them: the sentinel is opened, and
its time is set.
-/

namespace GameTables

/-- Answers of the host can be compared. -/
instance decideAnswers {ε α : Type} [DecidableEq ε] [DecidableEq α] : DecidableEq (Except ε α)
  | .ok a, .ok b => decidable_of_iff (a = b) ⟨congrArg Except.ok, Except.ok.inj⟩
  | .error e, .error e' => decidable_of_iff (e = e') ⟨congrArg Except.error, Except.error.inj⟩
  | .ok _, .error _ => .isFalse nofun
  | .error _, .ok _ => .isFalse nofun

namespace Gate

/-! ## What happens -/

inductive Event where
  | looked (path : Bytes)
  | edited (source : Bytes)
  /-- The start of a command was attempted. -/
  | started (command : List Bytes)
  | ended (ending : CommandEnd)
  /-- The sentinel got a new time: it was created, or its time was set. -/
  | touched
  deriving DecidableEq, Repr

/-- A change that others make to the files at some time, and the sources of which it is an edit. -/
structure Change where
  edited : List Bytes
  apply : Time → FileSystem → FileSystem

/-- Others leave the sentinel alone. A source that they edit gets the time of the edit, and the other
sources keep theirs. -/
structure Change.Allowed (sources : List Bytes) (sentinel : Bytes) (now : Time)
    (edited : List Bytes) (before after : FileSystem) : Prop where
  sentinel : after.modified sentinel = before.modified sentinel
  sources : ∀ source ∈ sources,
    after.modified source = if source ∈ edited then .ok now else before.modified source

instance (sources : List Bytes) (sentinel : Bytes) (now : Time) (edited : List Bytes)
    (before after : FileSystem) :
    Decidable (Change.Allowed sources sentinel now edited before after) :=
  decidable_of_iff
    (after.modified sentinel = before.modified sentinel ∧ ∀ source ∈ sources,
      after.modified source = if source ∈ edited then .ok now else before.modified source)
    ⟨fun ⟨sentinel, sources⟩ => ⟨sentinel, sources⟩, fun ⟨sentinel, sources⟩ => ⟨sentinel, sources⟩⟩

/-- A host that is shared with others while the gate runs for some sources and a sentinel. -/
structure Observed (sources : List Bytes) (sentinel : Bytes) where
  host : Host
  /-- What others do before each of the next steps of the gate. -/
  coming : List (List Change)
  /-- What happened, last first. -/
  events : List Event

namespace Observed

variable {sources : List Bytes} {sentinel : Bytes}

/-- A host that nobody else uses. -/
def alone (host : Host) : Observed sources sentinel := ⟨host, [], []⟩

/-- Others make a change, if it is one that they are allowed to make. -/
def change (observed : Observed sources sentinel) (change : Change) : Observed sources sentinel :=
  let host := observed.host.tick
  let files := change.apply host.clock host.files
  if Change.Allowed sources sentinel host.clock change.edited host.files files then
    { observed with
      host := { host with files }
      events := (change.edited.filter (· ∈ sources)).map .edited ++ observed.events }
  else observed

/-- Others make the changes that come before the next step. -/
def others (observed : Observed sources sentinel) : Observed sources sentinel :=
  (observed.coming.headD []).foldl change { observed with coming := observed.coming.tail }

/-- A step of the gate, after the changes that others make before it. What is written down depends on the
host before the step and on what comes of it. -/
def step {α : Type} (events : Host → α → List Event) (operation : StateM Host α) :
    StateM (Observed sources sentinel) α := fun observed =>
  let observed := observed.others
  let (result, host) := operation observed.host
  (result, { observed with host, events := events observed.host result ++ observed.events })

/-- A step that is written down if it succeeds. -/
def onSuccess {α : Type} (event : α → Event) (_ : Host) : Except FileError α → List Event
  | .ok a => [event a]
  | .error _ => []

/-- The opening of a file is written down if the file is new, as it has a time then. -/
def onCreation (host : Host) : Except FileError Location → List Event
  | .ok place => if (host.files.node? place).isNone then [.touched] else []
  | .error _ => []

instance : Storage (StateM (Observed sources sentinel)) Location where
  read path := step (fun _ _ => [.looked path]) (Storage.read (m := StateM Host) path)
  modified path := step (fun _ _ => [.looked path]) (Storage.modified (m := StateM Host) path)
  openFile path := step onCreation (Storage.openFile (m := StateM Host) path)
  stamp file := step (onSuccess fun _ => .touched) (Storage.stamp (m := StateM Host) file)
  leadsToDirectory path := step (fun _ _ => [.looked path]) (Storage.leadsToDirectory path)
  makeDirectory path := step (fun _ _ => []) (Storage.makeDirectory (m := StateM Host) path)
  createTemporary directory := step (fun _ _ => []) (Storage.createTemporary (m := StateM Host) directory)
  fill temporary contents := step (fun _ _ => []) (Storage.fill (m := StateM Host) temporary contents)
  sync temporary := step (fun _ _ => []) (Storage.sync (m := StateM Host) temporary)
  publish temporary path := step (fun _ _ => []) (Storage.publish (m := StateM Host) temporary path)
  discard temporary := step (fun _ _ => []) (Storage.discard temporary)

/-- Starts commands that do what they do to the host: the start is one step and the end another. -/
def start (behaviour : List Bytes → StateM Host (Except FileError CommandEnd)) (command : List Bytes) :
    ExceptT FileError (StateM (Observed sources sentinel)) CommandEnd :=
  ExceptT.mk do
    step (fun _ _ => [.started command]) (pure ())
    step (onSuccess .ended) (behaviour command)

/-- The commands that were started, last first. -/
def commands (observed : Observed sources sentinel) : List (List Bytes) :=
  observed.events.filterMap fun
    | .started command => some command
    | _ => none

end Observed

end Gate

end GameTables
