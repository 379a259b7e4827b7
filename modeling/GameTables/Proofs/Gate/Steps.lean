import GameTables.Proofs.Gate.Observed
import GameTables.Proofs.Host.Steps

/-!
# The steps of a run

What a run of the gate does, one step after the other: the looks at the sentinel and at the sources,
the command, and the touch, which opens the sentinel and sets its time.
-/

namespace GameTables

/-- What the host tells of the time of a path at some point of time. -/
def Host.timeAt (host : Host) (path : Bytes) (now : Time) : Except FileError Time :=
  match host.outages (.look path) now with
  | some outage => .error outage.error
  | none => host.files.modified path

/-- What a look at the time of a path gives. -/
def Host.timeOf (host : Host) (path : Bytes) : Except FileError Time :=
  host.timeAt path host.tick.clock

/-- A time that is told is in the files. -/
theorem Host.modified_of_timeOf {host : Host} {path : Bytes} {time : Time}
    (told : host.timeOf path = .ok time) : host.files.modified path = .ok time := by
  unfold timeOf timeAt at told
  split at told
  · cases told
  · exact told

end GameTables

namespace GameTables.Gate.Observed

variable {sources : List Bytes} {sentinel : Bytes}

/-! ## Single steps -/

/-- The gate looks at the time of a file. -/
def look (path : Bytes) (o : Observed sources sentinel) :
    Except FileError Time × Observed sources sentinel :=
  (o.others.host.timeOf path,
    { o.others with host := o.others.host.tick, events := .looked path :: o.others.events })

/-- The gate starts a command. -/
def launch (command : List Bytes) (o : Observed sources sentinel) : Observed sources sentinel :=
  { o.others with events := .started command :: o.others.events }

/-- A command comes to its end. -/
def finish (behaviour : StateM Host (Except FileError CommandEnd)) (o : Observed sources sentinel) :
    Except FileError CommandEnd × Observed sources sentinel :=
  step (onSuccess .ended) behaviour o

theorem finish_eq (behaviour : StateM Host (Except FileError CommandEnd)) (o : Observed sources sentinel) :
    finish behaviour o =
      ((behaviour o.others.host).1,
        { o.others with
          host := (behaviour o.others.host).2
          events := onSuccess .ended o.others.host (behaviour o.others.host).1 ++ o.others.events }) := rfl

/-- The gate opens the sentinel. -/
def openSentinel (o : Observed sources sentinel) : Except FileError Location × Observed sources sentinel :=
  step onCreation (Storage.openFile (m := StateM Host) sentinel) o

/-- The opening of the sentinel as an operation on files. -/
def opening (sentinel : Bytes) (files : FileSystem) (now : Time) : Except FileError (Location × FileSystem) :=
  files.openFile now sentinel

theorem openSentinel_eq (o : Observed sources sentinel) :
    o.openSentinel =
      match o.others.host.outcome .work (opening sentinel) with
      | .error e => (.error e, { o.others with host := o.others.host.tick })
      | .ok (place, files) => (.ok place,
        { o.others with
          host := { o.others.host.tick with files }
          events := onCreation o.others.host (.ok place) ++ o.others.events }) := by
  have opened : (Storage.openFile (m := StateM Host) sentinel).run o.others.host =
    (Host.attempt (opening sentinel)).run o.others.host := rfl
  have stepped : o.openSentinel =
      (((Storage.openFile (m := StateM Host) sentinel).run o.others.host).1,
        { o.others with
          host := ((Storage.openFile (m := StateM Host) sentinel).run o.others.host).2
          events := onCreation o.others.host
            ((Storage.openFile (m := StateM Host) sentinel).run o.others.host).1 ++ o.others.events }) := rfl
  rw [stepped, opened, Host.attempt_run]
  rcases o.others.host.outcome .work (opening sentinel) with _ | ⟨_, _⟩ <;> rfl

/-- The gate sets the time of the sentinel, which is open. -/
def stampSentinel (place : Location) (o : Observed sources sentinel) :
    Except FileError Unit × Observed sources sentinel :=
  step (onSuccess fun _ => .touched) (Storage.stamp (m := StateM Host) place) o

theorem stampSentinel_eq (place : Location) (o : Observed sources sentinel) :
    o.stampSentinel place =
      match o.others.host.outages .work o.others.host.tick.clock with
      | some outage => (.error outage.error, { o.others with host := o.others.host.tick })
      | none => (.ok (),
        { o.others with
          host := { o.others.host.tick with
            files := o.others.host.files.stamp o.others.host.tick.clock place }
          events := .touched :: o.others.events }) := by
  have stamped : (Storage.stamp (m := StateM Host) place).run o.others.host =
    (Host.change fun files now => .ok (files.stamp now place)).run o.others.host := rfl
  have stepped : o.stampSentinel place =
      (((Storage.stamp (m := StateM Host) place).run o.others.host).1,
        { o.others with
          host := ((Storage.stamp (m := StateM Host) place).run o.others.host).2
          events := onSuccess (fun _ => .touched) o.others.host
            ((Storage.stamp (m := StateM Host) place).run o.others.host).1 ++ o.others.events }) := rfl
  rw [stepped, stamped, Host.change_run, Host.outcome]
  cases o.others.host.outages .work o.others.host.tick.clock <;> rfl

/-- The gate touches the sentinel. -/
def touch (o : Observed sources sentinel) : Except FileError Unit × Observed sources sentinel :=
  match o.openSentinel with
  | (.error e, o) => (.error e, o)
  | (.ok place, o) => o.stampSentinel place

theorem touch_run (o : Observed sources sentinel) :
    (Storage.touch sentinel : ExceptT FileError (StateM (Observed sources sentinel)) Unit).run o =
      o.touch := by
  have opened : (Storage.openFile sentinel :
      ExceptT FileError (StateM (Observed sources sentinel)) Location).run o = o.openSentinel := rfl
  rw [Storage.touch, run_bind_state, opened, touch]
  rcases o.openSentinel with ⟨_ | place, o'⟩ <;> rfl

/-! ## Runs -/

/-- The gate looks at sources until one is newer than a time. -/
def lookForNewer (stamp : Time) : List Bytes → Observed sources sentinel →
    Except GateError Bool × Observed sources sentinel
  | [], o => (.ok false, o)
  | source :: rest, o =>
    match o.look source with
    | (.error e, o) => (.error (.source source e), o)
    | (.ok modified, o) => if stamp < modified then (.ok true, o) else lookForNewer stamp rest o

/-- The gate finds out whether the command is needed. -/
def lookAround (o : Observed sources sentinel) : Except GateError Bool × Observed sources sentinel :=
  match o.look sentinel with
  | (.ok stamp, o) => lookForNewer stamp sources o
  | (.error .notFound, o) => (.ok true, o)
  | (.error e, o) => (.error (.file e), o)

/-- The gate runs the command, and touches the sentinel if it succeeds. -/
def regenerate (behaviour : List Bytes → StateM Host (Except FileError CommandEnd)) (program : Bytes)
    (rest : List Bytes) (o : Observed sources sentinel) :
    Except GateError Outcome × Observed sources sentinel :=
  match finish (behaviour (program :: rest)) (o.launch (program :: rest)) with
  | (.error e, o) => (.error (.start program.toStringLossy e), o)
  | (.ok .killed, o) => (.error (.commandFailed 1), o)
  | (.ok (.exited status), o) =>
    if status ≠ 0 then (.error (.commandFailed status.toNat), o)
    else
      match o.touch with
      | (.error e, o) => (.error (.file e), o)
      | (.ok _, o) => (.ok .regenerated, o)

/-- What is left to do when the command is needed. An empty command is refused. -/
def proceed (behaviour : List Bytes → StateM Host (Except FileError CommandEnd)) :
    List Bytes → Observed sources sentinel → Except GateError Outcome × Observed sources sentinel
  | [], o => (.error (.usage .command), o)
  | program :: rest, o => o.regenerate behaviour program rest

/-- A run of the gate. -/
def run (behaviour : List Bytes → StateM Host (Except FileError CommandEnd)) (force : Bool)
    (command : List Bytes) (o : Observed sources sentinel) :
    Except GateError Outcome × Observed sources sentinel :=
  (Gate.run (start behaviour) force ⟨sources, sentinel, command⟩).run o

theorem regenerate_ne_upToDate (behaviour : List Bytes → StateM Host (Except FileError CommandEnd))
    (program : Bytes) (rest : List Bytes) (o : Observed sources sentinel) :
    (o.regenerate behaviour program rest).1 ≠ .ok .upToDate := by
  rw [regenerate]
  rcases finish (behaviour (program :: rest)) (o.launch (program :: rest)) with ⟨_ | ending, o'⟩
  · simp
  · cases ending with
    | killed => simp
    | exited status =>
      by_cases failed : status ≠ 0
      · simp [failed]
      · simp only [if_neg failed]
        rcases o'.touch with ⟨_ | _, _⟩ <;> simp

theorem isSomeNewer_run (stamp : Time) (paths : List Bytes) (o : Observed sources sentinel) :
    (isSomeNewer stamp paths : ExceptT GateError (StateM (Observed sources sentinel)) Bool).run o =
      lookForNewer stamp paths o := by
  induction paths generalizing o with
  | nil => rfl
  | cons source rest ih =>
    have looked : (Storage.modified source :
        ExceptT FileError (StateM (Observed sources sentinel)) Time).run o = o.look source := rfl
    rw [isSomeNewer, lookForNewer, run_bind_state, run_adapt_state, looked]
    rcases o.look source with ⟨_ | modified, o'⟩
    · rfl
    · simp only
      split
      · rfl
      · exact ih o'

theorem isOutOfDate_run (o : Observed sources sentinel) :
    (isOutOfDate sentinel sources : ExceptT GateError (StateM (Observed sources sentinel)) Bool).run o =
      o.lookAround := by
  have looked : (Storage.modified sentinel :
      ExceptT FileError (StateM (Observed sources sentinel)) Time).run o = o.look sentinel := rfl
  have lifted : (liftM (Storage.modified sentinel :
        ExceptT FileError (StateM (Observed sources sentinel)) Time).run :
      ExceptT GateError (StateM (Observed sources sentinel)) (Except FileError Time)).run o =
        (.ok (o.look sentinel).1, (o.look sentinel).2) := rfl
  unfold isOutOfDate lookAround
  rw [run_bind_state, lifted]
  rcases o.look sentinel with ⟨e | stamp, o'⟩
  · cases e <;> rfl
  · exact isSomeNewer_run stamp sources o'

theorem regenerate_run (behaviour : List Bytes → StateM Host (Except FileError CommandEnd))
    (program : Bytes) (rest : List Bytes) (o : Observed sources sentinel) :
    (do
      runCommand (start behaviour) (program :: rest)
      (Storage.touch sentinel).adapt .file
      return .regenerated :
      ExceptT GateError (StateM (Observed sources sentinel)) Outcome).run o =
        o.regenerate behaviour program rest := by
  have finished : (start behaviour (program :: rest) :
      ExceptT FileError (StateM (Observed sources sentinel)) CommandEnd).run o =
        finish (behaviour (program :: rest)) (o.launch (program :: rest)) := rfl
  have touched : (Storage.touch sentinel :
      ExceptT FileError (StateM (Observed sources sentinel)) Unit).run = touch := funext touch_run
  simp only [runCommand, regenerate, run_bind_state, run_adapt_state, finished, touched]
  rcases finish (behaviour (program :: rest)) (o.launch (program :: rest)) with ⟨_ | ending, o'⟩
  · rfl
  · cases ending with
    | killed => rfl
    | exited status =>
      simp only
      by_cases failed : status ≠ 0
      · simp only [if_pos failed]
        rfl
      · simp only [if_neg failed, run_pure_state]
        rcases o'.touch with ⟨_ | _, o''⟩ <;> rfl

theorem proceed_run (behaviour : List Bytes → StateM Host (Except FileError CommandEnd))
    (command : List Bytes) (o : Observed sources sentinel) :
    (do
      runCommand (start behaviour) command
      (Storage.touch sentinel).adapt .file
      return .regenerated :
      ExceptT GateError (StateM (Observed sources sentinel)) Outcome).run o =
        proceed behaviour command o := by
  cases command with
  | nil => rfl
  | cons program rest => exact regenerate_run behaviour program rest o

/-- A run of the gate, one step after the other, for any command. -/
theorem run_eq_proceed (behaviour : List Bytes → StateM Host (Except FileError CommandEnd)) (force : Bool)
    (command : List Bytes) (o : Observed sources sentinel) :
    o.run behaviour force command =
      if isSentinel sentinel then
        match if force then (.ok true, o) else o.lookAround with
        | (.error e, o) => (.error e, o)
        | (.ok false, o) => (.ok .upToDate, o)
        | (.ok true, o) => proceed behaviour command o
      else (.error (.sentinelName sentinel), o) := by
  unfold run Gate.run checkSentinel
  cases valid : isSentinel sentinel with
  | false => rfl
  | true =>
    simp only [if_true]
    cases force with
    | true => exact proceed_run behaviour command o
    | false =>
      simp only [Bool.not_false, if_true, Bool.false_eq_true, if_false]
      rw [run_bind_state, isOutOfDate_run]
      rcases o.lookAround with ⟨_ | due, o'⟩
      · rfl
      · cases due with
        | false => rfl
        | true => exact proceed_run behaviour command o'

/-- A run of the gate with a command, one step after the other. -/
theorem run_eq (behaviour : List Bytes → StateM Host (Except FileError CommandEnd)) (force : Bool)
    (program : Bytes) (rest : List Bytes) (o : Observed sources sentinel) :
    o.run behaviour force (program :: rest) =
      if isSentinel sentinel then
        match if force then (.ok true, o) else o.lookAround with
        | (.error e, o) => (.error e, o)
        | (.ok false, o) => (.ok .upToDate, o)
        | (.ok true, o) => o.regenerate behaviour program rest
      else (.error (.sentinelName sentinel), o) :=
  run_eq_proceed behaviour force (program :: rest) o

theorem proceed_ne_upToDate (behaviour : List Bytes → StateM Host (Except FileError CommandEnd))
    (command : List Bytes) (o : Observed sources sentinel) :
    (proceed behaviour command o).1 ≠ .ok .upToDate := by
  cases command with
  | nil => simp [proceed]
  | cons program rest => exact regenerate_ne_upToDate behaviour program rest o

/-- A run that finds everything up to date has done nothing but look. -/
theorem lookAround_of_upToDate {behaviour : List Bytes → StateM Host (Except FileError CommandEnd)}
    {command : List Bytes} {o : Observed sources sentinel}
    (upToDate : (o.run behaviour false command).1 = .ok .upToDate) :
    o.lookAround = (.ok false, (o.run behaviour false command).2) := by
  rw [run_eq_proceed] at upToDate ⊢
  cases valid : isSentinel sentinel with
  | false =>
    rw [valid] at upToDate
    cases upToDate
  | true =>
    simp only [valid, if_true, Bool.false_eq_true, if_false] at upToDate ⊢
    rcases looked : o.lookAround with ⟨e | due, o'⟩
    · rw [looked] at upToDate
      cases upToDate
    · cases due with
      | false => rfl
      | true =>
        rw [looked] at upToDate
        exact absurd upToDate (proceed_ne_upToDate behaviour command o')

end GameTables.Gate.Observed
