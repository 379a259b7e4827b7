import GameTables.Host.Shell
import GameTables.Proofs.FileSystem.Writing
import GameTables.Proofs.Gate.Steps

/-!
# One run of the gate

What a run comes to on a host that nobody else uses: which errors stop it before anything is started,
when the command is started, and what becomes of the files after each way in which the command may end.
-/

namespace GameTables

/-- Whenever it is asked for the time of a path, the host tells the same. -/
def Host.Tells (host : Host) (path : Bytes) (told : Except FileError Time) : Prop :=
  ∀ now, host.timeAt path now = told

/-- The host lets the file at a path be opened next, and its time be set after that. -/
structure Host.Touchable (host : Host) (path : Bytes) : Prop where
  opens : host.outages .work host.tick.clock = none
  free : host.files.EndsFree path
  stamps : host.outages .work host.tick.tick.clock = none

end GameTables

namespace GameTables.Gate

/-- The sentinel is missing, or a source is newer than it. -/
def Due (host : Host) (sources : List Bytes) (sentinel : Bytes) : Prop :=
  host.timeOf sentinel = .error .notFound ∨
    ∃ stamp, host.timeOf sentinel = .ok stamp ∧
      ∃ source ∈ sources, ∃ time, host.timeOf source = .ok time ∧ stamp < time

/-- What a run comes to after the command, which has left the host in some state. -/
inductive Finishes (sentinel program : Bytes) (left : Host) :
    Except FileError CommandEnd → Except GateError Outcome → Host → Prop
  /-- The command could not be started. -/
  | unstarted (e : FileError) :
    Finishes sentinel program left (.error e) (.error (.start program.toStringLossy e)) left
  | failed (status : UInt8) (nonzero : status ≠ 0) :
    Finishes sentinel program left (.ok (.exited status)) (.error (.commandFailed status.toNat)) left
  | killed : Finishes sentinel program left (.ok .killed) (.error (.commandFailed 1)) left
  /-- The sentinel was opened, and its time was set. -/
  | touched (place : Location) (files : FileSystem) (allowed : left.Touchable sentinel)
    (touches : FileSystem.Touched sentinel place left.tick.clock left.tick.tick.clock left.files files) :
    Finishes sentinel program left (.ok (.exited 0)) (.ok .regenerated) { left.tick.tick with files }
  /-- The sentinel could not be opened. -/
  | unopened (e : FileError) (refused : left.outcome .work (Observed.opening sentinel) = .error e) :
    Finishes sentinel program left (.ok (.exited 0)) (.error (.file e)) left.tick
  /-- The sentinel was opened, and created if it was missing, but its time could not be set. -/
  | unstamped (place : Location) (time : Time) (files : FileSystem) (outage : Outage)
    (opened : FileSystem.Touched sentinel place left.tick.clock time left.files files)
    (fresh : left.files.node? place = none ∧ time = left.tick.clock ∨ files = left.files)
    (refused : left.outages .work left.tick.tick.clock = some outage) :
    Finishes sentinel program left (.ok (.exited 0)) (.error (.file outage.error))
      { left.tick.tick with files }

variable {sentinel program : Bytes} {left after : Host} {ending : Except FileError CommandEnd}
  {result : Except GateError Outcome}

/-- A run has regenerated exactly if its command has succeeded and the sentinel could be touched. -/
theorem Finishes.regenerated_iff (finishes : Finishes sentinel program left ending result after) :
    result = .ok .regenerated ↔ ending = .ok (.exited 0) ∧ left.Touchable sentinel := by
  cases finishes with
  | unstarted e => simp
  | failed status nonzero => simp [nonzero]
  | killed => simp
  | touched place files allowed touches => simp [allowed]
  | unopened e refused =>
    simp only [reduceCtorEq, false_iff, true_and]
    rintro ⟨opens, free, _⟩
    obtain ⟨_, allowed⟩ := FileSystem.exists_openFile_iff.mpr free
    rw [Host.outcome, opens] at refused
    cases refused.symm.trans allowed
  | unstamped place time files outage opened fresh refused =>
    simp only [reduceCtorEq, false_iff, true_and]
    rintro ⟨_, _, stamps⟩
    cases refused.symm.trans stamps

namespace Observed

variable {sources : List Bytes} {sentinel : Bytes} {o : Observed sources sentinel}

/-! ## Steps on a host that nobody else uses -/

theorem others_of_alone (alone : o.coming = []) : o.others = o := by
  cases o
  cases alone
  rfl

/-- The state after looks at paths, the last one first. -/
def looked (paths : List Bytes) (o : Observed sources sentinel) : Observed sources sentinel :=
  { o with host := o.host.later paths.length, events := paths.map .looked ++ o.events }

/-- Looks start no command. -/
theorem commands_looked (paths : List Bytes) : (o.looked paths).commands = o.commands := by
  unfold commands looked
  rw [List.filterMap_append, List.filterMap_map, List.filterMap_eq_nil_iff.mpr, List.nil_append]
  exact fun _ _ => rfl

theorem looked_nil : o.looked [] = o := by
  simp [looked, Host.later]

theorem looked_looked (paths more : List Bytes) : (o.looked paths).looked more = o.looked (more ++ paths) := by
  simp [looked, Host.later_later, Nat.add_comm]

theorem look_of_alone (alone : o.coming = []) (path : Bytes) :
    o.look path = (o.host.timeOf path, o.looked [path]) := by
  rw [look, others_of_alone alone]
  rfl

/-- Sources of which a time is told are looked at until one is newer than the sentinel. -/
theorem lookForNewer_of_alone (alone : o.coming = []) (stamp : Time) {paths : List Bytes}
    (tells : ∀ path ∈ paths, ∃ time, o.host.Tells path (.ok time)) :
    ∃ newer looks, lookForNewer stamp paths o = (.ok newer, o.looked looks) ∧
      (newer = true ↔ ∃ path ∈ paths, ∃ time, o.host.Tells path (.ok time) ∧ stamp < time) := by
  induction paths generalizing o with
  | nil => exact ⟨false, [], by rw [lookForNewer, looked_nil], by simp⟩
  | cons path rest ih =>
    obtain ⟨⟨time, told⟩, tells⟩ := List.forall_mem_cons.mp tells
    have timed : o.host.timeOf path = .ok time := told _
    rw [lookForNewer, look_of_alone alone, timed]
    by_cases newer : stamp < time
    · refine ⟨true, [path], by simp [newer], ?_⟩
      simp only [true_iff]
      exact ⟨path, List.mem_cons_self, time, told, newer⟩
    · obtain ⟨found, looks, seen, found_iff⟩ := ih (o := o.looked [path]) alone tells
      refine ⟨found, looks ++ [path], ?_, ?_⟩
      · simp only [newer, if_false, seen, looked_looked]
      · simp only [found_iff, List.mem_cons, exists_eq_or_imp]
        refine (or_iff_right ?_).symm
        rintro ⟨time', told', newer'⟩
        cases (told 0).symm.trans (told' 0)
        exact newer newer'

/-- A sentinel whose time cannot be had, although it is not missing, ends the look around. -/
theorem lookAround_of_error (alone : o.coming = []) {e : FileError}
    (modified : o.host.timeOf sentinel = .error e) (present : e ≠ .notFound) :
    o.lookAround = (.error (.file e), o.looked [sentinel]) := by
  rw [lookAround, look_of_alone alone, modified]
  cases e <;> first | rfl | contradiction

/-- Of sources of which a time is told, a newer one is found whenever it is looked for. -/
theorem exists_newer_iff {host : Host} {sources : List Bytes} (stamp : Time)
    (tells : ∀ source ∈ sources, ∃ time, host.Tells source (.ok time)) :
    (∃ source ∈ sources, ∃ time, host.timeOf source = .ok time ∧ stamp < time) ↔
      ∃ source ∈ sources, ∃ time, host.Tells source (.ok time) ∧ stamp < time := by
  refine exists_congr fun source => and_congr_right fun here => exists_congr fun time => and_congr_left fun _ => ?_
  obtain ⟨time', told⟩ := tells source here
  constructor
  · intro timed
    cases (told _).symm.trans timed
    exact told
  · exact fun told => told _

/-- With sources of which a time is told, the command is found to be needed if it is due. -/
theorem lookAround_of_alone (alone : o.coming = [])
    (tells : ∀ source ∈ sources, ∃ time, o.host.Tells source (.ok time)) :
    ∃ result looks, o.lookAround = (result, o.looked looks) ∧
      (∀ e, o.host.timeOf sentinel = .error e → e ≠ .notFound →
        result = .error (.file e) ∧ looks = [sentinel]) ∧
      (Due o.host sources sentinel → result = .ok true) ∧
      (∀ stamp, o.host.timeOf sentinel = .ok stamp → ¬ Due o.host sources sentinel →
        result = .ok false) := by
  cases modified : o.host.timeOf sentinel with
  | error e =>
    by_cases missing : e = .notFound
    · subst missing
      refine ⟨.ok true, [sentinel], ?_, by simp, fun _ => rfl, by simp⟩
      rw [lookAround, look_of_alone alone, modified]
    · refine ⟨.error (.file e), [sentinel], lookAround_of_error alone modified missing, ?_, ?_, by simp⟩
      · intro e' same _
        cases same
        exact ⟨rfl, rfl⟩
      · rintro (notFound | ⟨_, found, _⟩)
        · cases modified.symm.trans notFound
          contradiction
        · cases modified.symm.trans found
  | ok stamp =>
    obtain ⟨newer, looks, seen, newer_iff⟩ :=
      lookForNewer_of_alone (o := o.looked [sentinel]) alone stamp tells
    have due_iff : Due o.host sources sentinel ↔ newer = true := by
      rw [newer_iff]
      simp only [Due, modified, reduceCtorEq, false_or, Except.ok.injEq, exists_eq_left',
        exists_newer_iff _ tells]
      rfl
    refine ⟨.ok newer, looks ++ [sentinel], ?_, by simp, ?_, ?_⟩
    · rw [lookAround, look_of_alone alone, modified]
      simp only [seen, looked_looked]
    · intro due
      rw [due_iff.mp due]
    · intro _ _ notDue
      rw [Bool.eq_false_iff.mpr (mt due_iff.mpr notDue)]

/-- The time of an open sentinel is set, or the host refuses it. -/
theorem stampSentinel_of_alone (alone : o.coming = []) (place : Location) :
    ∃ result after, o.stampSentinel place = (result, after) ∧ after.commands = o.commands ∧
      ((∃ outage, o.host.outages .work o.host.tick.clock = some outage ∧
          result = .error outage.error ∧ after.host = o.host.tick) ∨
        o.host.outages .work o.host.tick.clock = none ∧ result = .ok () ∧
          after.host = { o.host.tick with files := o.host.files.stamp o.host.tick.clock place }) := by
  rw [stampSentinel_eq, others_of_alone alone]
  cases o.host.outages .work o.host.tick.clock with
  | some outage => exact ⟨_, _, rfl, rfl, .inl ⟨outage, rfl, rfl, rfl⟩⟩
  | none => exact ⟨_, _, rfl, rfl, .inr ⟨rfl, rfl, rfl⟩⟩

/-- The sentinel is opened, or the host stays as it is. -/
theorem openSentinel_of_alone (alone : o.coming = []) :
    ∃ result after, o.openSentinel = (result, after) ∧ after.coming = [] ∧ after.commands = o.commands ∧
      ((∃ e, o.host.outcome .work (opening sentinel) = .error e ∧
          result = .error e ∧ after.host = o.host.tick) ∨
        ∃ place files, o.host.outcome .work (opening sentinel) = .ok (place, files) ∧
          result = .ok place ∧ after.host = { o.host.tick with files }) := by
  rw [openSentinel_eq, others_of_alone alone]
  cases o.host.outcome .work (opening sentinel) with
  | error e => exact ⟨_, _, rfl, alone, rfl, .inl ⟨e, rfl, rfl, rfl⟩⟩
  | ok opened =>
    obtain ⟨place, files⟩ := opened
    refine ⟨_, _, rfl, alone, ?_, .inr ⟨place, files, rfl, rfl, rfl⟩⟩
    -- A sentinel that is new is written down, but not as a command.
    unfold onCreation
    dsimp only
    split <;> rfl

/-- The sentinel is opened and its time is set, or it stays as the host leaves it. -/
theorem touch_of_alone (alone : o.coming = []) (program : Bytes) :
    ∃ result after, o.touch = (result, after) ∧ after.commands = o.commands ∧
      Finishes sentinel program o.host (.ok (.exited 0))
        (match result with
          | .error e => .error (.file e)
          | .ok _ => .ok .regenerated) after.host := by
  obtain ⟨result, opened, opens, alone, commands, come⟩ := openSentinel_of_alone alone
  rw [touch, opens]
  rcases come with ⟨e, refused, rfl, host⟩ | ⟨place, files, came, rfl, host⟩
  · exact ⟨_, _, rfl, commands, host ▸ .unopened e refused⟩
  obtain ⟨result, after, stamps, commands', come⟩ := stampSentinel_of_alone alone place
  have allowed := Host.operation_of_outcome came
  obtain ⟨time, touched, fresh⟩ := FileSystem.touched_of_openFile allowed
  refine ⟨result, after, stamps, commands'.trans commands, ?_⟩
  rw [host] at come
  rcases come with ⟨outage, refused, rfl, left⟩ | ⟨stampable, rfl, left⟩
  · rw [left]
    exact .unstamped place time files outage touched (fresh.imp_right And.right) refused
  · rw [left]
    exact .touched place _
      ⟨Host.granted_of_outcome came, FileSystem.exists_openFile_iff.mp ⟨_, allowed⟩, stampable⟩ (touched.stamp _)

/-- After the command the sentinel is touched, or nothing else is done. -/
theorem regenerate_of_alone (alone : o.coming = [])
    (behaviour : List Bytes → StateM Host (Except FileError CommandEnd)) (program : Bytes)
    (rest : List Bytes) :
    ∃ result after, o.regenerate behaviour program rest = (result, after) ∧
      after.commands = (program :: rest) :: o.commands ∧
      Finishes sentinel program (behaviour (program :: rest) o.host).2
        (behaviour (program :: rest) o.host).1 result after.host := by
  have launched : o.launch (program :: rest) =
      { o with events := .started (program :: rest) :: o.events } := by
    rw [launch, others_of_alone alone]
  have still_alone : (o.launch (program :: rest)).others = o.launch (program :: rest) :=
    others_of_alone (by rw [launched, alone])
  rw [regenerate, finish_eq, still_alone, launched]
  rcases behaviour (program :: rest) o.host with ⟨e | ending, left⟩
  · exact ⟨_, _, rfl, rfl, .unstarted e⟩
  cases ending with
  | killed => exact ⟨_, _, rfl, rfl, .killed⟩
  | exited status =>
    by_cases nonzero : status ≠ 0
    · simp only [if_pos nonzero]
      exact ⟨_, _, rfl, rfl, .failed status nonzero⟩
    · obtain rfl := Decidable.not_not.mp nonzero
      simp only [if_neg nonzero]
      generalize ended : (Observed.mk left o.coming _ : Observed sources sentinel) = o'
      obtain ⟨result, after, touched, commands, finishes⟩ :=
        touch_of_alone (o := o') (by rw [← ended, alone]) program
      rw [touched]
      subst ended
      cases result with
      | error e => exact ⟨_, _, rfl, commands, finishes⟩
      | ok _ => exact ⟨_, _, rfl, commands, finishes⟩

end Observed

open Observed in
/-- A run of the gate on a host that nobody else uses and that tells the times of the sources, for whatever
the command does. Without its command it changes nothing but the clock. -/
theorem run_alone {sources : List Bytes} (sentinel : Bytes) (force : Bool) (program : Bytes)
    (rest : List Bytes) (behaviour : List Bytes → StateM Host (Except FileError CommandEnd)) (host : Host)
    (tells : ∀ source ∈ sources, ∃ time, host.Tells source (.ok time)) :
    ∃ result after,
      (alone host : Observed sources sentinel).run behaviour force (program :: rest) = (result, after) ∧
      -- A bad name stops the run.
      (isSentinel sentinel = false →
        result = .error (.sentinelName sentinel) ∧ after.commands = [] ∧ after.host = host) ∧
      (isSentinel sentinel = true →
        -- So does a sentinel whose time cannot be had, unless it is missing or not asked for.
        (force = false → ∀ e, host.timeOf sentinel = .error e → e ≠ .notFound →
          result = .error (.file e) ∧ after.commands = [] ∧ after.host = host.later 1) ∧
        -- The command finds the host as it was, but for the clock.
        (force = true ∨ Due host sources sentinel →
          after.commands = [program :: rest] ∧
          ∃ looks, (force = true → looks = 0) ∧
            let ended := behaviour (program :: rest) (host.later looks)
            Finishes sentinel program ended.2 ended.1 result after.host ∧
            (result = .ok .regenerated ↔ ended.1 = .ok (.exited 0) ∧ ended.2.Touchable sentinel)) ∧
        (force = false → ∀ stamp, host.timeOf sentinel = .ok stamp → ¬ Due host sources sentinel →
          result = .ok .upToDate ∧ after.commands = [] ∧ ∃ looks, after.host = host.later looks)) := by
  rw [run_eq]
  cases valid : isSentinel sentinel with
  | false => exact ⟨_, _, rfl, fun _ => ⟨rfl, rfl, rfl⟩, by simp⟩
  | true =>
    simp only [if_true]
    cases force with
    | true =>
      obtain ⟨result, after, regenerated, commands, finishes⟩ :=
        regenerate_of_alone (o := (alone host : Observed sources sentinel)) rfl behaviour program rest
      have unlooked : host.later 0 = host := by simp [Host.later]
      refine ⟨result, after, regenerated, by simp, fun _ => ⟨by simp, fun _ => ⟨commands, 0, fun _ => rfl, ?_⟩,
        by simp⟩⟩
      rw [unlooked]
      exact ⟨finishes, finishes.regenerated_iff⟩
    | false =>
      obtain ⟨due, looks, seen, unreadable, isDue, notDue⟩ :=
        lookAround_of_alone (o := (alone host : Observed sources sentinel)) rfl tells
      simp only [Bool.false_eq_true, if_false, false_or, seen]
      cases due with
      | error e =>
        refine ⟨_, _, rfl, by simp, fun _ => ⟨?_, ?_, ?_⟩⟩
        · intro _ e' modified present
          obtain ⟨same, rfl⟩ := unreadable e' modified present
          cases same
          exact ⟨rfl, commands_looked _, rfl⟩
        · intro due
          cases isDue due
        · intro _ stamp modified none
          cases notDue stamp modified none
      | ok needed =>
        have read : ∀ e, host.timeOf sentinel = .error e → e = .notFound := by
          intro e modified
          refine Decidable.byContradiction fun present => ?_
          cases (unreadable e modified present).1
        cases needed with
        | false =>
          refine ⟨_, _, rfl, by simp, fun _ => ⟨?_, ?_, ?_⟩⟩
          · intro _ e modified present
            exact absurd (read e modified) present
          · intro due
            cases isDue due
          · intro _ _ _ _
            exact ⟨rfl, commands_looked looks, _, rfl⟩
        | true =>
          obtain ⟨result, after, regenerated, commands, finishes⟩ :=
            regenerate_of_alone (o := (alone host : Observed sources sentinel).looked looks) rfl behaviour
              program rest
          rw [commands_looked] at commands
          refine ⟨result, after, regenerated, by simp, fun _ => ⟨?_, ?_, ?_⟩⟩
          · intro _ e modified present
            exact absurd (read e modified) present
          · intro _
            exact ⟨commands, looks.length, by simp, finishes, finishes.regenerated_iff⟩
          · intro _ stamp modified none
            cases notDue stamp modified none

/-- A host with a source `a` that is newer than the sentinel `S`. -/
def sampleHost : Host :=
  { Host.start 10 with
    files := ((FileSystem.start 5).put [[119, 111, 114, 107], [97]] (.file [49] 9)).put
      [[119, 111, 114, 107], [83]] (.file [] 7) }

/-- A command that removes all files before it fails. -/
def clears (_ : List Bytes) : StateM Host (Except FileError CommandEnd) := fun host =>
  (.ok (.exited 3), { host with files := .start 6 })

/-- A failing command leaves its files behind, and one that succeeds its files and the sentinel. -/
theorem run_alone_sample :
    (∀ source ∈ [[97]], ∃ time, sampleHost.Tells source (.ok time)) ∧
    (∃ after, (Observed.alone sampleHost : Observed [[97]] [83]).run clears false [[102]] =
        (.error (.commandFailed 3), after) ∧
      after.commands = [[[102]]] ∧ after.host.files = .start 6) ∧
    -- The shell copies `a` to `b`.
    ∃ after, (Observed.alone sampleHost : Observed [[97]] [83]).run (fun command => (Shell.start command).run)
        true [[99, 112], [97], [98]] = (.ok .regenerated, after) ∧
      after.commands = [[[99, 112], [97], [98]]] ∧ after.host.files.read [98] = .ok [49] ∧
      after.host.files.modified [98] = .ok 13 ∧ after.host.files.modified [83] = .ok 15 := by
  have tells : ∀ source ∈ [[97]], ∃ time, sampleHost.Tells source (.ok time) := by
    simpa using ⟨9, fun _ => rfl⟩
  refine ⟨tells, ?_, ?_⟩
  · have due : Due sampleHost [[97]] [83] := .inr ⟨7, rfl, [97], by simp, 9, rfl, by decide⟩
    obtain ⟨result, after, ran, _, valid⟩ := run_alone [83] false [102] [] clears sampleHost tells
    obtain ⟨commands, looks, _, finishes, _⟩ := (valid (by decide)).2.1 (.inr due)
    refine ⟨after, ?_⟩
    generalize left : (clears [[102]] (sampleHost.later looks)).2 = host at finishes
    generalize same : after.host = host' at finishes
    cases finishes with
    | failed status _ => exact ⟨ran, commands, left ▸ rfl⟩
  · obtain ⟨result, after, ran, _, valid⟩ :=
      run_alone [83] true [99, 112] [[97], [98]] (fun command => (Shell.start command).run) sampleHost tells
    obtain ⟨commands, looks, unlooked, _, regenerated⟩ := (valid (by decide)).2.1 (.inl rfl)
    cases unlooked rfl
    have exited : ((Shell.start [[99, 112], [97], [98]]).run (sampleHost.later 0)).1 =
        .ok (.exited 0) := by decide +kernel
    have touchable : ((Shell.start [[99, 112], [97], [98]]).run (sampleHost.later 0)).2.Touchable [83] :=
      ⟨by decide +kernel, ⟨[[119, 111, 114, 107]], [83], by decide +kernel, by decide +kernel⟩,
        by decide +kernel⟩
    cases regenerated.mpr ⟨exited, touchable⟩
    refine ⟨after, ran, commands, ?_⟩
    obtain rfl : _ = after := congrArg Prod.snd ran
    decide +kernel

end GameTables.Gate
