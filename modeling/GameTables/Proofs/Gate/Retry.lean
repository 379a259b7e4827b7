import GameTables.Proofs.Gate.Interleaving
import GameTables.Proofs.Gate.Run

/-!
# Runs after a failed run

A run whose command failed leaves the sentinel as it was, and whether a later run starts its command is
read from the times of the files alone. Where the command was due when the run that failed began, every
run after it starts its command, up to the first that succeeds. A forced run may fail although nothing
was due, and the run after it then finds everything up to date.
-/

namespace GameTables.Gate

variable {sources : List Bytes} {sentinel : Bytes}

/-- The host always tells the same of the sentinel and of each source, and a time of each source. -/
structure Settled (sources : List Bytes) (sentinel : Bytes) (host : Host) : Prop where
  sentinel : ∃ told, host.Tells sentinel told
  sources : ∀ source ∈ sources, ∃ time, host.Tells source (.ok time)

/-- The same is told of the times of the sentinel and of the sources as before. -/
def SameTimes (sources : List Bytes) (sentinel : Bytes) (before after : Host) : Prop :=
  ∀ path ∈ sentinel :: sources, ∀ now, after.timeAt path now = before.timeAt path now

namespace SameTimes

variable {before between after : Host}

theorem refl (host : Host) : SameTimes sources sentinel host host := fun _ _ _ => rfl

theorem trans (first : SameTimes sources sentinel before between)
    (second : SameTimes sources sentinel between after) : SameTimes sources sentinel before after :=
  fun path here now => (second path here now).trans (first path here now)

theorem tells (same : SameTimes sources sentinel before after) {path : Bytes}
    (here : path ∈ sentinel :: sources) {told : Except FileError Time} (tells : before.Tells path told) :
    after.Tells path told :=
  fun now => (same path here now).trans (tells now)

theorem settled (same : SameTimes sources sentinel before after)
    (settled : Settled sources sentinel before) : Settled sources sentinel after where
  sentinel := settled.sentinel.imp fun _ => same.tells List.mem_cons_self
  sources source here := (settled.sources source here).imp fun _ => same.tells (List.mem_cons_of_mem _ here)

theorem timeOf_eq (same : SameTimes sources sentinel before after) {path : Bytes}
    (here : path ∈ sentinel :: sources) {told : Except FileError Time} (tells : before.Tells path told) :
    after.timeOf path = before.timeOf path :=
  (same.tells here tells _).trans (tells _).symm

/-- Whether a command is due depends on the times only. -/
theorem due_iff (same : SameTimes sources sentinel before after) (settled : Settled sources sentinel before) :
    Due after sources sentinel ↔ Due before sources sentinel := by
  obtain ⟨told, tells⟩ := settled.sentinel
  have newer (stamp : Time) :
      (∃ source ∈ sources, ∃ time, after.timeOf source = .ok time ∧ stamp < time) ↔
        ∃ source ∈ sources, ∃ time, before.timeOf source = .ok time ∧ stamp < time := by
    refine exists_congr fun source => and_congr_right fun here => ?_
    obtain ⟨time, tells⟩ := settled.sources source here
    rw [same.timeOf_eq (List.mem_cons_of_mem _ here) tells]
  simp only [Due, same.timeOf_eq List.mem_cons_self tells, newer]

end SameTimes

/-! ## Single runs -/

/-- A run of the gate: its switch, its command and what the command does to the host. -/
structure Trial where
  force : Bool
  program : Bytes
  arguments : List Bytes
  behaviour : StateM Host (Except FileError CommandEnd)

namespace Trial

def command (trial : Trial) : List Bytes := trial.program :: trial.arguments

def run (trial : Trial) (o : Observed sources sentinel) :
    Except GateError Outcome × Observed sources sentinel :=
  o.run (fun _ => trial.behaviour) trial.force trial.command

/-- The host as the command finds it, after what the run has looked at. -/
def found (trial : Trial) (o : Observed sources sentinel) : Host :=
  if trial.force then o.host else o.lookAround.2.host

/-- If the command is started, it leaves the times of the sentinel and of the sources alone. -/
def LeavesTimes (trial : Trial) (o : Observed sources sentinel) : Prop :=
  trial.force = true ∨ Due o.host sources sentinel →
    SameTimes sources sentinel (trial.found o) (trial.behaviour (trial.found o)).2

end Trial

/-- The command could not be started, or it failed. -/
def Failed (result : Except GateError Outcome) : Prop :=
  (∃ program e, result = .error (.start program e)) ∨ ∃ status, result = .error (.commandFailed status)

namespace Observed

variable {o : Observed sources sentinel}

/-- A command has ended with status zero. -/
def Succeeded (o : Observed sources sentinel) : Prop := .ended (.exited 0) ∈ o.events

theorem succeeded_looked (paths : List Bytes) : (o.looked paths).Succeeded ↔ o.Succeeded := by
  simp [Succeeded, looked]

theorem finish_launch_of_alone (alone : o.coming = [])
    (behaviour : StateM Host (Except FileError CommandEnd)) (command : List Bytes) :
    finish behaviour (o.launch command) =
      ((behaviour o.host).1,
        { o with
          host := (behaviour o.host).2
          events := onSuccess .ended o.host (behaviour o.host).1 ++ .started command :: o.events }) := by
  have launched : o.launch command = { o with events := .started command :: o.events } := by
    rw [launch, others_of_alone alone]
  rw [finish_eq, launched, others_of_alone (by exact alone)]

/-- A state after a command that was started and did not end with status zero. -/
structure Ran (left : Host) (o o' : Observed sources sentinel) : Prop where
  host : o'.host = left
  coming : o'.coming = o.coming
  succeeded : o'.Succeeded ↔ o.Succeeded

theorem ran_of_unsuccessful (command : List Bytes) (left : Host) {result : Except FileError CommandEnd}
    (unsuccessful : result ≠ .ok (.exited 0)) :
    Ran left o
      { o with host := left, events := onSuccess .ended o.host result ++ .started command :: o.events } := by
  refine ⟨rfl, rfl, ?_⟩
  cases result with
  | error e => simp [Succeeded, onSuccess]
  | ok ending =>
    have other : ending ≠ .exited 0 := fun same => unsuccessful (congrArg Except.ok same)
    simp [Succeeded, onSuccess, Ne.symm other]

/-- A command that does not end with status zero is the last step of its run. -/
theorem regenerate_of_unsuccessful (alone : o.coming = [])
    (behaviour : List Bytes → StateM Host (Except FileError CommandEnd)) (program : Bytes)
    (rest : List Bytes) (unsuccessful : (behaviour (program :: rest) o.host).1 ≠ .ok (.exited 0)) :
    Failed (o.regenerate behaviour program rest).1 ∧
      Ran (behaviour (program :: rest) o.host).2 o (o.regenerate behaviour program rest).2 := by
  rw [regenerate, finish_launch_of_alone alone]
  generalize behaviour (program :: rest) o.host = ended at unsuccessful ⊢
  obtain ⟨result, left⟩ := ended
  have ran := ran_of_unsuccessful (o := o) (program :: rest) left unsuccessful
  cases result with
  | error e => exact ⟨.inl ⟨_, e, rfl⟩, ran⟩
  | ok ending =>
    cases ending with
    | killed => exact ⟨.inr ⟨1, rfl⟩, ran⟩
    | exited status =>
      have nonzero : status ≠ 0 := by
        rintro rfl
        exact unsuccessful rfl
      simp only [if_pos nonzero]
      exact ⟨.inr ⟨_, rfl⟩, ran⟩

theorem events_others (o : Observed sources sentinel) : o.events <:+ o.others.events := by
  obtain ⟨edits, passes, _⟩ := passes_others o
  exact ⟨edits, passes.events.symm⟩

theorem events_touch (o : Observed sources sentinel) : o.events <:+ o.touch.2.events := by
  have opened : o.events <:+ o.openSentinel.2.events :=
    (events_others o).trans (List.suffix_append _ _)
  rw [touch]
  generalize o.openSentinel = ended at opened
  obtain ⟨e | place, o'⟩ := ended
  · exact opened
  · exact opened.trans ((events_others o').trans (List.suffix_append _ _))

/-- A command that ends with status zero is followed by a touch, which may be refused. -/
theorem regenerate_of_successful (alone : o.coming = [])
    (behaviour : List Bytes → StateM Host (Except FileError CommandEnd)) (program : Bytes)
    (rest : List Bytes) (successful : (behaviour (program :: rest) o.host).1 = .ok (.exited 0)) :
    ¬ Failed (o.regenerate behaviour program rest).1 ∧
      (o.regenerate behaviour program rest).2.Succeeded := by
  rw [regenerate, finish_launch_of_alone alone, successful]
  simp only [ne_eq, not_true_eq_false, if_false]
  generalize ended : (Observed.mk _ _ _ : Observed sources sentinel) = o'
  have succeeded : o'.Succeeded := by
    subst ended
    simp [Succeeded, onSuccess]
  have kept := (events_touch o').mem succeeded
  generalize o'.touch = touched at kept
  obtain ⟨e | _, after⟩ := touched
  · exact ⟨by simp [Failed], kept⟩
  · exact ⟨by simp [Failed], kept⟩

variable {trial : Trial}

/-- A run that finds its command to be needed, or does not ask, goes on to the command. -/
theorem run_of_needed (alone : o.coming = []) (valid : isSentinel sentinel = true)
    (settled : Settled sources sentinel o.host) (needed : trial.force = true ∨ Due o.host sources sentinel) :
    ∃ looks, trial.found o = (o.looked looks).host ∧
      trial.run o = (o.looked looks).regenerate (fun _ => trial.behaviour) trial.program trial.arguments := by
  rw [Trial.found, Trial.run, Trial.command, run_eq, if_pos valid]
  cases forced : trial.force with
  | true => exact ⟨[], by simp [looked_nil]⟩
  | false =>
    obtain ⟨result, looks, seen, _, due, _⟩ := lookAround_of_alone alone settled.sources
    refine ⟨looks, by simp [seen], ?_⟩
    rw [forced] at needed
    simp [seen, due (needed.resolve_left Bool.false_ne_true)]

theorem started_of_needed (alone : o.coming = []) (valid : isSentinel sentinel = true)
    (settled : Settled sources sentinel o.host) (needed : trial.force = true ∨ Due o.host sources sentinel) :
    (trial.run o).2.commands = trial.command :: o.commands ∧ (trial.run o).1 ≠ .ok .upToDate := by
  obtain ⟨looks, _, ran⟩ := run_of_needed alone valid settled needed
  have alone : (o.looked looks).coming = [] := alone
  obtain ⟨result, after, regenerated, commands, _⟩ :=
    regenerate_of_alone alone (fun _ => trial.behaviour) trial.program trial.arguments
  rw [ran]
  refine ⟨?_, regenerate_ne_upToDate _ _ _ _⟩
  rw [regenerated, commands, commands_looked]
  rfl

/-- A run that need not start its command does nothing but look. -/
theorem run_of_unneeded (alone : o.coming = []) (settled : Settled sources sentinel o.host)
    (unneeded : ¬ (trial.force = true ∨ Due o.host sources sentinel)) :
    ¬ Failed (trial.run o).1 ∧ ∃ looks, (trial.run o).2 = o.looked looks := by
  obtain ⟨unforced, notDue⟩ := not_or.mp unneeded
  rw [Trial.run, Trial.command, run_eq, Bool.eq_false_iff.mpr unforced]
  split
  · obtain ⟨result, looks, seen, unreadable, _, none⟩ := lookAround_of_alone alone settled.sources
    simp only [Bool.false_eq_true, if_false, seen]
    cases modified : o.host.timeOf sentinel with
    | error e =>
      have present : e ≠ .notFound := by
        rintro rfl
        exact notDue (.inl modified)
      rw [(unreadable e modified present).1]
      exact ⟨by simp [Failed], looks, rfl⟩
    | ok stamp =>
      rw [none stamp modified notDue]
      exact ⟨by simp [Failed], looks, rfl⟩
  · exact ⟨by simp [Failed], [], looked_nil.symm⟩

/-! ## Runs one after the other -/

/-- The state after some runs. -/
def afterTrials (trials : List Trial) (o : Observed sources sentinel) : Observed sources sentinel :=
  trials.foldl (fun o trial => (trial.run o).2) o

/-- The commands of some runs leave the times alone. -/
def LeaveTimes : List Trial → Observed sources sentinel → Prop
  | [], _ => True
  | trial :: rest, o => trial.LeavesTimes o ∧ LeaveTimes rest (trial.run o).2

/-- Nobody else uses the host, no command has succeeded, and the times are those of an earlier host. -/
structure Unchanged (host : Host) (o : Observed sources sentinel) : Prop where
  alone : o.coming = []
  unsuccessful : ¬ o.Succeeded
  times : SameTimes sources sentinel host o.host

/-- What a run on unchanged times comes to. -/
inductive ComesTo (host : Host) (trial : Trial) (o : Observed sources sentinel) : Prop where
  | succeeded (notFailed : ¬ Failed (trial.run o).1) (succeeded : (trial.run o).2.Succeeded)
  | failed (needed : trial.force = true ∨ Due host sources sentinel) (failed : Failed (trial.run o).1)
    (unchanged : Unchanged host (trial.run o).2)
  /-- The command was not started. -/
  | idle (unneeded : ¬ (trial.force = true ∨ Due host sources sentinel))
    (notFailed : ¬ Failed (trial.run o).1) (unchanged : Unchanged host (trial.run o).2)

variable {host : Host}

theorem Unchanged.comesTo (unchanged : Unchanged host o) (valid : isSentinel sentinel = true)
    (settled : Settled sources sentinel host) (spares : trial.LeavesTimes o) : ComesTo host trial o := by
  have due_iff := unchanged.times.due_iff settled
  have settled := unchanged.times.settled settled
  by_cases needed : trial.force = true ∨ Due o.host sources sentinel
  · obtain ⟨looks, found, ran⟩ := run_of_needed unchanged.alone valid settled needed
    have alone : (o.looked looks).coming = [] := unchanged.alone
    by_cases successful : (trial.behaviour (o.looked looks).host).1 = .ok (.exited 0)
    · obtain ⟨notFailed, succeeded⟩ := regenerate_of_successful alone (fun _ => trial.behaviour)
        trial.program trial.arguments successful
      rw [← ran] at notFailed succeeded
      exact .succeeded notFailed succeeded
    · obtain ⟨failed, after⟩ := regenerate_of_unsuccessful alone (fun _ => trial.behaviour)
        trial.program trial.arguments successful
      rw [← ran] at failed after
      refine .failed (needed.imp_right due_iff.mp) failed ⟨after.coming.trans alone, ?_, ?_⟩
      · rw [after.succeeded, succeeded_looked]
        exact unchanged.unsuccessful
      · rw [after.host, ← found]
        -- The looks only let the clock move on.
        have looked : SameTimes sources sentinel o.host (trial.found o) := found ▸ .refl o.host
        exact unchanged.times.trans (looked.trans (spares needed))
  · obtain ⟨notFailed, looks, after⟩ := run_of_unneeded unchanged.alone settled needed
    refine .idle (mt (Or.imp_right due_iff.mpr) needed) notFailed ⟨?_, ?_, ?_⟩
    · rw [after]
      exact unchanged.alone
    · rw [after, succeeded_looked]
      exact unchanged.unsuccessful
    · rw [after]
      exact unchanged.times

theorem events_regenerate (behaviour : List Bytes → StateM Host (Except FileError CommandEnd))
    (program : Bytes) (rest : List Bytes) (o : Observed sources sentinel) :
    o.events <:+ (o.regenerate behaviour program rest).2.events := by
  have launched : o.events <:+ (o.launch (program :: rest)).events :=
    (events_others o).trans (List.suffix_cons _ _)
  have finished :
      o.events <:+ (finish (behaviour (program :: rest)) (o.launch (program :: rest))).2.events :=
    launched.trans ((events_others _).trans (List.suffix_append _ _))
  rw [regenerate]
  generalize finish (behaviour (program :: rest)) (o.launch (program :: rest)) = ended at finished ⊢
  obtain ⟨e | ending, o'⟩ := ended
  · exact finished
  cases ending with
  | killed => exact finished
  | exited status =>
    by_cases nonzero : status ≠ 0
    · simp only [if_pos nonzero]
      exact finished
    · simp only [if_neg nonzero]
      have touched := finished.trans (events_touch o')
      generalize o'.touch = ended at touched ⊢
      obtain ⟨e | _, after⟩ := ended
      · exact touched
      · exact touched

/-- What has happened is not forgotten. -/
theorem events_run (trial : Trial) (o : Observed sources sentinel) :
    o.events <:+ (trial.run o).2.events := by
  have looked : o.events <:+ o.lookAround.2.events := by
    obtain ⟨new, passes⟩ := passes_lookAround o
    exact ⟨new, passes.events.symm⟩
  rw [Trial.run, Trial.command, run_eq]
  split
  · cases trial.force with
    | true => exact events_regenerate _ _ _ o
    | false =>
      simp only [Bool.false_eq_true, if_false]
      generalize o.lookAround = seen at looked ⊢
      obtain ⟨e | due, o'⟩ := seen
      · exact looked
      cases due with
      | false => exact looked
      | true => exact looked.trans (events_regenerate _ _ _ o')
  · exact List.suffix_rfl

theorem succeeded_afterTrials (succeeded : o.Succeeded) (trials : List Trial) :
    (afterTrials trials o).Succeeded := by
  induction trials generalizing o with
  | nil => exact succeeded
  | cons trial rest ih => exact ih ((events_run trial o).mem succeeded)

/-- As long as no command succeeds, the times stay as they are. -/
theorem Unchanged.afterTrials (unchanged : Unchanged host o) (valid : isSentinel sentinel = true)
    (settled : Settled sources sentinel host) {trials : List Trial} (spare : LeaveTimes trials o)
    (unsuccessful : ¬ (afterTrials trials o).Succeeded) : Unchanged host (afterTrials trials o) := by
  induction trials generalizing o with
  | nil => exact unchanged
  | cons trial rest ih =>
    obtain ⟨spares, spare⟩ := spare
    cases unchanged.comesTo valid settled spares with
    | succeeded _ succeeded => exact absurd (succeeded_afterTrials succeeded rest) unsuccessful
    | failed _ _ unchanged => exact ih unchanged spare unsuccessful
    | idle _ _ unchanged => exact ih unchanged spare unsuccessful

end Observed

open Observed

/-- After a failed run, as long as the commands leave the times alone and none has ended with status zero,
every run starts its command, and none finds everything up to date. -/
def Retried (sources : List Bytes) (sentinel : Bytes) (host : Host) (failed : Trial) : Prop :=
  let o : Observed sources sentinel := (failed.run (alone host)).2
  ∀ trials, LeaveTimes trials o → ¬ (afterTrials trials o).Succeeded → ∀ last : Trial,
    (last.run (afterTrials trials o)).2.commands = last.command :: (afterTrials trials o).commands ∧
      (last.run (afterTrials trials o)).1 ≠ .ok .upToDate

/-- A failed run is retried exactly if its command was due when it began, and it was due if the run was
not forced. -/
theorem retried_iff_due (sources : List Bytes) (sentinel : Bytes) (host : Host) (first : Trial)
    (settled : Settled sources sentinel host)
    (spares : first.LeavesTimes (alone host : Observed sources sentinel))
    (failed : Failed (first.run (alone host : Observed sources sentinel)).1) :
    (Retried sources sentinel host first ↔ Due host sources sentinel) ∧
    (first.force = false → Due host sources sentinel) := by
  have fresh : Unchanged host (alone host : Observed sources sentinel) :=
    ⟨rfl, List.not_mem_nil, .refl _⟩
  have valid : isSentinel sentinel = true := by
    cases valid : isSentinel sentinel with
    | true => rfl
    | false =>
      rw [Trial.run, Trial.command, run_eq, valid] at failed
      simp [Failed] at failed
  obtain ⟨needed, unchanged⟩ : (first.force = true ∨ Due host sources sentinel) ∧
      Unchanged host (first.run (alone host : Observed sources sentinel)).2 := by
    cases fresh.comesTo valid settled spares with
    | succeeded notFailed => exact absurd failed notFailed
    | failed needed _ unchanged => exact ⟨needed, unchanged⟩
    | idle _ notFailed => exact absurd failed notFailed
  refine ⟨⟨?_, ?_⟩, fun unforced => needed.resolve_left (by simp [unforced])⟩
  · intro retried
    refine Classical.byContradiction fun notDue => ?_
    -- The same command without force is not started.
    have started := (retried [] trivial unchanged.unsuccessful { first with force := false }).1
    have unneeded : ¬ (({ first with force := false } : Trial).force = true ∨
        Due (first.run (alone host : Observed sources sentinel)).2.host sources sentinel) := by
      rw [unchanged.times.due_iff settled]
      exact not_or.mpr ⟨Bool.false_ne_true, notDue⟩
    obtain ⟨_, looks, after⟩ :=
      run_of_unneeded unchanged.alone (unchanged.times.settled settled) unneeded
    rw [afterTrials, List.foldl_nil, after, commands_looked] at started
    exact List.cons_ne_self _ _ started.symm
  · intro due trials spare unsuccessful last
    have unchanged := unchanged.afterTrials valid settled spare unsuccessful
    exact started_of_needed unchanged.alone valid (unchanged.times.settled settled)
      (.inr ((unchanged.times.due_iff settled).mpr due))

/-- A command that fails and changes nothing. -/
def failingTrial (force : Bool) : Trial where
  force := force
  program := [102]
  arguments := []
  behaviour host := (.ok (.exited 1), host)

theorem failingTrial_leavesTimes (force : Bool) (o : Observed sources sentinel) :
    (failingTrial force).LeavesTimes o := fun _ => .refl _

theorem retried_iff_due_sample :
    Settled [[97]] [83] sampleHost ∧
    (failingTrial false).LeavesTimes (alone sampleHost : Observed [[97]] [83]) ∧
    Failed ((failingTrial false).run (alone sampleHost : Observed [[97]] [83])).1 ∧
    Retried [[97]] [83] sampleHost (failingTrial false) := by
  have settled : Settled [[97]] [83] sampleHost := ⟨⟨.ok 7, fun _ => rfl⟩, by simpa using ⟨9, fun _ => rfl⟩⟩
  have failed : Failed ((failingTrial false).run (alone sampleHost : Observed [[97]] [83])).1 :=
    .inr ⟨1, rfl⟩
  obtain ⟨retried, due⟩ := retried_iff_due [[97]] [83] sampleHost (failingTrial false) settled
    (failingTrial_leavesTimes false (alone sampleHost)) failed
  exact ⟨settled, failingTrial_leavesTimes false _, failed, retried.mpr (due rfl)⟩

/-- A host on which the sentinel `S` is newer than the source `a`. -/
def currentHost : Host :=
  { Host.start 10 with
    files := ((FileSystem.start 5).put [[119, 111, 114, 107], [97]] (.file [] 7)).put
      [[119, 111, 114, 107], [83]] (.file [] 9) }

/-- A forced run that fails while nothing is due is forgotten: the run after it finds everything up to
date. -/
theorem forced_failure_forgotten :
    ¬ ∀ (sources : List Bytes) (sentinel : Bytes) (host : Host) (first : Trial),
      isSentinel sentinel = true →
      Settled sources sentinel host →
      first.LeavesTimes (alone host : Observed sources sentinel) →
      Failed (first.run (alone host : Observed sources sentinel)).1 →
      Retried sources sentinel host first := by
  intro every
  have settled : Settled [[97]] [83] currentHost := ⟨⟨.ok 9, fun _ => rfl⟩, by simpa using ⟨7, fun _ => rfl⟩⟩
  have failed : Failed ((failingTrial true).run (alone currentHost : Observed [[97]] [83])).1 :=
    .inr ⟨1, rfl⟩
  have retried := every [[97]] [83] currentHost (failingTrial true) (by decide) settled
    (failingTrial_leavesTimes true (alone currentHost)) failed
  have unsuccessful : ¬ (afterTrials []
      ((failingTrial true).run (alone currentHost : Observed [[97]] [83])).2).Succeeded := by
    unfold Succeeded
    decide +kernel
  exact (retried [] trivial unsuccessful (failingTrial false)).2 rfl

end GameTables.Gate
