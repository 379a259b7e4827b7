import GameTables.Proofs.FileSystem.Replacing
import GameTables.Proofs.Host.Steps

/-!
# Replacing files on the host

The host may refuse any step of a replacement, for a reason that lies in the files or for one of its own.
Whichever step it is, all is as before, and the temporary file is gone.
-/

namespace GameTables

namespace Storage

open FileSystem (Holding Replaced Replaceable SameBut)

variable {path contents held : Bytes} {temporary : Location} {before : FileSystem} {host : Host}

/-! ## Moving a temporary file to its path -/

/-- What comes of a temporary file that is to be moved to a path: it is moved, or it is still there. -/
inductive Publishes (temporary : Location) (path contents : Bytes) (before after : FileSystem) :
    Except FileError Unit → Prop
  | moved (place : Location) (replaced : Replaced path place contents before after) :
    Publishes temporary path contents before after (.ok ())
  | left (e : FileError) (held : Bytes) (holding : Holding temporary held before after) :
    Publishes temporary path contents before after (.error e)

/-- A program publishes a temporary file or leaves it. Where the host is calm, it is published if the path
is free for it. -/
def Publishing (temporary : Location) (path contents : Bytes) (before : FileSystem)
    (program : ExceptT FileError (StateM Host) Unit) (host : Host) : Prop :=
  ∃ result after, program.run host = (result, after) ∧ after.outages = host.outages ∧
    Publishes temporary path contents before after.files result ∧
    (host.Calm → (result = .ok () ↔ before.EndsFree path))

theorem publishing_publish (holding : Holding temporary contents before host.files) :
    Publishing temporary path contents before (publish temporary path) host := by
  have published : (publish temporary path : ExceptT FileError (StateM Host) Unit).run host =
    (Host.change fun files now => files.moveTemporary now temporary path).run host := rfl
  rw [Publishing, published, Host.change_run]
  cases came : host.outcome .work fun files now => files.moveTemporary now temporary path with
  | error e =>
    refine ⟨_, _, rfl, rfl, .left e contents holding, fun calm => ?_⟩
    rw [calm.outcome_eq] at came
    rw [← holding.exists_moveTemporary_iff, came]
    simp
  | ok files =>
    have moved := Host.operation_of_outcome came
    obtain ⟨place, replaced⟩ := holding.publish moved
    refine ⟨_, _, rfl, rfl, .moved place replaced, fun _ => ?_⟩
    exact ⟨fun _ => holding.exists_moveTemporary_iff.mp ⟨_, moved⟩, fun _ => rfl⟩

/-- A step on the temporary file, which the files allow, comes before the others. -/
theorem Publishing.after_change {next : ExceptT FileError (StateM Host) Unit} {files : FileSystem}
    (operation : FileSystem → Time → Except FileError FileSystem)
    (holding : Holding temporary held before host.files)
    (allowed : operation host.files host.tick.clock = .ok files)
    (continued : Publishing temporary path contents before next { host.tick with files }) :
    Publishing temporary path contents before (do Host.change operation; next) host := by
  rw [Publishing, run_bind_state, Host.change_run]
  cases came : host.outcome .work operation with
  | error e =>
    refine ⟨_, _, rfl, rfl, .left e held holding, fun calm => ?_⟩
    rw [calm.outcome_eq, allowed] at came
    cases came
  | ok files' =>
    cases allowed.symm.trans (Host.operation_of_outcome came)
    obtain ⟨result, after, ran, outages, publishes, calmly⟩ := continued
    exact ⟨result, after, ran, outages, publishes, calmly⟩

theorem publishing_publishContents (path contents : Bytes) (host : Host)
    (holding : Holding temporary held before host.files) :
    Publishing temporary path contents before (publishContents temporary path contents) host := by
  have filled := holding.fill host.tick.clock contents
  refine .after_change (fun files now => .ok (files.put temporary (.file contents now))) holding rfl ?_
  exact .after_change (fun files _ => .ok files) filled rfl (publishing_publish filled)

/-! ## Replacing a file -/

/-- What comes of a file that is to be replaced: it is, or all is as before. -/
inductive Replaces (path contents : Bytes) (before after : FileSystem) : Except FileError Unit → Prop
  | done (place : Location) (replaced : Replaced path place contents before after) :
    Replaces path contents before after (.ok ())
  | failed (e : FileError) (same : SameBut [] before after) : Replaces path contents before after (.error e)

theorem replaceFile_run (path contents : Bytes) (host : Host) :
    ∃ result after, (replaceFile path contents : ExceptT FileError (StateM Host) Unit).run host =
        (result, after) ∧ after.outages = host.outages ∧
      Replaces path contents host.files after.files result ∧
      (host.Calm → (result = .ok () ↔ host.files.Replaceable path)) := by
  have created : (createTemporary (Path.directory path) : ExceptT FileError (StateM Host) Location).run =
    (Host.attempt fun files now => files.createTemporary now (Path.directory path)).run := rfl
  rw [replaceFile, run_bind_state, created, Host.attempt_run]
  cases came : host.outcome .work fun files now => files.createTemporary now (Path.directory path) with
  | error e =>
    refine ⟨_, _, rfl, rfl, .failed e (.refl [] _), fun calm => ?_⟩
    rw [calm.outcome_eq] at came
    refine ⟨nofun, fun replaceable => ?_⟩
    obtain ⟨_, creates⟩ := FileSystem.exists_createTemporary_iff.mpr ⟨replaceable.fits, replaceable.parent⟩
    cases came.symm.trans creates
  | ok created =>
    obtain ⟨temporary, files⟩ := created
    have creates := Host.operation_of_outcome came
    have holding := FileSystem.holding_of_createTemporary creates
    obtain ⟨fits, parent⟩ := FileSystem.exists_createTemporary_iff.mp ⟨_, creates⟩
    obtain ⟨result, after, ran, outages, publishes, calmly⟩ :=
      publishing_publishContents path contents { host.tick with files } holding
    simp only [run_tryCatch_state, ran]
    have replaceable : host.Calm → (result = .ok () ↔ host.files.Replaceable path) := fun calm =>
      (calmly calm).trans ⟨fun free => ⟨fits, parent, free⟩, fun replaceable => replaceable.free⟩
    cases publishes with
    | moved place replaced => exact ⟨_, _, rfl, outages, .done place replaced, replaceable⟩
    | left e held holding =>
      exact ⟨_, _, rfl, outages, .failed e (holding.discard after.tick.clock), replaceable⟩

end Storage

end GameTables
