import GameTables.Proofs.FileSystem.Directories
import GameTables.Proofs.Host.Steps

/-!
# Making directories on the host

Whatever the host allows and whatever it refuses, a directory that is made with the missing ones above it
leaves all that was there. One that is there need not be made.
-/

namespace GameTables.Storage

open FileSystem (Opened)

variable {ε α β : Type} {paths more : List Bytes} {path : Bytes}

/-- A program changes nothing but that it makes directories at some paths. The host is as ready for work as
before. -/
def Opens (paths : List Bytes) (program : ExceptT ε (StateM Host) α) : Prop :=
  ∀ host, Opened paths host.files (program.run host).2.files ∧ (program.run host).2.outages = host.outages

theorem opens_pure (a : α) : Opens paths (pure a : ExceptT ε (StateM Host) α) :=
  fun host => ⟨.refl paths host.files, rfl⟩

theorem opens_throw (e : ε) : Opens paths (throw e : ExceptT ε (StateM Host) α) :=
  fun host => ⟨.refl paths host.files, rfl⟩

theorem Opens.bind {program : ExceptT ε (StateM Host) α} {next : α → ExceptT ε (StateM Host) β}
    (first : Opens paths program) (second : ∀ a, Opens paths (next a)) : Opens paths (program >>= next) := by
  intro host
  obtain ⟨opened, outages⟩ := first host
  rw [run_bind_state]
  generalize program.run host = ran at opened outages ⊢
  obtain ⟨_ | a, between⟩ := ran
  · exact ⟨opened, outages⟩
  · obtain ⟨opened', outages'⟩ := second a between
    exact ⟨opened.trans opened', outages'.trans outages⟩

theorem Opens.tryCatch {program : ExceptT ε (StateM Host) α} {handle : ε → ExceptT ε (StateM Host) α}
    (first : Opens paths program) (second : ∀ e, Opens paths (handle e)) :
    Opens paths (tryCatch program handle) := by
  intro host
  obtain ⟨opened, outages⟩ := first host
  rw [run_tryCatch_state]
  generalize program.run host = ran at opened outages ⊢
  obtain ⟨e | _, between⟩ := ran
  · obtain ⟨opened', outages'⟩ := second e between
    exact ⟨opened.trans opened', outages'.trans outages⟩
  · exact ⟨opened, outages⟩

theorem makeDirectory_run (path : Bytes) (host : Host) :
    (makeDirectory path : ExceptT FileError (StateM Host) Unit).run host =
      match host.outcome .work fun files now => files.makeDirectory now path with
      | .error e => (.error e, host.tick)
      | .ok files => (.ok (), { host.tick with files }) :=
  Host.change_run (fun files now => files.makeDirectory now path) host

theorem opens_makeDirectory (listed : path ∈ paths) :
    Opens paths (makeDirectory path : ExceptT FileError (StateM Host) Unit) := by
  intro host
  rw [makeDirectory_run]
  cases came : host.outcome .work fun files now => files.makeDirectory now path with
  | error e => exact ⟨.refl paths host.files, rfl⟩
  | ok files => exact ⟨FileSystem.opened_of_makeDirectory listed (Host.operation_of_outcome came), rfl⟩

theorem opens_leadsToDirectory (path : Bytes) :
    Opens paths (liftM (leadsToDirectory path : StateM Host Bool) : ExceptT FileError (StateM Host) Bool) :=
  fun host => ⟨.refl paths host.files, rfl⟩

/-- A directory that cannot be made may be there already, or what is above it may be missing. -/
theorem opens_tryMake {handle : FileError → ExceptT FileError (StateM Host) Unit} (listed : path ∈ paths)
    (missing : Opens paths (handle .notFound)) (there : Opens paths (handle .alreadyExists))
    (others : ∀ e, e ≠ .notFound → e ≠ .alreadyExists → handle e = throw e) :
    Opens paths (tryCatch (makeDirectory path) handle) := by
  refine (opens_makeDirectory listed).tryCatch fun e => ?_
  by_cases noAbove : e = .notFound
  · exact noAbove ▸ missing
  by_cases already : e = .alreadyExists
  · exact already ▸ there
  · rw [others e noAbove already]
    exact opens_throw e

theorem opens_makeFirst (sub : more ⊆ paths) :
    Opens paths (makeFirst more : ExceptT FileError (StateM Host) Unit) := by
  induction more with
  | nil => exact opens_pure ()
  | cons path above ih =>
    obtain ⟨listed, sub⟩ := List.cons_subset.mp sub
    have there : Opens paths (do
        if !(← (leadsToDirectory path : StateM Host Bool)) then throw .alreadyExists :
          ExceptT FileError (StateM Host) Unit) := by
      refine (opens_leadsToDirectory path).bind fun leads => ?_
      cases leads
      · exact opens_throw _
      · exact opens_pure ()
    -- The directory is tried a second time when those above it have been made.
    refine opens_tryMake listed ((ih sub).bind fun _ => ?_) there fun e _ _ => by cases e <;> trivial
    exact opens_tryMake listed (opens_throw _) there fun e _ _ => by cases e <;> trivial

theorem opens_makeDirectories (path : Bytes) :
    Opens (Path.ancestors path) (makeDirectories path : ExceptT FileError (StateM Host) Unit) :=
  opens_makeFirst (List.Subset.refl _)

/-! ## Directories that are there -/

theorem ancestors_eq_nil_or_cons (path : Bytes) :
    Path.ancestors path = [] ∨ ∃ above, Path.ancestors path = path :: above := by
  unfold Path.ancestors
  split
  · exact .inl rfl
  split
  · exact .inl rfl
  · exact .inr ⟨_, rfl⟩

/-- On a calm host a directory that is there is found to be one. -/
theorem leadsToDirectory_run {host : Host} (calm : host.Calm)
    (leads : host.files.leadsToDirectory path = true) :
    (liftM (leadsToDirectory path : StateM Host Bool) : ExceptT FileError (StateM Host) Bool).run host =
      (.ok true, host.tick) := by
  have outcome : host.outcome (.look path) (fun files _ => .ok (files.leadsToDirectory path)) =
      .ok true := by
    rw [calm.outcome_eq, leads]
  change (Except.ok (((host.outcome (.look path) _).toOption).getD false), host.tick) = _
  rw [outcome]
  rfl

/-- On a calm host a directory that is there need not be made. -/
theorem makeDirectories_of_leadsToDirectory {host : Host} (calm : host.Calm)
    (leads : host.files.leadsToDirectory path = true) :
    ∃ after, (makeDirectories path : ExceptT FileError (StateM Host) Unit).run host = (.ok (), after) ∧
      after.files = host.files := by
  rw [makeDirectories]
  rcases ancestors_eq_nil_or_cons path with none | ⟨above, some⟩
  · rw [none]
    exact ⟨host, rfl, rfl⟩
  obtain ⟨place, located⟩ := FileSystem.exists_locate_of_leadsToDirectory leads
  have refused : (makeDirectory path : ExceptT FileError (StateM Host) Unit).run host =
      (.error .alreadyExists, host.tick) := by
    rw [makeDirectory_run, calm.outcome_eq, FileSystem.makeDirectory_of_locate located]
  have calm' : host.tick.Calm := calm
  refine ⟨host.tick.tick, ?_, rfl⟩
  rw [some, makeFirst, run_tryCatch_state, refused]
  dsimp only
  rw [run_bind_state, leadsToDirectory_run calm' leads]
  rfl

end GameTables.Storage
