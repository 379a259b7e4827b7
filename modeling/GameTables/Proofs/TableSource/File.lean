import GameTables.Proofs.Storage.Replacing
import GameTables.TableSource.File

/-!
# All or nothing

The output file is replaced by the source of what the two documents held at the start, or the files are
as they were. A document is read before anything is written, so that it may be the output file itself.
-/

namespace GameTables.TableSource

open FileSystem (Replaced Replaceable SameBut)

/-- The source of the two documents, read at the next two points of time, the properties first. -/
def sourceAt (generator : String) (blocks properties : Bytes) (host : Host) : Except TableError String :=
  match host.text properties with
  | .error e => .error (.file e)
  | .ok propertiesText =>
    match host.tick.text blocks with
    | .error e => .error (.file e)
    | .ok blocksText => generate generator blocksText propertiesText

variable {generator source : String} {blocks properties out : Bytes} {host : Host}

/-- Nothing but the two documents has a say in the source. -/
theorem generate_of_sourceAt (made : sourceAt generator blocks properties host = .ok source) :
    ∃ propertiesText blocksText, host.files.text properties = .ok propertiesText ∧
      host.files.text blocks = .ok blocksText ∧
      generate generator blocksText propertiesText = .ok source := by
  unfold sourceAt at made
  cases first : host.text properties with
  | error e =>
    rw [first] at made
    cases made
  | ok propertiesText =>
    rw [first] at made
    cases second : host.tick.text blocks with
    | error e => simp [second] at made
    | ok blocksText =>
      simp only [second] at made
      exact ⟨propertiesText, blocksText, Host.files_text_of_text first,
        (Host.files_text_of_text second : host.tick.files.text blocks = _), made⟩

theorem sourceAt_of_properties {e : FileError} (unread : host.text properties = .error e) :
    sourceAt generator blocks properties host = .error (.file e) := by
  rw [sourceAt, unread]

/-- A run comes to the source first, and then to the replacement of the output file. -/
theorem generateFile_run (generator : String) (blocks properties out : Bytes) (host : Host) :
    ∃ later : Host, (later.files = host.files ∧ later.outages = host.outages) ∧
      (generateFile generator blocks properties out : ExceptT TableError (StateM Host) Unit).run host =
        match sourceAt generator blocks properties host with
        | .error e => (.error e, later)
        | .ok source =>
          ((Storage.replaceFile out (Bytes.ofString source) :
            ExceptT FileError (StateM Host) Unit).adapt TableError.file).run later := by
  unfold generateFile sourceAt
  rw [run_bind_state, run_adapt_state, Host.readText_run]
  cases host.text properties with
  | error e => exact ⟨host.tick, ⟨rfl, rfl⟩, rfl⟩
  | ok propertiesText =>
    refine ⟨host.tick.tick, ⟨rfl, rfl⟩, ?_⟩
    dsimp only
    rw [run_bind_state, run_adapt_state, Host.readText_run]
    cases host.tick.text blocks with
    | error e => rfl
    | ok blocksText =>
      dsimp only
      cases generate generator blocksText propertiesText <;> rfl

/-- A run fails and leaves all as it was, or its output file holds the source of what the two documents
held at the start, and nothing else has changed. The first thing that can go wrong is the properties. -/
theorem generateFile_all_or_nothing (generator : String) (blocks properties out : Bytes) (host : Host) :
    ∃ result after,
      (generateFile generator blocks properties out : ExceptT TableError (StateM Host) Unit).run host =
        (result, after) ∧
      (∀ e, host.text properties = .error e → result = .error (.file e)) ∧
      (∀ e, sourceAt generator blocks properties host = .error e → result = .error e) ∧
      (∀ e, result = .error e → SameBut [] host.files after.files) ∧
      (result = .ok () → ∃ propertiesText blocksText source place,
        host.files.text properties = .ok propertiesText ∧ host.files.text blocks = .ok blocksText ∧
        generate generator blocksText propertiesText = .ok source ∧
        after.files.read out = .ok (Bytes.ofString source) ∧
        Replaced out place (Bytes.ofString source) host.files after.files) ∧
      (host.Calm → (result = .ok () ↔
        (∃ source, sourceAt generator blocks properties host = .ok source) ∧
          host.files.Replaceable out)) := by
  obtain ⟨later, ⟨files, outages⟩, ran⟩ := generateFile_run generator blocks properties out host
  rw [ran]
  cases made : sourceAt generator blocks properties host with
  | error e =>
    refine ⟨_, _, rfl, fun e' unread => ?_, ?_, fun _ _ => files ▸ .refl [] _, nofun, by simp⟩
    · cases made.symm.trans (sourceAt_of_properties unread)
      rfl
    · rintro _ ⟨⟩
      rfl
  | ok source =>
    obtain ⟨result, after, replaces, _, ended, calmly⟩ :=
      Storage.replaceFile_run out (Bytes.ofString source) later
    dsimp only
    rw [run_adapt_state, replaces]
    have read : ∀ e, host.text properties ≠ .error e := by
      intro e unread
      rw [sourceAt_of_properties unread] at made
      cases made
    rw [files] at ended calmly
    have calm : host.Calm → later.Calm := fun calm time => outages ▸ calm time
    cases ended with
    | done place replaced =>
      refine ⟨_, _, rfl, fun e unread => absurd unread (read e), nofun, nofun, fun _ => ?_, fun still => ?_⟩
      · obtain ⟨propertiesText, blocksText, first, second, generated⟩ := generate_of_sourceAt made
        exact ⟨propertiesText, blocksText, source, place, first, second, generated, replaced.read, replaced⟩
      · simpa using calmly (calm still)
    | failed e same =>
      refine ⟨_, _, rfl, fun e unread => absurd unread (read e), nofun, fun _ _ => same, nofun, fun still => ?_⟩
      simpa using calmly (calm still)

end GameTables.TableSource
