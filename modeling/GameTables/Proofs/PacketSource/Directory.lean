import GameTables.PacketSource.Directory
import GameTables.Proofs.Storage.Directories
import GameTables.Proofs.Storage.Replacing

/-!
# Files of a directory, one after the other

Each file is written as a whole, so that a run that fails leaves the first files in their new state and the
others in their old one. Nothing is written, and no directory is made, unless the document is accepted.
-/

namespace GameTables.PacketSource

open FileSystem (Grows IsName Made Opened Replaced SameBut)

/-- The path of a file in a directory. -/
def GeneratedFile.pathIn (out : Bytes) (file : GeneratedFile) : Bytes :=
  Path.join out (Bytes.ofString file.name)

/-- The names of files in a directory tell them apart. -/
structure NamesApart (sources : List GeneratedFile) : Prop where
  proper : ∀ file ∈ sources, IsName (Bytes.ofString file.name)
  distinct : sources.Pairwise fun file other => Bytes.ofString file.name ≠ Bytes.ofString other.name

variable {out : Bytes} {file other : GeneratedFile} {sources : List GeneratedFile} {place : Location}
  {before middle after : FileSystem} {result : Except FileError Unit}

/-- Paths of different names lead to different places. -/
theorem locate_ne_of_name (named : IsName (Bytes.ofString file.name))
    (named' : IsName (Bytes.ofString other.name))
    (differ : Bytes.ofString file.name ≠ Bytes.ofString other.name)
    (leads : after.locate (file.pathIn out) = .ok place) : after.locate (other.pathIn out) ≠ .ok place := by
  intro leads'
  obtain ⟨directory, rfl⟩ := FileSystem.eq_concat_of_locate_join named leads
  obtain ⟨directory', same⟩ := FileSystem.eq_concat_of_locate_join named' leads'
  exact differ (List.singleton_inj.mp (List.append_inj_right' same rfl))

/-! ## Writing the files -/

/-- Files are found in a directory with their contents, and nothing else has changed. -/
structure Wrote (out : Bytes) (sources : List GeneratedFile) (before after : FileSystem) : Prop where
  grows : Grows before after
  stand : ∀ file ∈ sources, ∃ place, after.locate (file.pathIn out) = .ok place ∧
    after.view place = some (some (Bytes.ofString file.contents))
  others : ∀ place, (∀ file ∈ sources, after.locate (file.pathIn out) ≠ .ok place) →
    after.item? place = before.item? place

theorem wrote_nil (same : SameBut [] before after) : Wrote out [] before after where
  grows := same.grows nofun
  stand := nofun
  others place _ := same.items place List.not_mem_nil

/-- A file that is written keeps its place and its contents while the others are written. -/
theorem Wrote.cons (elsewhere : ∀ place, after.locate (file.pathIn out) = .ok place →
      ∀ other ∈ sources, after.locate (other.pathIn out) ≠ .ok place)
    (replaced : Replaced (file.pathIn out) place (Bytes.ofString file.contents) before middle)
    (wrote : Wrote out sources middle after) : Wrote out (file :: sources) before after := by
  have leads := wrote.grows.locate replaced.leads
  refine ⟨replaced.grows.trans wrote.grows, List.forall_mem_cons.mpr ⟨?_, wrote.stand⟩, ?_⟩
  · refine ⟨place, leads, ?_⟩
    rw [FileSystem.view_eq_of_item? (wrote.others place (elsewhere place leads)), replaced.holds]
  · intro there away
    obtain ⟨first, later⟩ := List.forall_mem_cons.mp away
    have moved : there ≠ place := fun here => first (here ▸ leads)
    rw [wrote.others there later, replaced.others.items there (by simpa using moved)]

/-- Some files have been written, and the next one could not be. -/
structure FailsAt (out : Bytes) (sources : List GeneratedFile) (k : Nat) (e : FileError)
    (host after : Host) : Prop where
  fewer : k < sources.length
  fails : ∃ between : Host,
    (writeFiles out (sources.take k) : ExceptT FileError (StateM Host) Unit).run host = (.ok (), between) ∧
    (Storage.replaceFile (sources[k].pathIn out) (Bytes.ofString sources[k].contents) :
      ExceptT FileError (StateM Host) Unit).run between = (.error e, after)

/-- What comes of files that are to be written: all are, or the first ones, up to one that fails. -/
inductive Writes (out : Bytes) (sources : List GeneratedFile) (host after : Host) :
    Except FileError Unit → Prop
  | all (wrote : Wrote out sources host.files after.files) : Writes out sources host after (.ok ())
  | first (k : Nat) (e : FileError) (fails : FailsAt out sources k e host after)
    (wrote : Wrote out (sources.take k) host.files after.files) : Writes out sources host after (.error e)

theorem failsAt_zero {host after : Host} {e : FileError}
    (fails : (Storage.replaceFile (file.pathIn out) (Bytes.ofString file.contents) :
      ExceptT FileError (StateM Host) Unit).run host = (.error e, after)) :
    FailsAt out (file :: sources) 0 e host after :=
  ⟨Nat.succ_pos _, host, rfl, fails⟩

theorem FailsAt.cons {host between after : Host} {k : Nat} {e : FileError}
    (wrote : (Storage.replaceFile (file.pathIn out) (Bytes.ofString file.contents) :
      ExceptT FileError (StateM Host) Unit).run host = (.ok (), between))
    (fails : FailsAt out sources k e between after) : FailsAt out (file :: sources) (k + 1) e host after := by
  obtain ⟨fewer, last, ran, failed⟩ := fails
  refine ⟨Nat.succ_lt_succ fewer, last, ?_, failed⟩
  rw [List.take_succ_cons, writeFiles, run_bind_state, ← GeneratedFile.pathIn, wrote]
  exact ran

theorem Writes.cons {host between after : Host}
    (elsewhere : ∀ place, after.files.locate (file.pathIn out) = .ok place →
      ∀ other ∈ sources, after.files.locate (other.pathIn out) ≠ .ok place)
    (ran : (Storage.replaceFile (file.pathIn out) (Bytes.ofString file.contents) :
      ExceptT FileError (StateM Host) Unit).run host = (.ok (), between))
    (replaced : Replaced (file.pathIn out) place (Bytes.ofString file.contents) host.files between.files)
    (writes : Writes out sources between after result) : Writes out (file :: sources) host after result := by
  cases writes with
  | all wrote => exact .all (.cons elsewhere replaced wrote)
  | first k e fails wrote =>
    refine .first (k + 1) e (.cons ran fails) (.cons (fun place leads other here => ?_) replaced wrote)
    exact elsewhere place leads other (List.mem_of_mem_take here)

/-- The first files are written. On a calm host all are, if each of them can be put at its path. -/
theorem writeFiles_run (out : Bytes) (apart : NamesApart sources) (host : Host) :
    ∃ result after, (writeFiles out sources : ExceptT FileError (StateM Host) Unit).run host =
        (result, after) ∧ Writes out sources host after result ∧
      (host.Calm → (result = .ok () ↔ ∀ file ∈ sources, host.files.Replaceable (file.pathIn out))) := by
  induction sources generalizing host with
  | nil => exact ⟨_, _, rfl, .all (wrote_nil (.refl [] host.files)), by simp⟩
  | cons file rest ih =>
    obtain ⟨named, proper⟩ := List.forall_mem_cons.mp apart.proper
    obtain ⟨differ, distinct⟩ := List.pairwise_cons.mp apart.distinct
    obtain ⟨result, between, replaces, outages, comes, calmly⟩ :=
      Storage.replaceFile_run (file.pathIn out) (Bytes.ofString file.contents) host
    rw [writeFiles, run_bind_state, ← GeneratedFile.pathIn, replaces]
    cases comes with
    | failed e same =>
      refine ⟨_, _, rfl, .first 0 e (failsAt_zero replaces) (wrote_nil same), fun calm => ⟨nofun, ?_⟩⟩
      intro replaceable
      cases (calmly calm).mpr (replaceable file List.mem_cons_self)
    | done place replaced =>
      obtain ⟨result, after, ran, writes, calmly'⟩ := ih ⟨proper, distinct⟩ between
      refine ⟨result, after, ran, ?_, fun calm => ?_⟩
      · refine writes.cons (fun place leads other here => ?_) replaces replaced
        exact locate_ne_of_name named (proper other here) (differ other here) leads
      · have same := replaced.sameDirectories
        rw [calmly' (fun request time => outages ▸ calm request time), List.forall_mem_cons,
          and_iff_right ((calmly calm).mp rfl)]
        exact forall₂_congr fun other _ => ⟨same.symm.replaceable, same.replaceable⟩

/-! ## Generating the files -/

/-- The first files of a directory are new and complete, the others are as they were, and else nothing has
changed but that directories have been made on the way to the directory. -/
structure WritesFirst (out : Bytes) (sources : List GeneratedFile) (k : Nat) (before after : FileSystem) :
    Prop where
  /-- All that was there is there, so that paths that led somewhere lead there still. -/
  grows : Grows before after
  written : ∀ file ∈ sources.take k, after.read (file.pathIn out) = .ok (Bytes.ofString file.contents)
  /-- Where a file is still to be written there is the same file as before, or none as before. -/
  untouched : ∀ file ∈ sources.drop k, ∀ place, after.locate (file.pathIn out) = .ok place →
    after.file? place = before.file? place
  others : ∀ place, (∀ file ∈ sources.take k, after.locate (file.pathIn out) ≠ .ok place) →
    after.item? place = before.item? place ∨ Made (Path.ancestors out) before after place

/-- A directory that is made on the way is neither a file before nor after. -/
theorem file?_eq_of_made {paths : List Bytes} (made : Made paths before after place) :
    after.file? place = before.file? place := by
  rw [FileSystem.file?, FileSystem.isDirectory_iff_item?.mp made.directory, FileSystem.file?,
    FileSystem.node?_eq_none_iff_item?.mp made.absent]
  rfl

theorem writesFirst_of_wrote {k : Nat} (apart : NamesApart sources)
    (opened : Opened (Path.ancestors out) before middle) (wrote : Wrote out (sources.take k) middle after) :
    WritesFirst out sources k before after := by
  have others : ∀ place, (∀ file ∈ sources.take k, after.locate (file.pathIn out) ≠ .ok place) →
      after.item? place = before.item? place ∨ Made (Path.ancestors out) before after place := by
    intro place away
    rcases opened.others place with same | made
    · exact .inl ((wrote.others place away).trans same)
    · exact .inr (made.later wrote.grows)
  refine ⟨opened.grows.trans wrote.grows, fun file here => ?_, ?_, others⟩
  · obtain ⟨place, leads, holds⟩ := wrote.stand file here
    exact FileSystem.read_of_view leads holds
  · intro file here place leads
    have distinct := apart.distinct
    rw [← List.take_append_drop k sources, List.pairwise_append] at distinct
    have away : ∀ other ∈ sources.take k, after.locate (other.pathIn out) ≠ .ok place := fun other there =>
      locate_ne_of_name (apart.proper file (List.mem_of_mem_drop here))
        (apart.proper other (List.mem_of_mem_take there)) (distinct.2.2 other there file here).symm leads
    rcases others place away with same | made
    · rw [FileSystem.file?, same, FileSystem.file?]
    · exact file?_eq_of_made made

theorem namesApart_files (generator : String) (protocol : Protocol) :
    NamesApart (files generator protocol) where
  proper := by
    simp only [PacketSource.files, List.forall_mem_cons]
    refine ⟨?_, ?_, ?_, ?_, nofun⟩ <;> constructor <;> decide +kernel
  distinct := by
    simp only [PacketSource.files, List.pairwise_cons, List.forall_mem_cons]
    refine ⟨⟨?_, ?_, ?_, nofun⟩, ⟨?_, ?_, nofun⟩, ⟨?_, nofun⟩, nofun, .nil⟩ <;> decide +kernel

/-- The files of the document, read at the next point of time. -/
def sourcesAt (generator : String) (document : Bytes) (host : Host) :
    Except PacketError (List GeneratedFile) :=
  match host.text document with
  | .error e => .error (.file e)
  | .ok text => generate generator text

theorem generate_of_sourcesAt {generator : String} {document : Bytes} {host : Host}
    (made : sourcesAt generator document host = .ok sources) :
    ∃ text, host.files.text document = .ok text ∧ generate generator text = .ok sources := by
  unfold sourcesAt at made
  split at made
  · cases made
  · next text reads => exact ⟨text, Host.files_text_of_text reads, made⟩

/-- A run comes to the files first, then to their directory, and then to the writing. -/
theorem generateDirectory_run (generator : String) (document out : Bytes) (host : Host) :
    (generateDirectory generator document out : ExceptT PacketError (StateM Host) Unit).run host =
      match sourcesAt generator document host with
      | .error e => (.error e, host.tick)
      | .ok sources =>
        match (Storage.makeDirectories out : ExceptT FileError (StateM Host) Unit).run host.tick with
        | (.error e, opened) => (.error (.file e), opened)
        | (.ok (), opened) =>
          match (writeFiles out sources : ExceptT FileError (StateM Host) Unit).run opened with
          | (.error e, after) => (.error (.file e), after)
          | (.ok (), after) => (.ok (), after) := by
  rw [generateDirectory, run_bind_state, run_adapt_state, Host.readText_run, sourcesAt]
  cases host.text document with
  | error e => rfl
  | ok text =>
    dsimp only
    cases generate generator text with
    | error e => rfl
    | ok sources =>
      dsimp only
      rw [run_bind_state, run_adapt_state]
      rcases (Storage.makeDirectories out : ExceptT FileError (StateM Host) Unit).run host.tick with
        ⟨e | _, opened⟩
      · rfl
      · dsimp only
        rw [run_adapt_state]
        rcases (writeFiles out sources : ExceptT FileError (StateM Host) Unit).run opened with
          ⟨e | _, after⟩ <;> rfl

/-- A run fails: the directory cannot be made, or after some files the next one cannot be written. -/
inductive Stops (out : Bytes) (sources : List GeneratedFile) (host : Host) : Nat → FileError → Host → Prop
  | directory (e : FileError) (after : Host)
    (fails : (Storage.makeDirectories out : ExceptT FileError (StateM Host) Unit).run host = (.error e, after)) :
    Stops out sources host 0 e after
  | file (k : Nat) (e : FileError) (opened after : Host)
    (makes : (Storage.makeDirectories out : ExceptT FileError (StateM Host) Unit).run host = (.ok (), opened))
    (fails : FailsAt out sources k e opened after) : Stops out sources host k e after

/-- The directory can be made, and then each file can be put into it. -/
def Possible (out : Bytes) (sources : List GeneratedFile) (host : Host) : Prop :=
  ∃ opened : Host,
    (Storage.makeDirectories out : ExceptT FileError (StateM Host) Unit).run host = (.ok (), opened) ∧
    ∀ file ∈ sources, opened.files.Replaceable (file.pathIn out)

/-- A directory that is there need not be made. -/
theorem possible_iff_of_leadsToDirectory {host : Host} (calm : host.Calm)
    (leads : host.files.leadsToDirectory out = true) :
    Possible out sources host ↔ ∀ file ∈ sources, host.files.Replaceable (file.pathIn out) := by
  obtain ⟨opened, makes, same⟩ := Storage.makeDirectories_of_leadsToDirectory calm leads
  constructor
  · rintro ⟨_, makes', all⟩
    cases makes.symm.trans makes'
    rwa [← same]
  · intro all
    exact ⟨opened, makes, by rwa [same]⟩

/-- A run whose files have been made writes the first ones. -/
theorem writesFirst_of_sourcesAt {generator : String} {document : Bytes} {host : Host}
    (made : sourcesAt generator document host = .ok sources) (apart : NamesApart sources)
    (some : 0 < sources.length) :
    ∃ result after,
      (generateDirectory generator document out : ExceptT PacketError (StateM Host) Unit).run host =
        (result, after) ∧
      (∃ k, WritesFirst out sources k host.files after.files ∧
        (result = .ok () ∧ k = sources.length ∨
          k < sources.length ∧ ∃ e, result = .error (.file e) ∧ Stops out sources host.tick k e after)) ∧
      (host.Calm → (result = .ok () ↔ Possible out sources host.tick)) := by
  obtain ⟨opens, outages⟩ := Storage.opens_makeDirectories out host.tick
  rw [generateDirectory_run, made]
  dsimp only
  cases makes : (Storage.makeDirectories out : ExceptT FileError (StateM Host) Unit).run host.tick with
  | mk opening opened =>
  rw [makes] at opens outages
  cases opening with
  | error e =>
    have untouched : WritesFirst out sources 0 host.files opened.files :=
      writesFirst_of_wrote apart opens (wrote_nil (.refl [] _))
    refine ⟨_, _, rfl, ⟨0, untouched, .inr ⟨some, e, rfl, .directory e opened makes⟩⟩, fun _ => ⟨nofun, ?_⟩⟩
    rintro ⟨_, made, _⟩
    cases makes.symm.trans made
  | ok _ =>
    obtain ⟨result, after, ran, writes, calmly⟩ := writeFiles_run out apart opened
    have able (calm : host.Calm) : result = .ok () ↔ Possible out sources host.tick := by
      rw [calmly (fun request time => outages ▸ calm request time)]
      refine ⟨fun all => ⟨opened, makes, all⟩, ?_⟩
      rintro ⟨_, made, all⟩
      cases makes.symm.trans made
      exact all
    dsimp only
    rw [ran]
    cases writes with
    | all wrote =>
      rw [← List.take_length (l := sources)] at wrote
      refine ⟨_, _, rfl, ⟨sources.length, writesFirst_of_wrote apart opens wrote, .inl ⟨rfl, rfl⟩⟩, fun calm => ?_⟩
      exact ⟨fun _ => (able calm).mp rfl, fun _ => rfl⟩
    | first k e fails wrote =>
      refine ⟨_, _, rfl, ⟨k, writesFirst_of_wrote apart opens wrote, .inr ⟨fails.fewer, e, rfl, ?_⟩⟩,
        fun calm => ⟨nofun, fun possible => ?_⟩⟩
      · exact .file k e opened after makes fails
      · cases (able calm).mpr possible

/-- A run leaves all as it was unless the document is accepted. Then there are four files, of which it writes
the first ones: all of them if it succeeds, and fewer if making the directory or writing the next file fails.
On a calm host it succeeds if the directory can be made, which it can if it is there, and each file can be put
into it. -/
theorem generateDirectory_writes_first (generator : String) (document out : Bytes) (host : Host) :
    ∃ result after,
      (generateDirectory generator document out : ExceptT PacketError (StateM Host) Unit).run host =
        (result, after) ∧
      (∀ e, sourcesAt generator document host = .error e →
        result = .error e ∧ after.files = host.files) ∧
      (∀ sources, sourcesAt generator document host = .ok sources →
        (∃ text, host.files.text document = .ok text ∧ generate generator text = .ok sources) ∧
        sources.map GeneratedFile.name = ["mod.rs", "misc.rs", "serverbound.rs", "clientbound.rs"] ∧
        (∃ k, WritesFirst out sources k host.files after.files ∧
          (result = .ok () ∧ k = 4 ∨
            k < 4 ∧ ∃ e, result = .error (.file e) ∧ Stops out sources host.tick k e after)) ∧
        (host.Calm → (result = .ok () ↔ Possible out sources host.tick)) ∧
        (host.Calm → host.files.leadsToDirectory out = true →
          (result = .ok () ↔ ∀ file ∈ sources, host.files.Replaceable (file.pathIn out)))) := by
  cases made : sourcesAt generator document host with
  | error e =>
    refine ⟨.error e, host.tick, by rw [generateDirectory_run, made], ?_, nofun⟩
    rintro _ ⟨⟩
    exact ⟨rfl, rfl⟩
  | ok sources =>
    obtain ⟨text, reads, generated⟩ := generate_of_sourcesAt made
    obtain ⟨protocol, _, same⟩ := bind_eq_ok_iff.mp generated
    cases same
    obtain ⟨result, after, ran, writes, calmly⟩ :=
      @writesFirst_of_sourcesAt out _ _ _ _ made (namesApart_files generator protocol) (Nat.succ_pos _)
    refine ⟨result, after, ran, nofun, ?_⟩
    rintro _ ⟨⟩
    refine ⟨⟨text, reads, generated⟩, rfl, writes, calmly, fun calm leads => (calmly calm).trans ?_⟩
    have calm' : host.tick.Calm := calm
    exact possible_iff_of_leadsToDirectory calm' leads

/-- A host with a document `p` of one packet. -/
def sampleHost : Host :=
  { Host.start 5 with
    files := (FileSystem.start 5).put [[119, 111, 114, 107], [112]] (.file (Bytes.ofString
      "\x7b\"PLAY\":\x7b\"id\":0,\"CLIENTBOUND\":[\x7b\"name\":\"Login\",\"id\":1\x7d]\x7d\x7d") 5) }

/-- The four files come to stand in a directory `x/y`, which has to be made. -/
theorem generateDirectory_writes_first_sample :
    sampleHost.files.leadsToDirectory [120] = false ∧
    ∃ (after : Host) (sources : List GeneratedFile),
      (generateDirectory "g" [112] [120, 47, 121] : ExceptT PacketError (StateM Host) Unit).run sampleHost =
        (.ok (), after) ∧
      sources.length = 4 ∧
      ∀ file ∈ sources, after.files.read (file.pathIn [120, 47, 121]) = .ok (Bytes.ofString file.contents) := by
  obtain ⟨result, after, ran, refused, accepted⟩ :=
    generateDirectory_writes_first "g" [112] [120, 47, 121] sampleHost
  have succeeds : result.isOk = true := by
    rw [show result = _ from (congrArg Prod.fst ran).symm]
    decide +kernel
  refine ⟨by decide +kernel, after, ?_⟩
  cases made : sourcesAt "g" [112] sampleHost with
  | error e =>
    rw [(refused e made).1] at succeeds
    cases succeeds
  | ok sources =>
    obtain ⟨_, names, ⟨k, writes, ⟨rfl, rfl⟩ | ⟨_, e, rfl, _⟩⟩, _⟩ := accepted sources made
    · have four : sources.length = 4 := by simpa using congrArg List.length names
      refine ⟨sources, ran, four, fun file here => writes.written file ?_⟩
      rwa [← four, List.take_length]
    · cases succeeds

end GameTables.PacketSource
