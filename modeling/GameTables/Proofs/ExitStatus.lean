import GameTables.Host.Basic
import GameTables.Proofs.Host.Steps

/-!
# Exit statuses of the generators

A generator that is called with text exits with status 0 if it has made its files, and with status 1 if it
has not. A path may be any bytes, though, and one that is no text ends the generator with status 101 before
it has looked at anything.
-/

namespace GameTables.CommandLine

/-- All that a tool is called with is text. -/
def AllText (call : List Bytes) : Prop := ∀ argument ∈ call, ∃ text, argument = Bytes.ofString text

/-- What the generator of the tables does when three paths follow its name. -/
def tablesJob? : List Bytes → Option (ExceptT TableError (StateM Host) Unit)
  | [program, blocks, properties, out] =>
    some (TableSource.generateFile (generatorName program) blocks properties out)
  | _ => none

/-- What the generator of the packet sources does when two paths follow its name. -/
def packetsJob? : List Bytes → Option (ExceptT PacketError (StateM Host) Unit)
  | [program, document, out] =>
    some (PacketSource.generateDirectory (generatorName program) document out)
  | _ => none

variable {ε : Type}

/-- There is something to do, and it succeeds on a host. -/
def Succeeds (job? : Option (ExceptT ε (StateM Host) Unit)) (host : Host) : Prop :=
  ∃ job, job? = some job ∧ (job.run host).1 = .ok ()

/-- How a generator ends that is called with something on a host. -/
structure Exits (call : List Bytes) (job? : Option (ExceptT ε (StateM Host) Unit)) (host : Host)
    (ended : Ending × Host) : Prop where
  done : ended.1.status = 0 ↔ AllText call ∧ Succeeds job? host
  failed : ended.1.status = 1 ↔ AllText call ∧ ¬ Succeeds job? host
  undecodable : ended.1.status = 101 ↔ ¬ AllText call
  /-- What changes on the host is what the job changes. -/
  effects : AllText call → ∀ job, job? = some job → ended.2 = (job.run host).2
  untouched : ¬ AllText call ∨ job? = none → ended.2.files = host.files

variable {call : List Bytes} {job? : Option (ExceptT ε (StateM Host) Unit)} {host : Host}
  {ended : Ending × Host}

/-! ## Endings -/

theorem isText_iff {argument : Bytes} : isText argument = true ↔ ∃ text, argument = Bytes.ofString text := by
  simp [isText, Option.isSome_iff_exists, Bytes.toString?_eq_some_iff]

theorem isText_ofString (text : String) : isText (Bytes.ofString text) = true :=
  isText_iff.mpr ⟨text, rfl⟩

theorem all_isText_iff : call.all isText = true ↔ AllText call := by
  simp [AllText, isText_iff]

theorem status_ofResult_eq_zero_iff (message : ε → String) {result : Except ε Unit} :
    (Ending.ofResult message result).status = 0 ↔ result = .ok () := by
  cases result <;> simp [Ending.ofResult, Ending.status]

theorem status_ofResult_eq_one_iff (message : ε → String) {result : Except ε Unit} :
    (Ending.ofResult message result).status = 1 ↔ result ≠ .ok () := by
  cases result <;> simp [Ending.ofResult, Ending.status]

/-! ## Runs -/

/-- A run of a generator: the check of what it is called with, and then its job or, if it has none, the
words on its usage. -/
def runOf (message : ε → String) (job? : Option (ExceptT ε (StateM Host) Unit)) (program : Bytes)
    (paths : String) (call : List Bytes) (host : Host) : Ending × Host :=
  if call.all isText then
    match job? with
    | some job => (.ofResult message (job.run host).1, (job.run host).2)
    | none => (usage program paths : StateM Host Ending).run host
  else (.undecodable, host)

theorem exits_of_not_text (noText : ¬ AllText call) : Exits call job? host (.undecodable, host) where
  done := by simp [noText, Ending.status]
  failed := by simp [noText, Ending.status]
  undecodable := by simp [noText, Ending.status]
  effects text := absurd text noText
  untouched _ := rfl

theorem exits_of_job (text : AllText call) (message : ε → String) (job : ExceptT ε (StateM Host) Unit)
    (host : Host) : Exits call (some job) host (.ofResult message (job.run host).1, (job.run host).2) := by
  have succeeds : Succeeds (some job) host ↔ (job.run host).1 = .ok () := by simp [Succeeds]
  refine ⟨?_, ?_, ?_, ?_, by simp [text]⟩
  · simp [text, succeeds, status_ofResult_eq_zero_iff]
  · simp [text, succeeds, status_ofResult_eq_one_iff]
  · cases (job.run host).1 <;> simp [text, Ending.ofResult, Ending.status]
  · rintro _ _ ⟨⟩
    rfl

theorem exits_of_usage (text : AllText call) (program : Bytes) (paths : String) (host : Host) :
    Exits call (none : Option (ExceptT ε (StateM Host) Unit)) host
      ((usage program paths : StateM Host Ending).run host) := by
  have nothing : ¬ Succeeds (none : Option (ExceptT ε (StateM Host) Unit)) host := nofun
  have refused : ((usage program paths : StateM Host Ending).run host).1.status = 1 := rfl
  refine ⟨?_, ?_, ?_, nofun, fun _ => rfl⟩
  · simp [nothing, refused]
  · simp [text, nothing, refused]
  · simp [text, refused]

theorem exits_runOf (message : ε → String) (job? : Option (ExceptT ε (StateM Host) Unit)) (program : Bytes)
    (paths : String) (call : List Bytes) (host : Host) :
    Exits call job? host (runOf message job? program paths call host) := by
  unfold runOf
  split
  case isFalse noText => exact exits_of_not_text (mt all_isText_iff.mpr noText)
  case isTrue text =>
    rw [all_isText_iff] at text
    cases job? with
    | some job => exact exits_of_job text message job host
    | none => exact exits_of_usage text program paths host

/-! ## The generators -/

theorem run_tables (call : List Bytes) (host : Host) :
    (called "mc-data-gen" tables call : StateM Host Ending).run host =
      runOf TableError.message (tablesJob? call) (call.head?.getD (Bytes.ofString "mc-data-gen"))
        "<blocks.json> <block_properties.json> <output.rs>" call host := by
  cases call with
  | nil =>
    simp only [called, tables, List.all_cons, isText_ofString]
    rfl
  | cons program arguments =>
    rw [called]
    unfold tables runOf
    cases (program :: arguments).all isText
    · rfl
    · rcases arguments with _ | ⟨_, _ | ⟨_, _ | ⟨_, _ | _⟩⟩⟩ <;> rfl

theorem run_packets (call : List Bytes) (host : Host) :
    (called "mc-packets-gen" packets call : StateM Host Ending).run host =
      runOf PacketError.message (packetsJob? call) (call.head?.getD (Bytes.ofString "mc-packets-gen"))
        "<packets.json> <out_dir>" call host := by
  cases call with
  | nil =>
    simp only [called, packets, List.all_cons, isText_ofString]
    rfl
  | cons program arguments =>
    rw [called]
    unfold packets runOf
    cases (program :: arguments).all isText
    · rfl
    · rcases arguments with _ | ⟨_, _ | ⟨_, _ | _⟩⟩ <;> rfl

/-- Whatever the generators are called with, and on whatever host, they exit with status 0 exactly if they
have made their files, with status 101 exactly if they are called with something that is no text, and
otherwise with status 1. -/
theorem exits_generators (call : List Bytes) (host : Host) :
    Exits call (tablesJob? call) host
      ((called "mc-data-gen" tables call : StateM Host Ending).run host) ∧
    Exits call (packetsJob? call) host
      ((called "mc-packets-gen" packets call : StateM Host Ending).run host) := by
  rw [run_tables, run_packets]
  exact ⟨exits_runOf _ _ _ _ _ _, exits_runOf _ _ _ _ _ _⟩

/-- A host with two empty documents, one of which has a name that is no text. -/
def oddlyNamedHost : Host :=
  { Host.start 5 with
    files := ((FileSystem.start 5).put [[119, 111, 114, 107], [0xFF]] (.file [123, 125] 5)).put
      [[119, 111, 114, 107], [112]] (.file [123, 125] 5) }

/-- A call for the tables of these documents. -/
def oddlyNamedCall : List Bytes := [[103], [0xFF], [112], [111]]

/-- The documents could be made into tables, but the generator exits with a status that is neither 0 nor 1.
So does the other one, where it should complain about its usage. -/
theorem odd_name_undecodable :
    (Succeeds (tablesJob? oddlyNamedCall) oddlyNamedHost ∧
      ((called "mc-data-gen" tables oddlyNamedCall : StateM Host Ending).run oddlyNamedHost).1.status = 101) ∧
    (¬ Succeeds (packetsJob? oddlyNamedCall) oddlyNamedHost ∧
      ((called "mc-packets-gen" packets oddlyNamedCall : StateM Host Ending).run
        oddlyNamedHost).1.status = 101) := by
  have noText : ¬ AllText oddlyNamedCall := by
    rw [← all_isText_iff]
    decide +kernel
  have made : Succeeds (tablesJob? oddlyNamedCall) oddlyNamedHost :=
    ⟨_, rfl, (status_ofResult_eq_zero_iff TableError.message).mp (by decide +kernel)⟩
  have nothing : ¬ Succeeds (packetsJob? oddlyNamedCall) oddlyNamedHost := nofun
  rw [run_tables, run_packets]
  exact ⟨⟨made, (exits_runOf _ _ _ _ _ _).undecodable.mpr noText⟩,
    nothing, (exits_runOf _ _ _ _ _ _).undecodable.mpr noText⟩

end GameTables.CommandLine
