import GameTables.Gate.Run
import GameTables.Proofs.FileSystem.Paths
import GameTables.Proofs.FileSystem.Writing
import GameTables.Proofs.Host.Steps

/-!
# Names of sentinels

The name of a sentinel is looked for among the parts of its path. A separator at the end of a path is
noticed, but `.` at the end is skipped with the separators in front of it, although such a path leads to
a directory.
-/

namespace GameTables.Gate

open GameTables.Path (lastName onward Blank)

/-- A name of capitals and underscores. -/
def IsSentinelName (name : Bytes) : Prop :=
  name ≠ [] ∧ ∀ b ∈ name, (65 ≤ b ∧ b ≤ 90) ∨ b = 95

/-- The end of a path that is skipped: separators and `.`, which stands last. -/
def Skipped (dots : Bytes) : Prop :=
  ∃ more, dots = onward more ∧ (∀ segment ∈ more, Blank segment) ∧ more.getLast? ≠ some []

variable {path name : Bytes}

theorem isSentinelName_iff : (name != [] && name.all isSentinelByte) = true ↔ IsSentinelName name := by
  simp [IsSentinelName, isSentinelByte, isCapital]

theorem IsSentinelName.ne_here (named : IsSentinelName name) : name ≠ Path.here := by
  rintro rfl
  exact absurd (named.2 46 List.mem_cons_self) (by decide)

theorem IsSentinelName.ne_up (named : IsSentinelName name) : name ≠ Path.up := by
  rintro rfl
  exact absurd (named.2 46 List.mem_cons_self) (by decide)

theorem IsSentinelName.notBlank (named : IsSentinelName name) : ¬ Blank name :=
  not_or.mpr ⟨named.1, named.ne_here⟩

/-- What is checked is the last part of the path. -/
theorem isSentinel_iff_parts :
    isSentinel path = true ↔ path.getLast? ≠ some Path.separator ∧
      ∃ name, (Path.parts path).getLast? = some name ∧ IsSentinelName name := by
  rw [isSentinel, Bool.and_eq_true, bne_iff_ne]
  refine and_congr_right fun _ => ?_
  rw [Path.fileName?]
  cases (Path.parts path).getLast? with
  | none => simp
  | some name =>
    simp only [Option.some.injEq, exists_eq_left']
    by_cases dots : name = Path.here ∨ name = Path.up
    · rw [if_pos dots]
      simpa using fun named : IsSentinelName name => dots.elim named.ne_here named.ne_up
    · rw [if_neg dots]
      exact isSentinelName_iff

/-! ## Ends of paths -/

/-- A path is a sentinel exactly if it has the name of one before what is skipped at its end. -/
theorem isSentinel_iff :
    isSentinel path = true ↔
      ∃ front dots, path = front ++ dots ∧ IsSentinelName (lastName front) ∧ Skipped dots := by
  rw [isSentinel_iff_parts]
  constructor
  · rintro ⟨ends, name, part, named⟩
    obtain ⟨front, more, rfl, rfl, blank⟩ := (Path.getLast?_parts_iff_lastName named.notBlank).mp part
    refine ⟨front, _, rfl, named, more, rfl, blank, fun last => ?_⟩
    obtain ⟨before, rfl⟩ := List.getLast?_eq_some_iff.mp last
    exact ends ((Path.getLast?_onward_eq_separator_iff (.inl rfl)).mpr rfl)
  · rintro ⟨front, _, rfl, named, more, rfl, blank, last⟩
    refine ⟨?_, _, (Path.getLast?_parts_iff_lastName named.notBlank).mpr ⟨front, more, rfl, rfl, blank⟩, named⟩
    rcases List.eq_nil_or_concat' more with rfl | ⟨before, segment, rfl⟩
    · simpa [onward] using Path.getLast?_ne_separator_of_lastName named.1
    · rw [ne_eq, Path.getLast?_onward_eq_separator_iff (blank segment (by simp))]
      rintro rfl
      exact last List.getLast?_concat

/-- What is skipped at the end of a path is nothing, or it ends in `.` behind a separator. -/
theorem Skipped.eq_nil_or_here {dots : Bytes} (skipped : Skipped dots) :
    dots = [] ∨ ∀ front, lastName (front ++ dots) = Path.here := by
  obtain ⟨more, rfl, blank, last⟩ := skipped
  rcases List.eq_nil_or_concat' more with rfl | ⟨before, segment, rfl⟩
  · exact .inl rfl
  · rcases blank segment (by simp) with rfl | rfl
    · exact absurd List.getLast?_concat last
    · refine .inr fun front => ?_
      rw [Path.append_onward_concat]
      exact Path.lastName_append_separator _ (by decide)

/-! ## Paths that name a directory -/

/-- A path that ends in `.` leads to no name in a directory. -/
theorem target_of_here (named : lastName path = Path.here) {files : FileSystem}
    {target : FileSystem.Target} (found : files.target path = .ok target) : target = .unnamed := by
  cases target with
  | unnamed => rfl
  | named directory name slash =>
    obtain ⟨_, _, backwards, _, _, ⟨notHere, _⟩, _⟩ := FileSystem.named_of_target found
    obtain ⟨above, segments⟩ := Path.segments_eq_append_lastName path
    rw [segments, named, List.reverse_append, List.reverse_singleton, List.singleton_append,
      List.dropWhile_cons_of_neg (by decide)] at backwards
    exact absurd (List.cons.inj backwards).1.symm notHere

/-- No file can be opened at a path that ends in `.`. -/
theorem openFile_of_here (named : lastName path = Path.here) (files : FileSystem) (now : Time) :
    ∃ e, files.openFile now path = .error e := by
  rw [FileSystem.openFile]
  cases found : files.target path with
  | error e => exact ⟨e, rfl⟩
  | ok target =>
    rw [target_of_here named found]
    exact ⟨.isADirectory, rfl⟩

/-- No host lets a file be touched at a path that ends in `.`. -/
theorem touch_of_here (named : lastName path = Path.here) (host : Host) :
    ∃ e, (Storage.touch path : ExceptT FileError (StateM Host) Unit).run host = (.error e, host.tick) := by
  have opens : (Storage.openFile path : ExceptT FileError (StateM Host) Location).run host =
    (Host.attempt fun files now => files.openFile now path).run host := rfl
  rw [Storage.touch, run_bind_state, opens, Host.attempt_run]
  cases came : host.outcome .work fun files now => files.openFile now path with
  | error e => exact ⟨e, rfl⟩
  | ok opened =>
    obtain ⟨e, refused⟩ := openFile_of_here named host.files host.tick.clock
    cases refused.symm.trans (Host.operation_of_outcome came)

/-! ## The check -/

theorem checkSentinel_eq_ok_iff : checkSentinel path = .ok () ↔ isSentinel path = true := by
  rw [checkSentinel]
  cases isSentinel path <;> simp

/-- The check accepts the paths with the name of a sentinel before what is skipped at the end, and refuses
all others with their path. Unless a path ends in `.`, the bytes after its last separator decide; a path
that does can be accepted, but no host lets it be touched, and the attempt changes nothing. -/
theorem checkSentinel_accepts (path : Bytes) :
    (checkSentinel path = .ok () ↔
      ∃ front dots, path = front ++ dots ∧ IsSentinelName (lastName front) ∧ Skipped dots) ∧
    (checkSentinel path = .ok () ∨ checkSentinel path = .error (.sentinelName path)) ∧
    (lastName path ≠ Path.here → (checkSentinel path = .ok () ↔ IsSentinelName (lastName path))) ∧
    (lastName path = Path.here → ∀ host, ∃ e,
      (Storage.touch path : ExceptT FileError (StateM Host) Unit).run host = (.error e, host.tick)) := by
  have accepts : checkSentinel path = .ok () ↔ _ := checkSentinel_eq_ok_iff.trans isSentinel_iff
  refine ⟨accepts, ?_, fun other => accepts.trans ⟨?_, fun named => ?_⟩, touch_of_here⟩
  · rw [checkSentinel]
    split
    · exact .inl rfl
    · exact .inr rfl
  · rintro ⟨front, dots, rfl, named, skipped⟩
    rcases skipped.eq_nil_or_here with rfl | ends
    · rwa [List.append_nil]
    · exact absurd (ends front) other
  · exact ⟨path, [], (List.append_nil path).symm, named, [], rfl, by simp, by simp⟩

/-- The path `out/A` is accepted. -/
theorem checkSentinel_accepts_sample :
    lastName [111, 117, 116, 47, 65] ≠ Path.here ∧ checkSentinel [111, 117, 116, 47, 65] = .ok () := by
  have other : lastName [111, 117, 116, 47, 65] ≠ Path.here := by decide
  have named : IsSentinelName (lastName [111, 117, 116, 47, 65]) := isSentinelName_iff.mp rfl
  exact ⟨other, ((checkSentinel_accepts _).2.2.1 other).mpr named⟩

/-- The path `STAMP/.` is accepted, although `.` is no name of a sentinel and the path can only name a
directory. -/
theorem trailing_dot_accepted :
    checkSentinel [83, 84, 65, 77, 80, 47, 46] = .ok () ∧
    ¬ IsSentinelName (lastName [83, 84, 65, 77, 80, 47, 46]) ∧
    ∀ host, ∃ e, (Storage.touch [83, 84, 65, 77, 80, 47, 46] : ExceptT FileError (StateM Host) Unit).run host =
      (.error e, host.tick) := by
  have ends : lastName [83, 84, 65, 77, 80, 47, 46] = Path.here := by decide
  refine ⟨rfl, ?_, touch_of_here ends⟩
  rw [ends]
  exact fun named => named.ne_here rfl

end GameTables.Gate
