import Mathlib.Data.List.Basic
import Mathlib.Data.List.TakeWhile
import GameTables.Gate.Arguments

/-!
# Arguments as they are written

Arguments are accepted if they are written as sources, a sentinel, a separator and a command. There is only
one way to write what is read from them, as the first separator is the one before the command. Arguments that
are refused are told apart by where their first separator stands.
-/

namespace GameTables.GateArguments

/-- The arguments that stand for sources, a sentinel and a command. -/
def written (a : GateArguments) : List Bytes :=
  a.sources ++ a.sentinel :: separator :: a.command

/-- No file has the name of the separator, and there is a command. It may hold separators. -/
structure Writable (a : GateArguments) : Prop where
  sources : separator ∉ a.sources
  sentinel : a.sentinel ≠ separator
  command : a.command ≠ []

/-- What is said to be missing among arguments that cannot be accepted. -/
def firstMissing (arguments : List Bytes) : MissingArgument :=
  if !arguments.contains separator then .separator
  else if arguments.head? = some separator then .sentinel
  else .command

/-- The forms of arguments, each with what is read from it. -/
inductive Reads : List Bytes → Except MissingArgument GateArguments → Prop where
  | whole {a : GateArguments} (writable : a.Writable) : Reads a.written (.ok a)
  | unseparated {arguments : List Bytes} (absent : separator ∉ arguments) :
    Reads arguments (.error .separator)
  /-- The command may be missing too. -/
  | noFiles (command : List Bytes) : Reads (separator :: command) (.error .sentinel)
  | noCommand {files : List Bytes} (nonempty : files ≠ []) (before : separator ∉ files) :
    Reads (files ++ [separator]) (.error .command)

variable {arguments files : List Bytes} {a : GateArguments} {missing : MissingArgument}
  {result : Except MissingArgument GateArguments}

/-! ## Splitting at the first separator -/

theorem others_of_not_mem (absent : separator ∉ arguments) :
    ∀ argument ∈ arguments, decide (argument ≠ separator) = true := by
  intro argument here
  simpa using fun same : argument = separator => absent (same ▸ here)

theorem parse_of_not_mem (absent : separator ∉ arguments) : parse arguments = .error .separator := by
  rw [parse, List.dropWhile_eq_nil_iff.mpr (others_of_not_mem absent)]

/-- What is read around the first separator. -/
theorem parse_append (before : separator ∉ files) (command : List Bytes) :
    parse (files ++ separator :: command) =
      match files.getLast?, command with
      | none, _ => .error .sentinel
      | some _, [] => .error .command
      | some sentinel, program :: rest => .ok ⟨files.dropLast, sentinel, program :: rest⟩ := by
  have front : (files ++ separator :: command).takeWhile (· ≠ separator) = files := by
    rw [List.takeWhile_append_of_pos (others_of_not_mem before)]
    simp
  have back : (files ++ separator :: command).dropWhile (· ≠ separator) = separator :: command := by
    rw [List.dropWhile_append_of_pos (others_of_not_mem before)]
    simp
  rw [parse, front, back]
  cases files.getLast? <;> cases command <;> rfl

theorem written_eq (a : GateArguments) :
    a.written = (a.sources ++ [a.sentinel]) ++ separator :: a.command := by
  simp [written]

theorem Writable.not_mem_files (writable : a.Writable) : separator ∉ a.sources ++ [a.sentinel] := by
  simpa [writable.sources] using writable.sentinel.symm

theorem parse_written (writable : a.Writable) : parse a.written = .ok a := by
  rw [written_eq, parse_append writable.not_mem_files, List.getLast?_concat, List.dropLast_concat]
  obtain ⟨sources, sentinel, command⟩ := a
  cases command with
  | nil => exact absurd rfl writable.command
  | cons program rest => rfl

/-! ## The forms of arguments -/

theorem parse_of_reads (reads : Reads arguments result) : parse arguments = result := by
  cases reads with
  | whole writable => exact parse_written writable
  | unseparated absent => exact parse_of_not_mem absent
  | noFiles command => exact parse_append List.not_mem_nil command
  | noCommand nonempty before =>
    rw [parse_append before, List.getLast?_eq_some_getLast nonempty]

/-- All arguments have one of the forms. -/
theorem exists_reads (arguments : List Bytes) : ∃ result, Reads arguments result := by
  by_cases present : separator ∈ arguments
  · obtain ⟨files, command, rfl, before⟩ := List.eq_append_cons_of_mem present
    rcases files.eq_nil_or_concat' with rfl | ⟨sources, sentinel, rfl⟩
    · exact ⟨_, .noFiles command⟩
    · by_cases bare : command = []
      · subst bare
        exact ⟨_, .noCommand (by simp) before⟩
      · obtain ⟨others, other⟩ : separator ∉ sources ∧ sentinel ≠ separator := by
          simpa [eq_comm] using before
        have writable : (⟨sources, sentinel, command⟩ : GateArguments).Writable := ⟨others, other, bare⟩
        exact ⟨_, written_eq _ ▸ Reads.whole writable⟩
  · exact ⟨_, .unseparated present⟩

theorem parse_eq_iff_reads : parse arguments = result ↔ Reads arguments result := by
  constructor
  · obtain ⟨read, reads⟩ := exists_reads arguments
    rintro rfl
    rwa [parse_of_reads reads]
  · exact parse_of_reads

theorem Reads.eq_firstMissing (reads : Reads arguments (.error missing)) : missing = firstMissing arguments := by
  cases reads with
  | unseparated absent => simp [firstMissing, absent]
  | noFiles command => simp [firstMissing]
  | noCommand nonempty before =>
    obtain ⟨file, rest, rfl⟩ := List.exists_cons_of_ne_nil nonempty
    have other : file ≠ separator := fun same => before (same ▸ List.mem_cons_self)
    simp [firstMissing, other]

/-- Arguments are accepted exactly if they are what is written for some sources, sentinel and command, which
are then read from them, and there is only one way to write them so. All others are refused, with what is
missing first. -/
theorem parse_inverts_written (arguments : List Bytes) :
    (∀ a, parse arguments = .ok a ↔ a.Writable ∧ arguments = a.written) ∧
    (∀ a b : GateArguments, a.Writable → b.Writable → arguments = a.written → arguments = b.written →
      a = b) ∧
    ∀ missing, parse arguments = .error missing ↔
      (∀ a : GateArguments, a.Writable → arguments ≠ a.written) ∧ missing = firstMissing arguments := by
  have accepts : ∀ a, parse arguments = .ok a ↔ a.Writable ∧ arguments = a.written := by
    intro a
    constructor
    · intro accepted
      cases parse_eq_iff_reads.mp accepted with
      | whole writable => exact ⟨writable, rfl⟩
    · rintro ⟨writable, rfl⟩
      exact parse_written writable
  refine ⟨accepts, fun a b writable writable' layout layout' => ?_, fun missing => ⟨fun refused => ?_, ?_⟩⟩
  · have same := ((accepts a).mpr ⟨writable, layout⟩).symm.trans ((accepts b).mpr ⟨writable', layout'⟩)
    exact Except.ok.inj same
  · refine ⟨fun a writable layout => ?_, (parse_eq_iff_reads.mp refused).eq_firstMissing⟩
    cases refused.symm.trans ((accepts a).mpr ⟨writable, layout⟩)
  · rintro ⟨unwritten, rfl⟩
    cases parsed : parse arguments with
    | ok a =>
      obtain ⟨writable, layout⟩ := (accepts a).mp parsed
      exact absurd layout (unwritten a writable)
    | error missing => rw [(parse_eq_iff_reads.mp parsed).eq_firstMissing]

/-- The arguments `a S -- g --`, whose command holds a separator. -/
theorem parse_inverts_written_sample :
    (⟨[[97]], [83], [[103], separator]⟩ : GateArguments).Writable ∧
    [[97], [83], separator, [103], separator] =
      (⟨[[97]], [83], [[103], separator]⟩ : GateArguments).written ∧
    parse [[97], [83], separator, [103], separator] = .ok ⟨[[97]], [83], [[103], separator]⟩ := by
  have writable : (⟨[[97]], [83], [[103], separator]⟩ : GateArguments).Writable := by
    constructor <;> decide
  exact ⟨writable, rfl, ((parse_inverts_written _).1 _).mpr ⟨writable, rfl⟩⟩

end GameTables.GateArguments
