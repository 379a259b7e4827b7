import Mathlib.Data.List.DropRight
import GameTables.FileSystem.Path

/-!
# Paths and their segments

How the segments of a path follow from those of its pieces, which bytes follow the last separator, and
which part is the last that says something.
-/

namespace GameTables.Path

/-! ## Segments of pieces -/

theorem segments_ne_nil (path : Bytes) : segments path ≠ [] := by
  cases path with
  | nil => exact List.cons_ne_nil _ _
  | cons b rest =>
    rw [segments]
    split
    · exact List.cons_ne_nil _ _
    · cases segments rest <;> exact List.cons_ne_nil _ _

/-- A separator stands between the segments before it and those behind it. -/
theorem segments_append_separator (above below : Bytes) :
    segments (above ++ separator :: below) = segments above ++ segments below := by
  induction above with
  | nil => simp [segments]
  | cons b rest ih =>
    rw [List.cons_append, segments, ih, segments]
    split
    · rfl
    · cases segments : segments rest with
      | nil => exact absurd segments (segments_ne_nil rest)
      | cons segment others => rfl

theorem segments_of_noSeparator {name : Bytes} (noSeparator : separator ∉ name) :
    segments name = [name] := by
  induction name with
  | nil => rfl
  | cons b rest ih =>
    rw [List.mem_cons, not_or] at noSeparator
    rw [segments, if_neg (Ne.symm noSeparator.1), ih noSeparator.2]

theorem segments_join (path : Bytes) {name : Bytes} (noSeparator : separator ∉ name) :
    ∃ above, segments (join path name) = above ++ [name] := by
  rw [join]
  split
  · next ends =>
    rcases ends with rfl | ends
    · exact ⟨[], segments_of_noSeparator noSeparator⟩
    · obtain ⟨above, rfl⟩ := List.getLast?_eq_some_iff.mp ends
      refine ⟨segments above, ?_⟩
      rw [List.append_assoc, List.singleton_append, segments_append_separator,
        segments_of_noSeparator noSeparator]
  · exact ⟨segments path, by rw [segments_append_separator, segments_of_noSeparator noSeparator]⟩

theorem separator_notMem_of_mem_segments {path segment : Bytes} (member : segment ∈ segments path) :
    separator ∉ segment := by
  induction path generalizing segment with
  | nil =>
    cases List.mem_singleton.mp member
    exact List.not_mem_nil
  | cons b rest ih =>
    rw [segments] at member
    split at member
    · rcases List.mem_cons.mp member with rfl | later
      · exact List.not_mem_nil
      · exact ih later
    · next other =>
      cases segments : segments rest with
      | nil => exact absurd segments (segments_ne_nil rest)
      | cons first others =>
        rw [segments] at member ih
        rcases List.mem_cons.mp member with rfl | later
        · exact List.not_mem_cons_of_ne_of_not_mem (Ne.symm other) (ih List.mem_cons_self)
        · exact ih (List.mem_cons_of_mem _ later)

/-- What follows a path when it is led on through segments. -/
def onward (more : List Bytes) : Bytes :=
  more.flatMap (separator :: ·)

theorem append_onward_concat (path : Bytes) (more : List Bytes) (last : Bytes) :
    path ++ onward (more ++ [last]) = path ++ onward more ++ separator :: last := by
  simp [onward]

/-- Segments that a path is led on through are its last ones. -/
theorem segments_append_onward (path : Bytes) {more : List Bytes}
    (noSeparator : ∀ segment ∈ more, separator ∉ segment) :
    segments (path ++ onward more) = segments path ++ more := by
  induction more generalizing path with
  | nil => simp [onward]
  | cons segment rest ih =>
    obtain ⟨first, later⟩ := List.forall_mem_cons.mp noSeparator
    have regrouped : path ++ onward (segment :: rest) = path ++ separator :: segment ++ onward rest := by
      simp [onward]
    rw [regrouped, ih _ later, segments_append_separator, segments_of_noSeparator first,
      List.append_assoc, List.singleton_append]

/-- A path is led on through its own segments, from before its first one. -/
theorem onward_segments (path : Bytes) : onward (segments path) = separator :: path := by
  induction path with
  | nil => rfl
  | cons b rest ih =>
    rw [segments]
    split
    · next separates =>
      rw [onward, List.flatMap_cons, ← onward, ih, separates]
      rfl
    · cases segments : segments rest with
      | nil => exact absurd segments (segments_ne_nil rest)
      | cons segment others =>
        rw [segments] at ih
        simpa [onward] using ih

/-! ## The last name -/

/-- The bytes after the last separator, all bytes where there is none. -/
def lastName (path : Bytes) : Bytes :=
  path.rtakeWhile (· != separator)

theorem separator_notMem_lastName (path : Bytes) : separator ∉ lastName path := by
  intro here
  simpa using List.mem_rtakeWhile_imp here

theorem lastName_of_noSeparator {name : Bytes} (noSeparator : separator ∉ name) : lastName name = name := by
  rw [lastName, List.rtakeWhile_eq_self_iff]
  intro b here
  simpa using fun separates : b = separator => noSeparator (separates ▸ here)

theorem lastName_append_separator (above : Bytes) {name : Bytes} (noSeparator : separator ∉ name) :
    lastName (above ++ separator :: name) = name := by
  have kept : ∀ b ∈ name.reverse, (b != separator) = true := by
    intro b here
    rw [List.mem_reverse] at here
    simpa using fun separates : b = separator => noSeparator (separates ▸ here)
  rw [lastName, List.rtakeWhile, List.reverse_append, List.reverse_cons, List.append_assoc,
    List.takeWhile_append_of_pos kept]
  simp

theorem getLast?_ne_separator_of_lastName {path : Bytes} (some_name : lastName path ≠ []) :
    path.getLast? ≠ some separator := by
  intro ends
  apply some_name
  rw [lastName, List.rtakeWhile_eq_nil_iff]
  intro some_byte
  rw [List.getLast?_eq_some_getLast some_byte, Option.some.injEq] at ends
  simp [ends]

/-- What is in front of the last name ends in a separator. -/
theorem eq_lastName_or_append (path : Bytes) :
    path = lastName path ∨ ∃ above, path = above ++ separator :: lastName path := by
  have parted : path.rdropWhile (· != separator) ++ lastName path = path :=
    List.rdropWhile_append_rtakeWhile
  rcases List.eq_nil_or_concat' (path.rdropWhile (· != separator)) with none | ⟨above, b, some⟩
  · rw [none] at parted
    exact .inl parted.symm
  · have separates := List.rdropWhile_last_not (· != separator) path (by simp [some])
    simp only [some, List.getLast_append_singleton, bne_iff_ne, ne_eq, Decidable.not_not] at separates
    rw [some, separates, List.append_assoc, List.singleton_append] at parted
    exact .inr ⟨above, parted.symm⟩

/-- The last name is the last segment. -/
theorem segments_eq_append_lastName (path : Bytes) :
    ∃ above, segments path = above ++ [lastName path] := by
  have name := segments_of_noSeparator (separator_notMem_lastName path)
  rcases eq_lastName_or_append path with same | ⟨above, same⟩
  · refine ⟨[], ?_⟩
    rw [← same] at name
    rw [name, ← same, List.nil_append]
  · refine ⟨segments above, ?_⟩
    rw [← name, ← segments_append_separator, ← same]

/-- A path is cut behind one of its segments. -/
theorem eq_append_onward {path name : Bytes} {above more : List Bytes}
    (split : segments path = above ++ name :: more) :
    ∃ front, path = front ++ onward more ∧ lastName front = name := by
  have listed : name ∈ segments path := by simp [split]
  have noSeparator := separator_notMem_of_mem_segments listed
  have whole : separator :: path = onward above ++ (separator :: name ++ onward more) := by
    rw [← onward_segments, split]
    simp [onward]
  cases above with
  | nil => exact ⟨name, (List.cons.inj whole).2, lastName_of_noSeparator noSeparator⟩
  | cons first others =>
    refine ⟨first ++ onward others ++ separator :: name, ?_, lastName_append_separator _ noSeparator⟩
    simpa [onward] using whole

/-! ## The last part -/

/-- A segment that stays in a directory. -/
def Blank (segment : Bytes) : Prop := segment = [] ∨ segment = here

theorem Blank.noSeparator {segment : Bytes} (blank : Blank segment) : separator ∉ segment := by
  rcases blank with rfl | rfl
  · simp
  · decide

/-- A path that is led on through blank segments ends in a separator if the last of these is empty. -/
theorem getLast?_onward_eq_separator_iff {path : Bytes} {more : List Bytes} {last : Bytes}
    (blank : Blank last) : (path ++ onward (more ++ [last])).getLast? = some separator ↔ last = [] := by
  rw [append_onward_concat]
  rcases blank with rfl | rfl
  · simp
  · simp [here, separator]

theorem filter_eq_nil_iff_blank {more : List Bytes} :
    (more.filter fun part => part ≠ [] ∧ part ≠ here) = [] ↔ ∀ segment ∈ more, Blank segment := by
  simp only [List.filter_eq_nil_iff, decide_eq_true_eq, ← not_or, not_not, Blank]

/-- The last part is a segment with only blank segments behind it. -/
theorem getLast?_parts_eq_some_iff {path name : Bytes} (named : ¬ Blank name) :
    (parts path).getLast? = some name ↔
      ∃ above more, segments path = above ++ name :: more ∧ ∀ segment ∈ more, Blank segment := by
  have sound : name ≠ [] ∧ name ≠ here := not_or.mp named
  rw [parts]
  cases segments path with
  | nil => simp
  | cons first rest =>
    simp only
    constructor
    · intro last
      rcases List.eq_nil_or_concat' (rest.filter fun part => part ≠ [] ∧ part ≠ here) with
        none | ⟨before, later, some⟩
      · rw [none, List.append_nil] at last
        refine ⟨[], rest, ?_, filter_eq_nil_iff_blank.mp none⟩
        split at last
        · cases last
        · cases last
          rfl
      · rw [some, ← List.append_assoc, List.getLast?_concat, Option.some.injEq] at last
        obtain ⟨front, back, rfl, _, kept⟩ := List.filter_eq_append_iff.mp some
        obtain ⟨skipped, more, rfl, _, _, none⟩ := List.filter_eq_cons_iff.mp kept
        refine ⟨first :: front ++ skipped, more, ?_, filter_eq_nil_iff_blank.mp none⟩
        rw [last, List.append_assoc]
        rfl
    · rintro ⟨above, more, split, blank⟩
      rw [← filter_eq_nil_iff_blank] at blank
      cases above with
      | nil =>
        cases split
        rw [blank, if_neg sound.1]
        rfl
      | cons head above =>
        rw [List.cons_append] at split
        obtain ⟨rfl, rfl⟩ := List.cons.inj split
        rw [List.filter_append, List.filter_cons_of_pos (by simpa using sound), blank, ← List.append_assoc,
          List.getLast?_concat]

/-- The last part is the last name of a path that is led on through blank segments. -/
theorem getLast?_parts_iff_lastName {path name : Bytes} (named : ¬ Blank name) :
    (parts path).getLast? = some name ↔
      ∃ front more, path = front ++ onward more ∧ lastName front = name ∧
        ∀ segment ∈ more, Blank segment := by
  rw [getLast?_parts_eq_some_iff named]
  constructor
  · rintro ⟨above, more, split, blank⟩
    obtain ⟨front, rfl, last⟩ := eq_append_onward split
    exact ⟨front, more, rfl, last, blank⟩
  · rintro ⟨front, more, rfl, rfl, blank⟩
    obtain ⟨above, last⟩ := segments_eq_append_lastName front
    refine ⟨above, more, ?_, blank⟩
    rw [segments_append_onward front fun segment member => (blank segment member).noSeparator, last,
      List.append_assoc, List.singleton_append]

end GameTables.Path
