import GameTables.Proofs.FileSystem.Kept

/-!
# Replacing a file through a temporary one

A temporary file is new under a name that nothing else has. While it is there nothing else changes, and
when it is discarded all is as before. When it is moved to a path, the path leads to a file with its
contents, and nothing else has changed.
-/

namespace GameTables.FileSystem

variable {before after fs : FileSystem} {temporary place : Location} {path contents : Bytes} {now : Time}

/-! ## Fresh names -/

theorem le_foldl_max {lengths : List Nat} {start length : Nat}
    (here : length ≤ start ∨ length ∈ lengths) : length ≤ lengths.foldl max start := by
  induction lengths generalizing start with
  | nil => exact here.elim id nofun
  | cons first rest ih =>
    rw [List.foldl_cons]
    rcases here with before | here
    · exact ih (.inl (Nat.le_trans before (Nat.le_max_left _ _)))
    · rcases List.mem_cons.mp here with rfl | here
      · exact ih (.inl (Nat.le_max_right _ _))
      · exact ih (.inr here)

/-- Nothing has the fresh name. -/
theorem node?_freshName (fs : FileSystem) (directory : Location) :
    fs.node? (directory ++ [fs.freshName]) = none := by
  rw [node?, Option.map_eq_none_iff, List.find?_eq_none]
  intro entry here
  rw [beq_iff_eq]
  intro same
  have listed : fs.freshName.length ∈ fs.nodes.map fun entry => (entry.1.getLast?.getD []).length :=
    List.mem_map.mpr ⟨entry, here, by simp [same]⟩
  have longest := @le_foldl_max _ 0 _ (.inr listed)
  have length : fs.freshName.length =
      (fs.nodes.map fun entry => (entry.1.getLast?.getD []).length).foldl max 0 + 1 := by
    simp [freshName]
  omega

/-! ## Temporary files -/

/-- There is a temporary file in a directory, and else nothing has changed. -/
structure Holding (temporary : Location) (contents : Bytes) (before fs : FileSystem) : Prop where
  fresh : before.node? temporary = none
  parent : fs.isDirectory temporary.dropLast = true
  held : ∃ time, fs.node? temporary = some (.file contents time)
  others : SameBut [temporary] before fs

theorem createTemporary_eq_ok_iff :
    before.createTemporary now path = .ok (temporary, fs) ↔
      checkPath (Path.join (before.rootedPath path) temporaryPattern) = .ok () ∧
        ∃ directory, (before.locate path = .ok directory ∧ before.isDirectory directory = true) ∧
          directory ++ [before.freshName] = temporary ∧
          before.create now directory before.freshName (.file [] now) = fs := by
  constructor
  · intro created
    obtain ⟨_, checked, created⟩ := bind_eq_ok_iff.mp created
    obtain ⟨directory, located, created⟩ := bind_eq_ok_iff.mp created
    obtain ⟨isDirectory, created⟩ := throw_or_eq_ok_iff.mp created
    cases created
    exact ⟨checked, directory, ⟨located, by simpa using isDirectory⟩, rfl, rfl⟩
  · rintro ⟨checked, directory, ⟨located, isDirectory⟩, rfl, rfl⟩
    simp [createTemporary, checked, located, isDirectory, bind, Except.bind, pure, Except.pure]

theorem holding_of_createTemporary
    (created : before.createTemporary now path = .ok (temporary, fs)) : Holding temporary [] before fs := by
  obtain ⟨_, directory, ⟨_, isDirectory⟩, rfl, rfl⟩ := createTemporary_eq_ok_iff.mp created
  have apart : directory ≠ directory ++ [before.freshName] := by simp
  have put := sameBut_put before (directory ++ [before.freshName]) (.file [] now)
  have still : (before.put (directory ++ [before.freshName]) (.file [] now)).isDirectory directory = true :=
    (put.isDirectory (by simp)).trans isDirectory
  have stamped := sameBut_stamp now still
  refine ⟨node?_freshName before directory, ?_, ⟨now, ?_⟩, put.trans stamped⟩
  · rw [List.dropLast_concat]
    exact (stamped.isDirectory List.not_mem_nil).trans still
  · rw [create, node?_stamp_of_ne apart.symm, node?_put_self]

theorem Holding.fill (holding : Holding temporary contents before fs) (now : Time) (more : Bytes) :
    Holding temporary more before (fs.put temporary (.file more now)) where
  fresh := holding.fresh
  parent := by
    obtain ⟨_, file⟩ := holding.held
    rw [isDirectory_put file]
    exact holding.parent
  held := ⟨now, node?_put_self ..⟩
  others := (holding.others.trans (sameBut_put fs temporary _)).mono (by simp)

/-- Taking a file away changes nothing but that it is gone. -/
theorem Holding.sameBut_take (holding : Holding temporary contents before fs) (now : Time) :
    SameBut [temporary] fs (fs.take now temporary) ∧ (fs.take now temporary).node? temporary = none := by
  obtain ⟨_, file⟩ := holding.held
  have erased := sameBut_erase fs temporary
  have apart : temporary.dropLast ≠ temporary := by
    intro same
    have directory := holding.parent
    rw [same, isDirectory_of_file file] at directory
    cases directory
  have parent : (fs.erase temporary).isDirectory temporary.dropLast = true :=
    (erased.isDirectory (by simpa using apart)).trans holding.parent
  refine ⟨erased.trans (sameBut_stamp now parent), ?_⟩
  rw [take, node?_stamp_of_ne apart.symm, node?_erase_self]

/-- Without its temporary file all is as before. -/
theorem Holding.discard (holding : Holding temporary contents before fs) (now : Time) :
    SameBut [] before (fs.take now temporary) := by
  obtain ⟨taken, gone⟩ := holding.sameBut_take now
  have whole := (holding.others.trans taken).mono (show [temporary] ++ [temporary] ⊆ [temporary] by simp)
  refine whole.of_cons ?_
  rw [node?_eq_none_iff_item?.mp gone, node?_eq_none_iff_item?.mp holding.fresh]

theorem Holding.sameDirectories (holding : Holding temporary contents before fs) :
    SameDirectories before fs := by
  obtain ⟨_, file⟩ := holding.held
  refine holding.others.sameDirectories fun place here => ?_
  obtain rfl := List.mem_singleton.mp here
  exact ⟨isDirectory_of_none holding.fresh, isDirectory_of_file file⟩

/-! ## Replaced files -/

/-- A path leads to a file with contents, which stands where there was a file or nothing. Nothing else
has changed. -/
structure Replaced (path : Bytes) (place : Location) (contents : Bytes) (before after : FileSystem) :
    Prop where
  leads : after.locate path = .ok place
  holds : after.view place = some (some contents)
  noDirectory : before.isDirectory place = false
  others : SameBut [place] before after

theorem read_of_view (leads : fs.locate path = .ok place) (holds : fs.view place = some (some contents)) :
    fs.read path = .ok contents := by
  rw [view, Option.map_eq_some_iff] at holds
  obtain ⟨node, there, file⟩ := holds
  rw [FileSystem.read, nodeAt_of_locate leads, there]
  cases node with
  | file contents time =>
    cases file
    rfl
  | directory time => cases file

theorem Replaced.read (replaced : Replaced path place contents before after) :
    after.read path = .ok contents :=
  read_of_view replaced.leads replaced.holds

theorem Replaced.grows (replaced : Replaced path place contents before after) : Grows before after := by
  refine replaced.others.grows fun other here node there => ?_
  obtain rfl := List.mem_singleton.mp here
  have holds := replaced.holds
  rw [view, Option.map_eq_some_iff] at holds
  obtain ⟨node', there', file⟩ := holds
  have noDirectory := replaced.noDirectory
  rw [isDirectory, there] at noDirectory
  refine ⟨node', there', ?_⟩
  cases node' with
  | file contents time => exact noDirectory.symm
  | directory time => cases file

theorem Replaced.sameDirectories (replaced : Replaced path place contents before after) :
    SameDirectories before after := by
  refine replaced.others.sameDirectories fun other here => ?_
  obtain rfl := List.mem_singleton.mp here
  refine ⟨replaced.noDirectory, ?_⟩
  have holds := replaced.holds
  rw [view, Option.map_eq_some_iff] at holds
  obtain ⟨node, there, file⟩ := holds
  cases node with
  | file contents time => exact isDirectory_of_file there
  | directory time => cases file

/-- What a move comes to where the path ends in a name. -/
theorem moveTemporary_of_target {time : Time} {directory : Location} {name : Bytes} {slash : Bool}
    (file : fs.node? temporary = some (.file contents time))
    (found : fs.target path = .ok (.named directory name slash)) :
    fs.moveTemporary now temporary path =
      if slash then .error .notADirectory
      else if fs.isDirectory (directory ++ [name]) then .error .isADirectory
      else .ok (((fs.take now temporary).put (directory ++ [name]) (.file contents time)).stamp now
        directory) := by
  unfold moveTemporary isDirectory
  rw [found, file]
  cases slash with
  | true => rfl
  | false =>
    simp only [bind, Except.bind]
    cases fs.node? (directory ++ [name]) with
    | none => rfl
    | some node => cases node <;> rfl

theorem moveTemporary_eq_ok_iff {time : Time} (file : fs.node? temporary = some (.file contents time)) :
    fs.moveTemporary now temporary path = .ok after ↔
      ∃ directory name, fs.target path = .ok (.named directory name false) ∧
        fs.isDirectory (directory ++ [name]) = false ∧
        ((fs.take now temporary).put (directory ++ [name]) (.file contents time)).stamp now directory =
          after := by
  constructor
  · intro moved
    obtain ⟨target, found, _⟩ := bind_eq_ok_iff.mp moved
    cases target with
    | unnamed =>
      rw [moveTemporary, found] at moved
      cases moved
    | named directory name slash =>
      rw [moveTemporary_of_target file found] at moved
      cases slash with
      | true => cases moved
      | false =>
        cases isDirectory : fs.isDirectory (directory ++ [name]) with
        | true => simp [isDirectory] at moved
        | false => exact ⟨directory, name, found, isDirectory, by simpa [isDirectory] using moved⟩
  · rintro ⟨directory, name, found, noDirectory, rfl⟩
    simp [moveTemporary_of_target file found, noDirectory]

/-- A file stands under another name. -/
structure Moved (temporary place : Location) (contents : Bytes) (fs after : FileSystem) : Prop where
  here : ∃ time, after.node? place = some (.file contents time)
  gone : temporary ≠ place → after.node? temporary = none
  others : SameBut [temporary, place] fs after

theorem Holding.moved (holding : Holding temporary contents before fs) {time : Time} {directory : Location}
    (file : fs.node? temporary = some (.file contents time)) (isDirectory : fs.isDirectory directory = true)
    (name : Bytes) (now : Time) :
    Moved temporary (directory ++ [name]) contents fs
      (((fs.take now temporary).put (directory ++ [name]) (.file contents time)).stamp now directory) := by
  obtain ⟨taken, gone⟩ := holding.sameBut_take now
  generalize fs.take now temporary = without at taken gone ⊢
  have put := sameBut_put without (directory ++ [name]) (.file contents time)
  have apart : directory ∉ [temporary] := by
    rintro here
    rw [List.mem_singleton.mp here, isDirectory_of_file file] at isDirectory
    cases isDirectory
  have still : (without.put (directory ++ [name]) (.file contents time)).isDirectory directory = true := by
    rw [put.isDirectory (by simp), taken.isDirectory apart, isDirectory]
  have stamped := put.trans (sameBut_stamp now still)
  refine ⟨⟨time, ?_⟩, fun differ => ?_, taken.trans stamped⟩
  · rw [node?_stamp_of_ne (by simp), node?_put_self]
  · rw [node?_eq_none_iff_item?, stamped.items temporary (by simpa using differ),
      node?_eq_none_iff_item?.mp gone]

theorem Moved.sameDirectories (moved : Moved temporary place contents fs after)
    (file : fs.isDirectory temporary = false) (free : fs.isDirectory place = false) :
    SameDirectories fs after := by
  obtain ⟨_, here⟩ := moved.here
  have left : after.isDirectory temporary = false := by
    by_cases same : temporary = place
    · exact same ▸ isDirectory_of_file here
    · exact isDirectory_of_none (moved.gone same)
  refine moved.others.sameDirectories fun other at_other => ?_
  simp only [List.mem_cons, List.not_mem_nil, or_false] at at_other
  rcases at_other with rfl | rfl
  · exact ⟨file, left⟩
  · exact ⟨free, isDirectory_of_file here⟩

/-- A temporary file that is moved leaves nothing behind. -/
theorem Holding.sameBut_moved (holding : Holding temporary contents before fs)
    (moved : Moved temporary place contents fs after) : SameBut [place] before after := by
  have all : SameBut [temporary, place] before after := (holding.others.trans moved.others).mono (by simp)
  by_cases same : temporary = place
  · exact all.mono (by simp [same])
  · refine all.of_cons ?_
    rw [node?_eq_none_iff_item?.mp (moved.gone same), node?_eq_none_iff_item?.mp holding.fresh]

/-- A temporary file that is moved to a path takes the place of what is there. -/
theorem Holding.publish (holding : Holding temporary contents before fs)
    (moves : fs.moveTemporary now temporary path = .ok after) :
    ∃ place, Replaced path place contents before after := by
  obtain ⟨time, file⟩ := holding.held
  obtain ⟨directory, name, found, free, rfl⟩ := (moveTemporary_eq_ok_iff file).mp moves
  obtain ⟨_, _, _, _, isDirectory, _⟩ := named_of_target found
  have moved := holding.moved file isDirectory name now
  have same := moved.sameDirectories (isDirectory_of_file file) free
  obtain ⟨_, here⟩ := moved.here
  refine ⟨directory ++ [name], (Grows.refl _).locate_of_target (same.target found) here, ?_, ?_,
    holding.sameBut_moved moved⟩
  · rw [view, here]
    rfl
  · rw [← holding.sameDirectories.directories, free]

/-! ## Paths at which a file can be put -/

/-- A file can be put at a path: a temporary file can be made in the directory above it, and the name that
it ends in is free. -/
structure Replaceable (fs : FileSystem) (path : Bytes) : Prop where
  fits : checkPath (Path.join (fs.rootedPath (Path.directory path)) temporaryPattern) = .ok ()
  parent : ∃ directory, fs.locate (Path.directory path) = .ok directory ∧ fs.isDirectory directory = true
  free : fs.EndsFree path

/-- Whether a file can be put at a path is a matter of the directories. -/
theorem SameDirectories.replaceable (same : SameDirectories before after)
    (replaceable : before.Replaceable path) : after.Replaceable path := by
  obtain ⟨fits, ⟨directory, located, isDirectory⟩, name, slash, found, free⟩ := replaceable
  obtain ⟨_, checked, walked⟩ := bind_eq_ok_iff.mp located
  refine ⟨?_, ⟨directory, bind_eq_ok_iff.mpr ⟨_, checked, ?_⟩, ?_⟩, name, slash, same.target found, ?_⟩
  · rwa [rootedPath, same.workingDirectory]
  · rw [origin, same.workingDirectory]
    exact same.walk walked isDirectory
  · rw [same.directories, isDirectory]
  · rw [same.directories, free]

theorem exists_createTemporary_iff :
    (∃ created, fs.createTemporary now path = .ok created) ↔
      checkPath (Path.join (fs.rootedPath path) temporaryPattern) = .ok () ∧
        ∃ directory, fs.locate path = .ok directory ∧ fs.isDirectory directory = true := by
  constructor
  · rintro ⟨⟨temporary, after⟩, created⟩
    obtain ⟨checked, directory, there, _⟩ := createTemporary_eq_ok_iff.mp created
    exact ⟨checked, directory, there⟩
  · rintro ⟨checked, directory, there⟩
    exact ⟨(_, _), createTemporary_eq_ok_iff.mpr ⟨checked, directory, there, rfl, rfl⟩⟩

/-- The temporary file makes no difference to where it can be moved. -/
theorem Holding.exists_moveTemporary_iff (holding : Holding temporary contents before fs) :
    (∃ after, fs.moveTemporary now temporary path = .ok after) ↔ before.EndsFree path := by
  obtain ⟨_, file⟩ := holding.held
  have same := holding.sameDirectories
  simp only [moveTemporary_eq_ok_iff file]
  constructor
  · rintro ⟨_, directory, name, found, noDirectory, _⟩
    exact ⟨directory, name, same.symm.target found, same.directories _ ▸ noDirectory⟩
  · rintro ⟨directory, name, found, noDirectory⟩
    exact ⟨_, directory, name, same.target found, same.directories _ ▸ noDirectory, rfl⟩

end GameTables.FileSystem
