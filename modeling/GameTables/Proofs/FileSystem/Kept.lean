import GameTables.Proofs.FileSystem.Writing

/-!
# What changes leave as it was

Files with their contents and times, and directories as such. The time of a directory says no more than
that a name in it came or went, and is left out. As long as the directories stay the same, paths lead to
the same places.
-/

namespace GameTables.FileSystem

/-- What is at a location apart from the time of a directory: the contents and the time of a file, or that
it is a directory. -/
def item? (fs : FileSystem) (place : Location) : Option (Option (Bytes × Time)) :=
  (fs.node? place).map fun
    | .file contents modified => some (contents, modified)
    | .directory _ => none

theorem isDirectory_iff_item? {fs : FileSystem} {place : Location} :
    fs.isDirectory place = true ↔ fs.item? place = some none := by
  unfold isDirectory item?
  cases fs.node? place with
  | none => simp
  | some node => cases node <;> simp [Node.isDirectory]

theorem view_eq_of_item? {before after : FileSystem} {place : Location}
    (same : after.item? place = before.item? place) : after.view place = before.view place := by
  have view_eq (fs : FileSystem) : fs.view place = (fs.item? place).map (·.map (·.1)) := by
    unfold view item?
    cases fs.node? place with
    | none => rfl
    | some node => cases node <;> rfl
  rw [view_eq, view_eq, same]

/-- The contents and the time of the file at a location, if there is one. -/
def file? (fs : FileSystem) (place : Location) : Option (Bytes × Time) :=
  (fs.item? place).join

theorem node?_eq_none_iff_item? {fs : FileSystem} {place : Location} :
    fs.node? place = none ↔ fs.item? place = none := by
  simp [item?]

theorem isDirectory_of_none {fs : FileSystem} {place : Location} (absent : fs.node? place = none) :
    fs.isDirectory place = false := by
  simp [isDirectory, absent]

theorem isDirectory_of_file {fs : FileSystem} {place : Location} {contents : Bytes} {time : Time}
    (file : fs.node? place = some (.file contents time)) : fs.isDirectory place = false := by
  simp [isDirectory, file, Node.isDirectory]

/-! ## Changes at some places -/

/-- Nothing has changed but what is at some places. -/
structure SameBut (places : List Location) (before after : FileSystem) : Prop where
  workingDirectory : after.workingDirectory = before.workingDirectory
  items : ∀ place, place ∉ places → after.item? place = before.item? place

variable {before middle after fs : FileSystem} {places more : List Location} {place other : Location}

theorem SameBut.refl (places : List Location) (fs : FileSystem) : SameBut places fs fs :=
  ⟨rfl, fun _ _ => rfl⟩

theorem SameBut.mono (same : SameBut places before after) (sub : places ⊆ more) :
    SameBut more before after :=
  ⟨same.workingDirectory, fun place apart => same.items place fun here => apart (sub here)⟩

theorem SameBut.trans (first : SameBut places before middle) (second : SameBut more middle after) :
    SameBut (places ++ more) before after where
  workingDirectory := second.workingDirectory.trans first.workingDirectory
  items place apart := by
    rw [List.mem_append, not_or] at apart
    rw [second.items place apart.2, first.items place apart.1]

/-- A place at which there is in the end what there was has not changed. -/
theorem SameBut.of_cons (same : SameBut (place :: places) before after)
    (here : after.item? place = before.item? place) : SameBut places before after where
  workingDirectory := same.workingDirectory
  items other apart := by
    by_cases at_place : other = place
    · exact at_place ▸ here
    · exact same.items other (by simp [at_place, apart])

theorem SameBut.isDirectory (same : SameBut places before after) (apart : place ∉ places) :
    after.isDirectory place = before.isDirectory place := by
  rw [Bool.eq_iff_iff, isDirectory_iff_item?, isDirectory_iff_item?, same.items place apart]

theorem sameBut_put (fs : FileSystem) (place : Location) (node : Node) :
    SameBut [place] fs (fs.put place node) where
  workingDirectory := rfl
  items other apart := by
    rw [item?, node?_put_of_ne (by simpa using apart), item?]

theorem sameBut_erase (fs : FileSystem) (place : Location) : SameBut [place] fs (fs.erase place) where
  workingDirectory := rfl
  items other apart := by
    rw [item?, node?_erase_of_ne (by simpa using apart), item?]

/-- The time of a directory counts for nothing. -/
theorem sameBut_stamp (now : Time) (directory : fs.isDirectory place = true) : SameBut [] fs (fs.stamp now place) where
  workingDirectory := by
    unfold stamp
    split <;> rfl
  items other _ := by
    by_cases here : other = place
    · subst here
      obtain ⟨node, there, isDirectory⟩ := isDirectory_eq_true_iff.mp directory
      cases node with
      | file contents time => cases isDirectory
      | directory time =>
        rw [item?, node?_stamp_self there, item?, there]
        rfl
    · rw [item?, node?_stamp_of_ne here, item?]

/-! ## Growing trees -/

theorem Grows.refl (fs : FileSystem) : Grows fs fs := ⟨rfl, fun _ node there => ⟨node, there, rfl⟩⟩

theorem Grows.trans (first : Grows before middle) (second : Grows middle after) : Grows before after where
  workingDirectory := second.workingDirectory.trans first.workingDirectory
  nodes place node there := by
    obtain ⟨node', there', same⟩ := first.nodes place node there
    obtain ⟨node'', there'', same'⟩ := second.nodes place node' there'
    exact ⟨node'', there'', same'.trans same⟩

/-- A tree grows if where things change, there was nothing or a file before and there is a file in the end. -/
theorem SameBut.grows (same : SameBut places before after)
    (grow : ∀ place ∈ places, ∀ node, before.node? place = some node →
      ∃ node', after.node? place = some node' ∧ node'.isDirectory = node.isDirectory) :
    Grows before after where
  workingDirectory := same.workingDirectory
  nodes place node there := by
    by_cases here : place ∈ places
    · exact grow place here node there
    · have entry := same.items place here
      rw [item?, item?, there, Option.map_some, Option.map_eq_some_iff] at entry
      obtain ⟨node', there', entry⟩ := entry
      exact ⟨node', there', by cases node <;> cases node' <;> first | rfl | cases entry⟩

/-! ## Where paths lead -/

/-- There are the same directories. -/
structure SameDirectories (before after : FileSystem) : Prop where
  workingDirectory : after.workingDirectory = before.workingDirectory
  directories : ∀ place, after.isDirectory place = before.isDirectory place

theorem SameDirectories.symm (same : SameDirectories before after) : SameDirectories after before :=
  ⟨same.workingDirectory.symm, fun place => (same.directories place).symm⟩

/-- Files that come, go or change make no difference to the directories. -/
theorem SameBut.sameDirectories (same : SameBut places before after)
    (files : ∀ place ∈ places, before.isDirectory place = false ∧ after.isDirectory place = false) :
    SameDirectories before after where
  workingDirectory := same.workingDirectory
  directories place := by
    by_cases here : place ∈ places
    · rw [(files place here).1, (files place here).2]
    · exact same.isDirectory here

/-- A walk that ends in a directory begins in one. -/
theorem isDirectory_of_walk {segments : List Bytes} {found : Location}
    (walked : fs.walk place segments = .ok found) (directory : fs.isDirectory found = true) :
    fs.isDirectory place = true := by
  cases segments with
  | nil =>
    cases walked
    exact directory
  | cons segment rest => exact (walk_cons_eq_ok_iff.mp walked).1

/-- A walk to a directory passes nothing but directories. -/
theorem SameDirectories.walk (same : SameDirectories before after) {segments : List Bytes}
    {found : Location} (walked : before.walk place segments = .ok found)
    (directory : before.isDirectory found = true) : after.walk place segments = .ok found := by
  induction segments generalizing place with
  | nil => exact walked
  | cons segment rest ih =>
    obtain ⟨here, next, leads, walked⟩ := walk_cons_eq_ok_iff.mp walked
    refine walk_cons_eq_ok_iff.mpr ⟨(same.directories place).trans here, next, ?_, ih walked⟩
    cases leads with
    | stays _ blank => exact .stays segment blank
    | up => exact .up
    | down _ node moves notUp short there =>
      have inside := (same.directories _).trans (isDirectory_of_walk walked directory)
      obtain ⟨node', there', _⟩ := isDirectory_eq_true_iff.mp inside
      exact .down segment node' moves notUp short there'

theorem target_eq_named {path name : Bytes} {directory : Location} {above : List Bytes}
    (checked : checkPath path = .ok ())
    (backwards : (Path.segments path).reverse.dropWhile (· = []) = name :: above)
    (walked : fs.walk (fs.origin path) above.reverse = .ok directory)
    (isDirectory : fs.isDirectory directory = true) (named : name ≠ Path.here ∧ name ≠ Path.up)
    (short : name.length ≤ maxName) :
    fs.target path = .ok (.named directory name ((Path.segments path).reverse.head? == some [])) := by
  simp [target, checked, backwards, walked, isDirectory, named, Nat.not_lt.mpr short, bind, Except.bind,
    pure, Except.pure]

theorem target_eq_unnamed {name : Bytes} {directory : Location} {above : List Bytes}
    (checked : checkPath path = .ok ())
    (backwards : (Path.segments path).reverse.dropWhile (· = []) = name :: above)
    (walked : fs.walk (fs.origin path) above.reverse = .ok directory)
    (isDirectory : fs.isDirectory directory = true) (unnamed : name = Path.here ∨ name = Path.up) :
    fs.target path = .ok .unnamed := by
  simp [target, checked, backwards, walked, isDirectory, unnamed, bind, Except.bind, pure, Except.pure]

/-- A path that ends in a name in a directory does so wherever there are the same directories. -/
theorem SameDirectories.target (same : SameDirectories before after) {path name : Bytes}
    {directory : Location} {slash : Bool} (target : before.target path = .ok (.named directory name slash)) :
    after.target path = .ok (.named directory name slash) := by
  obtain ⟨above, checked, backwards, walked, isDirectory, named, short, rfl⟩ := named_of_target target
  refine target_eq_named checked backwards ?_ ?_ named short
  · rw [origin, same.workingDirectory]
    exact same.walk walked isDirectory
  · rw [same.directories, isDirectory]

end GameTables.FileSystem
