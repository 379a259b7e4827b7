import GameTables.FileSystem.Operations
import GameTables.Proofs.Traversal

/-!
# What opening a file and setting its time change

A file that is opened is found again under its path, and so is one whose time is set. All else stays as it
is, but for the time of the directory in which a file is new.
-/

namespace GameTables.FileSystem

/-! ## Following paths in a tree that grows -/

/-- Every node stays, a directory as a directory and a file as a file. -/
structure Grows (before after : FileSystem) : Prop where
  workingDirectory : after.workingDirectory = before.workingDirectory
  nodes : ∀ place node, before.node? place = some node →
    ∃ node', after.node? place = some node' ∧ node'.isDirectory = node.isDirectory

theorem isDirectory_eq_true_iff {fs : FileSystem} {place : Location} :
    fs.isDirectory place = true ↔ ∃ node, fs.node? place = some node ∧ node.isDirectory = true := by
  unfold isDirectory
  cases fs.node? place <;> simp

variable {before after : FileSystem}

theorem Grows.isDirectory (grows : Grows before after) {place : Location}
    (directory : before.isDirectory place = true) : after.isDirectory place = true := by
  obtain ⟨node, there, directory⟩ := isDirectory_eq_true_iff.mp directory
  obtain ⟨node', there', same⟩ := grows.nodes place node there
  exact isDirectory_eq_true_iff.mpr ⟨node', there', same.trans directory⟩

/-- Where a segment leads from a directory. -/
inductive Leads (fs : FileSystem) (place : Location) : Bytes → Location → Prop
  | stays (segment : Bytes) (blank : segment = [] ∨ segment = Path.here) : Leads fs place segment place
  | up : Leads fs place Path.up place.dropLast
  | down (name : Bytes) (node : Node) (moves : ¬ (name = [] ∨ name = Path.here)) (notUp : name ≠ Path.up)
    (short : name.length ≤ maxName) (there : fs.node? (place ++ [name]) = some node) :
    Leads fs place name (place ++ [name])

/-- A walk goes from directory to directory, and ends wherever its last segment leads. -/
theorem walk_cons_eq_ok_iff {fs : FileSystem} {place found : Location} {segment : Bytes}
    {rest : List Bytes} :
    fs.walk place (segment :: rest) = .ok found ↔
      fs.isDirectory place = true ∧ ∃ next, Leads fs place segment next ∧ fs.walk next rest = .ok found := by
  rw [walk]
  constructor
  · intro walked
    cases directory : fs.isDirectory place with
    | false => simp [directory] at walked
    | true =>
      simp only [directory, Bool.not_true, Bool.false_eq_true, if_false] at walked
      refine ⟨rfl, ?_⟩
      split at walked
      · next blank => exact ⟨_, .stays segment blank, walked⟩
      split at walked
      · next up => exact ⟨_, up ▸ .up, walked⟩
      split at walked
      · cases walked
      split at walked
      · cases walked
      · next moves notUp short there =>
        obtain ⟨node, there⟩ := Option.ne_none_iff_exists'.mp (by simpa using there)
        exact ⟨_, .down segment node moves notUp (Nat.le_of_not_lt short) there, walked⟩
  · rintro ⟨directory, next, leads, walked⟩
    simp only [directory, Bool.not_true, Bool.false_eq_true, if_false]
    cases leads with
    | stays _ blank => rwa [if_pos blank]
    | up => exact walked
    | down _ node moves notUp short there =>
      rw [if_neg moves, if_neg notUp, if_neg (Nat.not_lt.mpr short)]
      simpa [there] using walked

theorem Grows.walk (grows : Grows before after) {place found : Location} {segments : List Bytes}
    (walked : before.walk place segments = .ok found) : after.walk place segments = .ok found := by
  induction segments generalizing place with
  | nil => exact walked
  | cons segment rest ih =>
    obtain ⟨directory, next, leads, walked⟩ := walk_cons_eq_ok_iff.mp walked
    refine walk_cons_eq_ok_iff.mpr ⟨grows.isDirectory directory, next, ?_, ih walked⟩
    cases leads with
    | stays _ blank => exact .stays segment blank
    | up => exact .up
    | down _ node moves notUp short there =>
      obtain ⟨node', there', _⟩ := grows.nodes _ _ there
      exact .down segment node' moves notUp short there'

theorem Grows.origin (grows : Grows before after) (path : Bytes) :
    after.origin path = before.origin path := by
  unfold FileSystem.origin
  rw [grows.workingDirectory]

theorem Grows.locate (grows : Grows before after) {path : Bytes} {place : Location}
    (located : before.locate path = .ok place) : after.locate path = .ok place := by
  obtain ⟨_, checked, walked⟩ := bind_eq_ok_iff.mp located
  exact bind_eq_ok_iff.mpr ⟨_, checked, grows.origin path ▸ grows.walk walked⟩

theorem walk_append {fs : FileSystem} {place : Location} {segments more : List Bytes} :
    fs.walk place (segments ++ more) = fs.walk place segments >>= fun found => fs.walk found more := by
  induction segments generalizing place with
  | nil => rfl
  | cons segment rest ih =>
    simp only [List.cons_append, walk, ih]
    split
    · rfl
    split
    · rfl
    split
    · rfl
    split
    · rfl
    split <;> rfl

/-! ## Where a path leads -/

/-- What a path that ends in a name consists of. -/
theorem named_of_target {fs : FileSystem} {path name : Bytes} {directory : Location} {slash : Bool}
    (target : fs.target path = .ok (.named directory name slash)) :
    ∃ above, checkPath path = .ok () ∧
      (Path.segments path).reverse.dropWhile (· = []) = name :: above ∧
      fs.walk (fs.origin path) above.reverse = .ok directory ∧
      fs.isDirectory directory = true ∧ (name ≠ Path.here ∧ name ≠ Path.up) ∧ name.length ≤ maxName ∧
      slash = ((Path.segments path).reverse.head? == some []) := by
  obtain ⟨_, checked, target⟩ := bind_eq_ok_iff.mp target
  cases backwards : (Path.segments path).reverse.dropWhile (· = []) with
  | nil =>
    simp only [backwards] at target
    cases target
  | cons last above =>
    simp only [backwards] at target
    obtain ⟨directory', walked, target⟩ := bind_eq_ok_iff.mp target
    obtain ⟨isDirectory, target⟩ := throw_or_eq_ok_iff.mp target
    split at target
    · cases target
    · next named =>
      obtain ⟨short, target⟩ := throw_or_eq_ok_iff.mp target
      cases target
      exact ⟨above, checked, rfl, walked, by simpa using isDirectory, not_or.mp named,
        Nat.le_of_not_lt short, rfl⟩

/-- The name that a path ends in stands in front of nothing but separators. -/
theorem segments_of_backwards {path name : Bytes} {above : List Bytes}
    (backwards : (Path.segments path).reverse.dropWhile (· = []) = name :: above) :
    name ≠ [] ∧ ∃ blanks, (∀ blank ∈ blanks, blank = []) ∧
      (((Path.segments path).reverse.head? == some []) = false → blanks = []) ∧
      Path.segments path = above.reverse ++ name :: blanks := by
  have nonempty := List.head?_dropWhile_not (· = []) (Path.segments path).reverse
  have split := List.takeWhile_append_dropWhile (p := (· = [])) (l := (Path.segments path).reverse)
  have blank : ((Path.segments path).reverse.takeWhile (· = [])).all (· = []) = true := List.all_takeWhile
  rw [backwards] at nonempty split
  generalize (Path.segments path).reverse.takeWhile (· = []) = trailing at split blank
  refine ⟨by simpa using nonempty, trailing.reverse, by simpa using blank, ?_, ?_⟩
  · intro noSlash
    cases trailing with
    | nil => rfl
    | cons last rest =>
      rw [List.all_cons, Bool.and_eq_true, decide_eq_true_iff] at blank
      rw [← split, List.cons_append, List.head?_cons, blank.1] at noSlash
      cases noSlash
  · rw [List.reverse_eq_iff.mp split.symm]
    simp

/-- A path that ends in a name is followed up to what comes to be there under the name, and then through
the separators behind it. -/
theorem Grows.locate_eq_walk (grows : Grows before after) {path name : Bytes} {directory : Location}
    {slash : Bool} {node : Node} (target : before.target path = .ok (.named directory name slash))
    (there : after.node? (directory ++ [name]) = some node) :
    ∃ blanks, (∀ blank ∈ blanks, blank = []) ∧ (slash = false → blanks = []) ∧
      after.locate path = after.walk (directory ++ [name]) blanks := by
  obtain ⟨above, checked, backwards, walked, isDirectory, ⟨notHere, notUp⟩, short, rfl⟩ :=
    named_of_target target
  obtain ⟨nonempty, blanks, blank, none, whole⟩ := segments_of_backwards backwards
  refine ⟨blanks, blank, none, ?_⟩
  unfold FileSystem.locate
  rw [checked]
  change after.walk (after.origin path) (Path.segments path) = _
  rw [whole, walk_append, grows.origin, grows.walk walked]
  have step : after.walk directory [name] = .ok (directory ++ [name]) :=
    walk_cons_eq_ok_iff.mpr ⟨grows.isDirectory isDirectory, _,
      .down name node (not_or.mpr ⟨nonempty, notHere⟩) notUp short there, rfl⟩
  change after.walk directory ([name] ++ blanks) = _
  rw [walk_append, step]
  rfl

/-- What comes to be there under the name that a path ends in is what the path leads to. -/
theorem Grows.locate_of_target (grows : Grows before after) {path name : Bytes} {directory : Location}
    {node : Node} (target : before.target path = .ok (.named directory name false))
    (there : after.node? (directory ++ [name]) = some node) :
    after.locate path = .ok (directory ++ [name]) := by
  obtain ⟨_, _, none, followed⟩ := grows.locate_eq_walk target there
  rw [followed, none rfl]
  rfl

/-! ## Times -/

theorem node?_stamp_of_ne {fs : FileSystem} {now : Time} {place other : Location}
    (apart : other ≠ place) : (fs.stamp now place).node? other = fs.node? other := by
  unfold stamp
  split
  · rfl
  · exact node?_put_of_ne apart

theorem node?_stamp_self {fs : FileSystem} {now : Time} {place : Location} {node : Node}
    (there : fs.node? place = some node) :
    (fs.stamp now place).node? place = some (node.withTime now) := by
  simp [stamp, there]

theorem workingDirectory_stamp (fs : FileSystem) (now : Time) (place : Location) :
    (fs.stamp now place).workingDirectory = fs.workingDirectory := by
  unfold stamp
  split <;> rfl

theorem grows_stamp (fs : FileSystem) (now : Time) (place : Location) : Grows fs (fs.stamp now place) where
  workingDirectory := workingDirectory_stamp fs now place
  nodes other node there := by
    by_cases here : other = place
    · subst here
      exact ⟨_, node?_stamp_self there, by cases node <;> rfl⟩
    · exact ⟨node, (node?_stamp_of_ne here).trans there, rfl⟩

theorem modified_eq_ok_iff {fs : FileSystem} {path : Bytes} {time : Time} :
    fs.modified path = .ok time ↔
      ∃ place node, fs.locate path = .ok place ∧ fs.node? place = some node ∧ node.modified = time := by
  constructor
  · intro modified
    obtain ⟨node, found, same⟩ := bind_eq_ok_iff.mp modified
    obtain ⟨place, located, found⟩ := bind_eq_ok_iff.mp found
    cases there : fs.node? place with
    | none =>
      rw [there] at found
      cases found
    | some node' =>
      rw [there] at found
      cases found
      cases same
      exact ⟨place, node, located, there, rfl⟩
  · rintro ⟨place, node, located, there, rfl⟩
    refine bind_eq_ok_iff.mpr ⟨node, bind_eq_ok_iff.mpr ⟨place, located, ?_⟩, rfl⟩
    rw [there]
    rfl

/-- A path that has a time has the same one or the new one when a place has got a new time. -/
theorem modified_stamp {fs : FileSystem} {now time : Time} {path : Bytes} (place : Location)
    (modified : fs.modified path = .ok time) :
    (fs.stamp now place).modified path = .ok time ∨ (fs.stamp now place).modified path = .ok now := by
  obtain ⟨found, node, located, there, rfl⟩ := modified_eq_ok_iff.mp modified
  have located := (grows_stamp fs now place).locate located
  by_cases here : found = place
  · subst here
    refine .inr (modified_eq_ok_iff.mpr ⟨found, _, located, node?_stamp_self there, ?_⟩)
    cases node <;> rfl
  · exact .inl (modified_eq_ok_iff.mpr ⟨found, node, located, (node?_stamp_of_ne here).trans there, rfl⟩)

theorem nodeAt_of_locate {fs : FileSystem} {path : Bytes} {place : Location}
    (located : fs.locate path = .ok place) :
    fs.nodeAt path =
      match fs.node? place with
      | some node => .ok node
      | none => .error .notFound := by
  unfold nodeAt
  rw [located]
  change (match fs.node? place with
    | some node => pure node
    | none => throw .notFound : Except FileError Node) = _
  cases fs.node? place <;> rfl

/-- A file that is written where there is one makes no difference to where the directories are. -/
theorem isDirectory_put {fs : FileSystem} {place : Location} {contents old : Bytes} {now time : Time}
    (file : fs.node? place = some (.file old time)) (other : Location) :
    (fs.put place (.file contents now)).isDirectory other = fs.isDirectory other := by
  by_cases same : other = place
  · subst same
    simp only [isDirectory, node?_put_self, file]
    rfl
  · rw [isDirectory, node?_put_of_ne same, isDirectory]

/-! ## Opening files -/

/-- A path ends in a name that no directory has. -/
def EndsFree (fs : FileSystem) (path : Bytes) : Prop :=
  ∃ directory name, fs.target path = .ok (.named directory name false) ∧
    fs.isDirectory (directory ++ [name]) = false

/-- What opening a file comes to where the path ends in a name. -/
theorem openFile_of_target {fs : FileSystem} {now : Time} {path name : Bytes} {directory : Location}
    {slash : Bool} (found : fs.target path = .ok (.named directory name slash)) :
    fs.openFile now path =
      if slash then .error .isADirectory
      else
        match fs.node? (directory ++ [name]) with
        | none => .ok (directory ++ [name], fs.create now directory name (.file [] now))
        | some (.file ..) => .ok (directory ++ [name], fs)
        | some (.directory _) => .error .isADirectory := by
  unfold openFile
  rw [found]
  cases slash with
  | true => rfl
  | false =>
    simp only [bind, Except.bind]
    cases fs.node? (directory ++ [name]) with
    | none => rfl
    | some node => cases node <;> rfl

theorem openFile_eq_ok_iff {now : Time} {path : Bytes} {place : Location} :
    before.openFile now path = .ok (place, after) ↔
      ∃ directory name, before.target path = .ok (.named directory name false) ∧
        directory ++ [name] = place ∧
        ((before.node? place = none ∧ before.create now directory name (.file [] now) = after) ∨
          (∃ contents time, before.node? place = some (.file contents time)) ∧ before = after) := by
  constructor
  · intro opens
    obtain ⟨target, found, _⟩ := bind_eq_ok_iff.mp opens
    cases target with
    | unnamed =>
      rw [openFile, found] at opens
      cases opens
    | named directory name slash =>
      rw [openFile_of_target found] at opens
      cases slash with
      | true => cases opens
      | false =>
        refine ⟨directory, name, found, ?_⟩
        simp only [Bool.false_eq_true, if_false] at opens
        split at opens
        · next absent =>
          obtain ⟨rfl, rfl⟩ := Prod.mk.inj (Except.ok.inj opens)
          exact ⟨rfl, .inl ⟨absent, rfl⟩⟩
        · next contents time there =>
          obtain ⟨rfl, rfl⟩ := Prod.mk.inj (Except.ok.inj opens)
          exact ⟨rfl, .inr ⟨⟨contents, time, there⟩, rfl⟩⟩
        · cases opens
  · rintro ⟨directory, name, found, rfl, ⟨absent, rfl⟩ | ⟨⟨contents, time, there⟩, rfl⟩⟩
    · simp [openFile_of_target found, absent]
    · simp [openFile_of_target found, there]

theorem exists_openFile_iff {fs : FileSystem} {now : Time} {path : Bytes} :
    (∃ opened, fs.openFile now path = .ok opened) ↔ fs.EndsFree path := by
  constructor
  · rintro ⟨⟨place, after⟩, opens⟩
    obtain ⟨directory, name, found, rfl, ⟨absent, _⟩ | ⟨⟨_, _, there⟩, _⟩⟩ := openFile_eq_ok_iff.mp opens
    · exact ⟨directory, name, found, by simp [isDirectory, absent]⟩
    · exact ⟨directory, name, found, by simp [isDirectory, there, Node.isDirectory]⟩
  · rintro ⟨directory, name, found, free⟩
    cases there : fs.node? (directory ++ [name]) with
    | none => exact ⟨_, openFile_eq_ok_iff.mpr ⟨directory, name, found, rfl, .inl ⟨there, rfl⟩⟩⟩
    | some node =>
      cases node with
      | file contents time =>
        exact ⟨_, openFile_eq_ok_iff.mpr ⟨directory, name, found, rfl, .inr ⟨⟨contents, time, there⟩, rfl⟩⟩⟩
      | directory time => simp [isDirectory, there, Node.isDirectory] at free

/-! ## Touched files -/

/-- A path leads to a file with a time, which holds what it held before, or nothing if it is new. Nothing
else has changed, but that the directory of a file that is new has the time at which it was created. -/
structure Touched (path : Bytes) (place : Location) (created time : Time) (before after : FileSystem) :
    Prop where
  leads : after.locate path = .ok place
  here : after.node? place = some (.file (before.contentsAt place) time)
  noDirectory : before.isDirectory place = false
  inDirectory : before.isDirectory place.dropLast = true
  others : ∀ other, other ≠ place → after.node? other =
    if before.node? place = none ∧ other = place.dropLast then some (.directory created)
    else before.node? other
  workingDirectory : after.workingDirectory = before.workingDirectory

/-- A file that is opened is there as it was, or it is new. -/
theorem touched_of_openFile {now : Time} {path : Bytes} {place : Location}
    (opens : before.openFile now path = .ok (place, after)) :
    ∃ time, Touched path place now time before after ∧
      (before.node? place = none ∧ time = now ∨
        before.node? place = some (.file (before.contentsAt place) time) ∧ after = before) := by
  obtain ⟨directory, name, found, rfl, opened⟩ := openFile_eq_ok_iff.mp opens
  obtain ⟨_, _, _, _, isDirectory, _⟩ := named_of_target found
  have inDirectory : before.isDirectory (directory ++ [name]).dropLast = true := by simpa using isDirectory
  rcases opened with ⟨absent, rfl⟩ | ⟨⟨contents, time, there⟩, rfl⟩
  · obtain ⟨node, parent, directory_node⟩ := isDirectory_eq_true_iff.mp isDirectory
    have apart : directory ≠ directory ++ [name] := by simp
    have here : (before.create now directory name (.file [] now)).node? (directory ++ [name]) =
        some (.file [] now) := by
      rw [create, node?_stamp_of_ne apart.symm, node?_put_self]
    have parent' : (before.create now directory name (.file [] now)).node? directory =
        some (.directory now) := by
      rw [create, node?_stamp_self ((node?_put_of_ne apart).trans parent)]
      cases node with
      | file contents time => cases directory_node
      | directory time => rfl
    have elsewhere {other : Location} (away : other ≠ directory ++ [name]) (above : other ≠ directory) :
        (before.create now directory name (.file [] now)).node? other = before.node? other := by
      rw [create, node?_stamp_of_ne above, node?_put_of_ne away]
    have grows : Grows before (before.create now directory name (.file [] now)) := by
      refine ⟨workingDirectory_stamp .., fun other node' there => ?_⟩
      have away : other ≠ directory ++ [name] := by
        rintro rfl
        cases absent.symm.trans there
      by_cases above : other = directory
      · subst above
        cases parent.symm.trans there
        exact ⟨_, parent', directory_node.symm⟩
      · exact ⟨node', (elsewhere away above).trans there, rfl⟩
    refine ⟨now, ⟨grows.locate_of_target found here, ?_, ?_, inDirectory, fun other away => ?_,
      grows.workingDirectory⟩, .inl ⟨absent, rfl⟩⟩
    · simp only [here, contentsAt, absent]
    · simp [FileSystem.isDirectory, absent]
    · rw [List.dropLast_concat]
      by_cases above : other = directory
      · rw [if_pos ⟨absent, above⟩, above, parent']
      · rw [if_neg (fun new => above new.2), elsewhere away above]
  · have contents_eq : before.contentsAt (directory ++ [name]) = contents := by simp [contentsAt, there]
    have old : before.node? (directory ++ [name]) ≠ none := by simp [there]
    refine ⟨time, ⟨?_, ?_, ?_, inDirectory, fun _ _ => ?_, rfl⟩, .inr ⟨?_, rfl⟩⟩
    · exact (Grows.mk rfl fun _ node there => ⟨node, there, rfl⟩ : Grows before before).locate_of_target found
        there
    · rw [there, contents_eq]
    · simp [FileSystem.isDirectory, there, Node.isDirectory]
    · rw [if_neg (fun new => old new.1)]
    · rw [there, contents_eq]

namespace Touched

variable {path : Bytes} {place : Location} {created time : Time}

theorem grows (touched : Touched path place created time before after) : Grows before after where
  workingDirectory := touched.workingDirectory
  nodes other node there := by
    by_cases here : other = place
    · subst here
      have noDirectory := touched.noDirectory
      rw [isDirectory, there] at noDirectory
      exact ⟨_, touched.here, noDirectory.symm⟩
    · have after_eq := touched.others other here
      split at after_eq
      · next new =>
        have directory := touched.inDirectory
        rw [← new.2, isDirectory, there] at directory
        exact ⟨_, after_eq, directory.symm⟩
      · exact ⟨node, after_eq.trans there, rfl⟩

theorem modified (touched : Touched path place created time before after) :
    after.modified path = .ok time :=
  modified_eq_ok_iff.mpr ⟨place, _, touched.leads, touched.here, rfl⟩

/-- What had a time has one. -/
theorem exists_modified (touched : Touched path place created time before after) {other : Bytes}
    {earlier : Time} (modified : before.modified other = .ok earlier) :
    ∃ later, after.modified other = .ok later := by
  obtain ⟨found, node, located, there, _⟩ := modified_eq_ok_iff.mp modified
  obtain ⟨node', there', _⟩ := touched.grows.nodes found node there
  exact ⟨_, modified_eq_ok_iff.mpr ⟨found, node', touched.grows.locate located, there', rfl⟩⟩

/-- The time of a touched file can be set once more. -/
theorem stamp (touched : Touched path place created time before after) (now : Time) :
    Touched path place created now before (after.stamp now place) where
  leads := (grows_stamp after now place).locate touched.leads
  here := node?_stamp_self touched.here
  noDirectory := touched.noDirectory
  inDirectory := touched.inDirectory
  others other away := by
    rw [node?_stamp_of_ne away]
    exact touched.others other away
  workingDirectory := (workingDirectory_stamp ..).trans touched.workingDirectory

end Touched

end GameTables.FileSystem
