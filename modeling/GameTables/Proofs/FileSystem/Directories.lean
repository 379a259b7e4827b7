import GameTables.Proofs.FileSystem.Kept
import GameTables.Proofs.FileSystem.Paths

/-!
# New directories

A directory that is made at a path is found there. Of all that was there nothing changes, so that paths
that led somewhere lead there still.
-/

namespace GameTables.FileSystem

variable {before middle after fs : FileSystem} {place : Location} {path : Bytes} {paths : List Bytes}
  {now : Time}

/-- Separators at the end stay in a directory. -/
theorem walk_blanks (directory : fs.isDirectory place = true) {blanks : List Bytes}
    (blank : ∀ segment ∈ blanks, segment = []) : fs.walk place blanks = .ok place := by
  induction blanks with
  | nil => rfl
  | cons segment rest ih =>
    obtain ⟨first, later⟩ := List.forall_mem_cons.mp blank
    simp [walk, directory, first, ih later]

theorem Grows.locate_of_isDirectory (grows : Grows before after) {name : Bytes} {directory : Location}
    {slash : Bool} (target : before.target path = .ok (.named directory name slash))
    (made : after.isDirectory (directory ++ [name]) = true) :
    after.locate path = .ok (directory ++ [name]) := by
  obtain ⟨node, there, _⟩ := isDirectory_eq_true_iff.mp made
  obtain ⟨blanks, blank, _, followed⟩ := grows.locate_eq_walk target there
  rw [followed, walk_blanks made blank]

/-! ## Names in a directory -/

/-- A byte string that a path steps into. -/
structure IsName (name : Bytes) : Prop where
  nonempty : name ≠ []
  notHere : name ≠ Path.here
  notUp : name ≠ Path.up
  noSeparator : Path.separator ∉ name

/-- A path to a name in a directory leads to a place of that name. -/
theorem eq_concat_of_locate_join {name : Bytes} (named : IsName name)
    (leads : fs.locate (Path.join path name) = .ok place) : ∃ directory, place = directory ++ [name] := by
  obtain ⟨above, segments⟩ := Path.segments_join path named.noSeparator
  obtain ⟨_, _, walked⟩ := bind_eq_ok_iff.mp leads
  rw [segments, walk_append] at walked
  obtain ⟨directory, _, walked⟩ := bind_eq_ok_iff.mp walked
  obtain ⟨_, next, leads, walked⟩ := walk_cons_eq_ok_iff.mp walked
  cases walked
  cases leads with
  | stays _ blank => exact absurd blank (not_or.mpr ⟨named.nonempty, named.notHere⟩)
  | up => exact absurd rfl named.notUp
  | down => exact ⟨directory, rfl⟩

/-! ## Ways that are opened -/

/-- A place has come to be a directory to which one of some paths leads. -/
structure Made (paths : List Bytes) (before after : FileSystem) (place : Location) : Prop where
  absent : before.node? place = none
  directory : after.isDirectory place = true
  leads : ∃ path ∈ paths, after.locate path = .ok place

/-- Nothing has changed but that there are new directories at some paths. -/
structure Opened (paths : List Bytes) (before after : FileSystem) : Prop where
  grows : Grows before after
  others : ∀ place, after.item? place = before.item? place ∨ Made paths before after place

theorem Opened.refl (paths : List Bytes) (fs : FileSystem) : Opened paths fs fs :=
  ⟨.refl fs, fun _ => .inl rfl⟩

theorem Made.later (made : Made paths before middle place) (grows : Grows middle after) :
    Made paths before after place := by
  obtain ⟨path, here, leads⟩ := made.leads
  exact ⟨made.absent, grows.isDirectory made.directory, path, here, grows.locate leads⟩

theorem Opened.trans (first : Opened paths before middle) (second : Opened paths middle after) :
    Opened paths before after where
  grows := first.grows.trans second.grows
  others place := by
    rcases first.others place with same | made
    · rcases second.others place with same' | made
      · exact .inl (same'.trans same)
      · exact .inr ⟨node?_eq_none_iff_item?.mpr (same ▸ node?_eq_none_iff_item?.mp made.absent),
          made.directory, made.leads⟩
    · exact .inr (made.later second.grows)

/-- A path that leads somewhere ends in no name, or in the name of what is there. -/
theorem target_of_locate (leads : fs.locate path = .ok place) :
    fs.target path = .ok .unnamed ∨ ∃ directory name slash,
      fs.target path = .ok (.named directory name slash) ∧ fs.node? (directory ++ [name]) ≠ none := by
  obtain ⟨_, checked, walked⟩ := bind_eq_ok_iff.mp leads
  cases backwards : (Path.segments path).reverse.dropWhile (· = []) with
  | nil => simp [target, checked, backwards, bind, Except.bind, pure, Except.pure]
  | cons name above =>
    obtain ⟨nonempty, blanks, _, _, whole⟩ := segments_of_backwards backwards
    rw [whole, walk_append] at walked
    obtain ⟨directory, reaches, onward⟩ := bind_eq_ok_iff.mp walked
    obtain ⟨isDirectory, _, leads, _⟩ := walk_cons_eq_ok_iff.mp onward
    cases leads with
    | stays _ blank =>
      exact .inl (target_eq_unnamed checked backwards reaches isDirectory (.inl (blank.resolve_left nonempty)))
    | up => exact .inl (target_eq_unnamed checked backwards reaches isDirectory (.inr rfl))
    | down _ node moves notUp short there =>
      refine .inr ⟨directory, name, _, target_eq_named checked backwards reaches isDirectory ?_ short, ?_⟩
      · exact ⟨(not_or.mp moves).2, notUp⟩
      · rw [there]
        exact Option.some_ne_none node

theorem exists_locate_of_leadsToDirectory (leads : fs.leadsToDirectory path = true) :
    ∃ place, fs.locate path = .ok place := by
  unfold leadsToDirectory nodeAt at leads
  cases located : fs.locate path with
  | error e => simp [located, bind, Except.bind] at leads
  | ok place => exact ⟨place, rfl⟩

/-- What is there already cannot be made. -/
theorem makeDirectory_of_locate (leads : fs.locate path = .ok place) :
    fs.makeDirectory now path = .error .alreadyExists := by
  rcases target_of_locate leads with found | ⟨directory, name, slash, found, there⟩
  · rw [makeDirectory, found]
    rfl
  · rw [makeDirectory, found]
    simp [bind, Except.bind, Option.isSome_iff_ne_none.mpr there, throw, throwThe, MonadExceptOf.throw]

/-- A directory that is made is found at its path. -/
theorem opened_of_makeDirectory (listed : path ∈ paths) (makes : before.makeDirectory now path = .ok after) :
    Opened paths before after := by
  obtain ⟨target, found, makes⟩ := bind_eq_ok_iff.mp makes
  cases target with
  | unnamed => cases makes
  | named directory name slash =>
    obtain ⟨absent, makes⟩ := throw_or_eq_ok_iff.mp makes
    cases makes
    have absent : before.node? (directory ++ [name]) = none := by simpa using absent
    obtain ⟨_, _, _, _, isDirectory, _⟩ := named_of_target found
    have put := sameBut_put before (directory ++ [name]) (.directory now)
    have still := (put.isDirectory (show directory ∉ [directory ++ [name]] by simp)).trans isDirectory
    have same : SameBut [directory ++ [name]] before (before.create now directory name (.directory now)) :=
      put.trans (sameBut_stamp now still)
    have made : (before.create now directory name (.directory now)).isDirectory (directory ++ [name]) =
        true := by
      rw [create, isDirectory_eq_true_iff]
      exact ⟨_, (node?_stamp_of_ne (by simp)).trans (node?_put_self ..), rfl⟩
    have grows : Grows before (before.create now directory name (.directory now)) := by
      refine same.grows fun place here node there => ?_
      rw [List.mem_singleton.mp here, absent] at there
      cases there
    refine ⟨grows, fun place => ?_⟩
    by_cases here : place = directory ++ [name]
    · subst here
      exact .inr ⟨absent, made, path, listed, grows.locate_of_isDirectory found made⟩
    · exact .inl (same.items place (by simpa using here))

end GameTables.FileSystem
