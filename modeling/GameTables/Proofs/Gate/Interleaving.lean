import GameTables.Proofs.FileSystem.Writing
import GameTables.Proofs.Gate.Steps

/-!
# Edits between the steps of the gate

Others edit sources at any time, also while a command runs. Over any number of runs that share the
files with them, a run that finds everything up to date has seen every edit since the last touch of the
sentinel. An edit that lands between the start of a command and the touch after it is not seen: the
sentinel gets a later time than the source.
-/

namespace GameTables.Gate

/-! ## Histories -/

/-- A run of the gate in a history, and how its command ends. What the command does to files is among
the changes that are made while it runs. -/
structure Attempt where
  force : Bool
  program : Bytes
  arguments : List Bytes
  ending : Except FileError CommandEnd

variable {sources : List Bytes} {sentinel : Bytes}

def Attempt.run (attempt : Attempt) (o : Observed sources sentinel) :
    Except GateError Outcome × Observed sources sentinel :=
  o.run (fun _ host => (attempt.ending, host)) attempt.force (attempt.program :: attempt.arguments)

/-- The state after a history. -/
def afterAll (attempts : List Attempt) (o : Observed sources sentinel) : Observed sources sentinel :=
  attempts.foldl (fun o attempt => (attempt.run o).2) o

/-- What happened since the last touch, last first. -/
def sinceTouch (events : List Event) : List Event :=
  events.takeWhile (· ≠ .touched)

/-- What happened since the start of the last command that ended with status zero, last first. -/
def sinceSuccess (events : List Event) : List Event :=
  events.takeWhile (· ≠ .ended (.exited 0)) ++
    (events.dropWhile (· ≠ .ended (.exited 0))).takeWhile fun
      | .started _ => false
      | _ => true

def OnlyEdits (events : List Event) : Prop :=
  ∀ event ∈ events, ∃ source, event = .edited source

theorem onlyEdits_nil : OnlyEdits [] := fun _ here => absurd here List.not_mem_nil

/-- A command has ended with status zero, and nothing but edits has happened since. -/
def AfterSuccess (events : List Event) : Prop :=
  ∃ edits before, events = edits ++ .ended (.exited 0) :: before ∧ OnlyEdits edits

theorem AfterSuccess.append {events edits : List Event} (success : AfterSuccess events)
    (only : OnlyEdits edits) : AfterSuccess (edits ++ events) := by
  obtain ⟨first, before, rfl, only'⟩ := success
  exact ⟨edits ++ first, before, by simp, List.forall_mem_append.mpr ⟨only, only'⟩⟩

/-- A command has ended with status zero, and since then there were nothing but edits and at most one touch:
the creation of the sentinel, which comes before its time is set. -/
def ReadyToTouch (events : List Event) : Prop :=
  AfterSuccess events ∨
    ∃ edits earlier, events = edits ++ .touched :: earlier ∧ OnlyEdits edits ∧ AfterSuccess earlier

theorem ReadyToTouch.append {events edits : List Event} (ready : ReadyToTouch events)
    (only : OnlyEdits edits) : ReadyToTouch (edits ++ events) := by
  rcases ready with success | ⟨first, earlier, rfl, only', success⟩
  · exact .inl (success.append only)
  · exact .inr ⟨edits ++ first, earlier, by simp, List.forall_mem_append.mpr ⟨only, only'⟩, success⟩

/-- Every touch came after a command that ended with status zero, with nothing but edits in between and, where
it sets the time of the sentinel, at most the creation of it. -/
def TouchesFollowSuccess (events : List Event) : Prop :=
  ∀ later earlier, events = later ++ .touched :: earlier → ReadyToTouch earlier

namespace Observed

/-! ## Without a touch -/

/-- What may come of a state as long as the sentinel is not touched: a source that was edited has a time
that is later than all so far, and nothing else has another time. -/
structure Passes (o o' : Observed sources sentinel) (new : List Event) : Prop where
  events : o'.events = new ++ o.events
  untouched : .touched ∉ new
  clock : o.host.clock ≤ o'.host.clock
  sentinel : o'.host.files.modified sentinel = o.host.files.modified sentinel
  edited : ∀ source ∈ sources, .edited source ∈ new →
    ∃ time, o'.host.files.modified source = .ok time ∧ o.host.clock < time
  others : ∀ source ∈ sources, .edited source ∉ new →
    o'.host.files.modified source = o.host.files.modified source

variable {o o' o'' : Observed sources sentinel} {new more : List Event}

theorem Passes.refl (o : Observed sources sentinel) : Passes o o [] where
  events := rfl
  untouched := List.not_mem_nil
  clock := Int.le_refl _
  sentinel := rfl
  edited _ _ new := absurd new List.not_mem_nil
  others _ _ _ := rfl

theorem Passes.trans (first : Passes o o' new) (second : Passes o' o'' more) :
    Passes o o'' (more ++ new) where
  events := by rw [second.events, first.events, List.append_assoc]
  untouched := by simp [first.untouched, second.untouched]
  clock := Int.le_trans first.clock second.clock
  sentinel := second.sentinel.trans first.sentinel
  edited source here edited := by
    by_cases again : .edited source ∈ more
    · obtain ⟨time, modified, after⟩ := second.edited source here again
      exact ⟨time, modified, Int.lt_of_le_of_lt first.clock after⟩
    · have before : .edited source ∈ new := (List.mem_append.mp edited).resolve_left again
      obtain ⟨time, modified, after⟩ := first.edited source here before
      exact ⟨time, (second.others source here again).trans modified, after⟩
  others source here untouched := by
    rw [List.mem_append, not_or] at untouched
    exact (second.others source here untouched.1).trans (first.others source here untouched.2)

/-- A step that only writes something down. -/
theorem Passes.log {event : Event} (passes : Passes o o' new) (noTouch : event ≠ .touched)
    (noEdit : ∀ source, event ≠ .edited source) :
    Passes o { o' with events := event :: o'.events } (event :: new) := by
  have logged : Passes o' { o' with events := event :: o'.events } [event] := by
    refine ⟨rfl, ?_, Int.le_refl _, rfl, ?_, fun _ _ _ => rfl⟩
    · simpa using noTouch.symm
    · intro source _ edited
      exact absurd (List.mem_singleton.mp edited).symm (noEdit source)
  exact passes.trans logged

theorem passes_change (o : Observed sources sentinel) (change : Change) :
    ∃ edits, Passes o (o.change change) edits ∧ OnlyEdits edits := by
  unfold Observed.change
  simp only
  split
  · next allowed =>
    have later : o.host.clock < o.host.tick.clock := Int.lt_succ _
    refine ⟨_, ⟨rfl, by simp, Int.le_of_lt later, allowed.sentinel, ?_, ?_⟩, ?_⟩
    · intro source here edited
      have edited : source ∈ change.edited := by simpa [here] using edited
      exact ⟨_, (allowed.sources source here).trans (if_pos edited), later⟩
    · intro source here untouched
      have untouched : source ∉ change.edited := by simpa [here] using untouched
      exact (allowed.sources source here).trans (if_neg untouched)
    · intro event edit
      obtain ⟨source, _, rfl⟩ := List.mem_map.mp edit
      exact ⟨source, rfl⟩
  · exact ⟨[], .refl o, onlyEdits_nil⟩

theorem passes_others (o : Observed sources sentinel) :
    ∃ edits, Passes o o.others edits ∧ OnlyEdits edits := by
  have changes (changes : List Change) (o : Observed sources sentinel) :
      ∃ edits, Passes o (changes.foldl Observed.change o) edits ∧ OnlyEdits edits := by
    induction changes generalizing o with
    | nil => exact ⟨[], .refl o, onlyEdits_nil⟩
    | cons change rest ih =>
      obtain ⟨edits, passes, edit⟩ := passes_change o change
      obtain ⟨more, passes', edit'⟩ := ih (o.change change)
      exact ⟨more ++ edits, passes.trans passes', List.forall_mem_append.mpr ⟨edit', edit⟩⟩
  obtain ⟨edits, passes, edit⟩ := changes (o.coming.headD []) { o with coming := o.coming.tail }
  exact ⟨edits, ⟨passes.events, passes.untouched, passes.clock, passes.sentinel, passes.edited,
    passes.others⟩, edit⟩

theorem passes_tick (o : Observed sources sentinel) : Passes o { o with host := o.host.tick } [] where
  events := rfl
  untouched := List.not_mem_nil
  clock := Int.le_of_lt (Int.lt_succ _)
  sentinel := rfl
  edited _ _ new := absurd new List.not_mem_nil
  others _ _ _ := rfl

theorem passes_look (o : Observed sources sentinel) (path : Bytes) :
    ∃ edits, Passes o o.others edits ∧ Passes o (o.look path).2 (.looked path :: edits) := by
  obtain ⟨edits, passes, _⟩ := passes_others o
  exact ⟨edits, passes, (passes.trans (passes_tick o.others)).log (by simp) (by simp)⟩

theorem passes_launch (o : Observed sources sentinel) (command : List Bytes) :
    ∃ new, Passes o (o.launch command) new := by
  obtain ⟨edits, passes, _⟩ := passes_others o
  exact ⟨_, passes.log (by simp) (by simp)⟩

theorem passes_finish (o : Observed sources sentinel) (ending : Except FileError CommandEnd) :
    ∃ new, Passes o (finish (fun host => (ending, host)) o).2 new := by
  obtain ⟨edits, passes, _⟩ := passes_others o
  cases ending with
  | error e => exact ⟨edits, passes⟩
  | ok ending => exact ⟨_, passes.log (by simp) (by simp)⟩

/-! ## What every history keeps -/

/-- What is known of the sentinel and the sources at every moment: until the first touch the sentinel is
missing, and after a touch every source that was edited since is newer than the sentinel. -/
structure Kept (o : Observed sources sentinel) : Prop where
  exist : ∀ source ∈ sources, ∃ time, o.host.files.modified source = .ok time
  untouched : .touched ∉ o.events → o.host.files.modified sentinel = .error .notFound
  touched : .touched ∈ o.events → ∃ stamp, o.host.files.modified sentinel = .ok stamp ∧
    stamp ≤ o.host.clock ∧ ∀ source ∈ sources, .edited source ∈ sinceTouch o.events →
      ∃ time, o.host.files.modified source = .ok time ∧ stamp < time
  success : TouchesFollowSuccess o.events

theorem sinceTouch_append {events : List Event} (untouched : .touched ∉ new) :
    sinceTouch (new ++ events) = new ++ sinceTouch events := by
  unfold sinceTouch
  rw [List.takeWhile_append_of_pos]
  intro event here
  simpa using fun same : event = .touched => untouched (same ▸ here)

/-- A touch among events with newer ones that are no touches is among the older ones. -/
theorem split_of_untouched {events later earlier : List Event} (untouched : .touched ∉ new)
    (split : new ++ events = later ++ .touched :: earlier) :
    ∃ between, events = between ++ .touched :: earlier := by
  rcases List.append_eq_append_iff.mp split with ⟨between, _, rest⟩ | ⟨between, rfl, rest⟩
  · exact ⟨between, rest⟩
  · cases between with
    | nil => exact ⟨[], rest.symm⟩
    | cons event between =>
      cases rest
      exact absurd (by simp) untouched

theorem touchesFollowSuccess_append {events : List Event} (untouched : .touched ∉ new)
    (success : TouchesFollowSuccess events) : TouchesFollowSuccess (new ++ events) := by
  intro later earlier split
  obtain ⟨between, split⟩ := split_of_untouched untouched split
  exact success between earlier split

theorem Kept.passes (kept : Kept o) (passes : Passes o o' new) : Kept o' where
  exist source here := by
    by_cases edited : .edited source ∈ new
    · obtain ⟨time, modified, _⟩ := passes.edited source here edited
      exact ⟨time, modified⟩
    · rw [passes.others source here edited]
      exact kept.exist source here
  untouched none := by
    rw [passes.events, List.mem_append, not_or] at none
    exact passes.sentinel.trans (kept.untouched none.2)
  touched some := by
    rw [passes.events, List.mem_append] at some
    obtain ⟨stamp, modified, past, newer⟩ := kept.touched (some.resolve_left passes.untouched)
    refine ⟨stamp, passes.sentinel.trans modified, Int.le_trans past passes.clock, ?_⟩
    intro source here edited
    by_cases again : .edited source ∈ new
    · obtain ⟨time, modified, after⟩ := passes.edited source here again
      exact ⟨time, modified, Int.lt_of_le_of_lt past after⟩
    · rw [passes.events, sinceTouch_append passes.untouched, List.mem_append] at edited
      rw [passes.others source here again]
      exact newer source here (edited.resolve_left again)
  success := passes.events ▸ touchesFollowSuccess_append passes.untouched kept.success

/-- The sentinel has a time, which is not later than the clock. -/
def Stamped (o : Observed sources sentinel) : Prop :=
  ∃ stamp, o.host.files.modified sentinel = .ok stamp ∧ stamp ≤ o.host.clock

theorem Stamped.passes (stamped : Stamped o) (passes : Passes o o' new) : Stamped o' := by
  obtain ⟨stamp, modified, past⟩ := stamped
  exact ⟨stamp, passes.sentinel.trans modified, Int.le_trans past passes.clock⟩

/-- A sentinel that is there has been touched before. -/
theorem Kept.stamped (kept : Kept o) {stamp : Time}
    (there : o.host.files.modified sentinel = .ok stamp) : Stamped o := by
  by_cases touched : .touched ∈ o.events
  · obtain ⟨stamp, modified, past, _⟩ := kept.touched touched
    exact ⟨stamp, modified, past⟩
  · cases there.symm.trans (kept.untouched touched)

/-- A new time of the sentinel is written down last, when everything is ready for it. -/
theorem kept_of_touched {earlier : List Event} (events : o.events = .touched :: earlier)
    (success : TouchesFollowSuccess earlier) (ready : ReadyToTouch earlier)
    (exist : ∀ source ∈ sources, ∃ time, o.host.files.modified source = .ok time) (stamped : Stamped o) :
    Kept o where
  exist := exist
  untouched none := absurd (events ▸ List.mem_cons_self) none
  touched _ := by
    obtain ⟨stamp, modified, past⟩ := stamped
    refine ⟨stamp, modified, past, fun source _ edited => ?_⟩
    simp [events, sinceTouch] at edited
  success later before split := by
    rw [events] at split
    cases later with
    | nil =>
      cases split
      exact ready
    | cons event later =>
      obtain ⟨-, split⟩ := List.cons_eq_cons.mp split
      exact success later before split

/-- The sentinel is opened right after a command that ended with status zero. If it is new this is a
touch. -/
theorem kept_openSentinel (kept : Kept o) (success : AfterSuccess o.events) :
    Kept o.openSentinel.2 ∧ ∀ place, o.openSentinel.1 = .ok place →
      ReadyToTouch o.openSentinel.2.events ∧ Stamped o.openSentinel.2 := by
  obtain ⟨edits, passes, only⟩ := passes_others o
  have kept := kept.passes passes
  have success : AfterSuccess o.others.events := passes.events ▸ success.append only
  rw [openSentinel_eq]
  cases came : o.others.host.outcome .work (opening sentinel) with
  | error e => exact ⟨kept.passes (passes_tick _), nofun⟩
  | ok opened =>
    obtain ⟨place, files⟩ := opened
    obtain ⟨time, touched, new | ⟨there, same⟩⟩ :=
      FileSystem.touched_of_openFile (Host.operation_of_outcome came)
    · obtain ⟨absent, rfl⟩ := new
      have created : onCreation o.others.host (.ok place) = [.touched] := by simp [onCreation, absent]
      simp only [created, List.singleton_append]
      refine ⟨kept_of_touched rfl kept.success (.inl success) (fun source here => ?_) ?_, fun _ _ => ⟨?_, ?_⟩⟩
      · obtain ⟨time, modified⟩ := kept.exist source here
        exact touched.exists_modified modified
      · exact ⟨_, touched.modified, Int.le_refl _⟩
      · exact .inr ⟨[], _, rfl, onlyEdits_nil, success⟩
      · exact ⟨_, touched.modified, Int.le_refl _⟩
    · have quiet : onCreation o.others.host (.ok place) = [] := by simp [onCreation, there]
      have modified := touched.modified
      simp only [quiet, List.nil_append]
      subst same
      exact ⟨kept.passes (passes_tick _), fun _ _ => ⟨.inl success, (kept.passes (passes_tick _)).stamped modified⟩⟩

/-- The time of the sentinel is set after it was opened. -/
theorem kept_stampSentinel (kept : Kept o) (ready : ReadyToTouch o.events) (stamped : Stamped o)
    (place : Location) : Kept (o.stampSentinel place).2 := by
  obtain ⟨edits, passes, only⟩ := passes_others o
  have kept := kept.passes passes
  have stamped := stamped.passes passes
  have ready : ReadyToTouch o.others.events := passes.events ▸ ready.append only
  rw [stampSentinel_eq]
  cases o.others.host.outages .work o.others.host.tick.clock with
  | some outage => exact kept.passes (passes_tick _)
  | none =>
    have later : o.others.host.clock < o.others.host.tick.clock := Int.lt_succ _
    refine kept_of_touched rfl kept.success ready (fun source here => ?_) ?_
    · obtain ⟨time, modified⟩ := kept.exist source here
      rcases FileSystem.modified_stamp place modified with same | now
      · exact ⟨_, same⟩
      · exact ⟨_, now⟩
    · obtain ⟨stamp, modified, past⟩ := stamped
      rcases FileSystem.modified_stamp place modified with same | now
      · exact ⟨_, same, Int.le_trans past (Int.le_of_lt later)⟩
      · exact ⟨_, now, Int.le_refl _⟩

/-- A touch right after a command that ended with status zero. -/
theorem kept_touch (kept : Kept o) (success : AfterSuccess o.events) : Kept o.touch.2 := by
  obtain ⟨opened, next⟩ := kept_openSentinel kept success
  rw [touch]
  generalize o.openSentinel = ended at opened next ⊢
  obtain ⟨e | place, o'⟩ := ended
  · exact opened
  · obtain ⟨ready, stamped⟩ := next place rfl
    exact kept_stampSentinel opened ready stamped place

/-! ## Looks -/

/-- Among new events there is a look at a source, and when it was looked at no edit had been made to it
since the last touch. -/
def Seen (events new : List Event) (source : Bytes) : Prop :=
  ∃ later earlier, new = later ++ .looked source :: earlier ∧
    .edited source ∉ sinceTouch (earlier ++ events)

theorem Seen.append {events : List Event} {source : Bytes} (seen : Seen (new ++ events) more source) :
    Seen events (more ++ new) source := by
  obtain ⟨later, earlier, rfl, unedited⟩ := seen
  exact ⟨later, earlier ++ new, by simp, by simpa using unedited⟩

theorem passes_lookForNewer (stamp : Time) (paths : List Bytes) (o : Observed sources sentinel) :
    ∃ new, Passes o (lookForNewer stamp paths o).2 new := by
  induction paths generalizing o with
  | nil => exact ⟨[], .refl o⟩
  | cons path rest ih =>
    obtain ⟨edits, _, passes⟩ := passes_look o path
    rw [lookForNewer]
    rcases looked : o.look path with ⟨e | modified, o'⟩
    · rw [looked] at passes
      exact ⟨_, passes⟩
    · rw [looked] at passes
      simp only
      split
      · exact ⟨_, passes⟩
      · obtain ⟨new, passes'⟩ := ih o'
        exact ⟨_, passes.trans passes'⟩

/-- Sources of which none is newer than the sentinel were seen after all edits since the last touch. -/
theorem seen_of_lookForNewer (kept : Kept o) (touched : .touched ∈ o.events) {stamp : Time}
    (modified : o.host.files.modified sentinel = .ok stamp) {paths : List Bytes}
    (within : ∀ path ∈ paths, path ∈ sources) (none : lookForNewer stamp paths o = (.ok false, o')) :
    ∃ new, Passes o o' new ∧ ∀ path ∈ paths, Seen o.events new path := by
  induction paths generalizing o with
  | nil =>
    cases none
    exact ⟨[], .refl _, by simp⟩
  | cons path rest ih =>
    obtain ⟨here, within⟩ := List.forall_mem_cons.mp within
    obtain ⟨edits, passes, passes_look⟩ := passes_look o path
    have kept' := kept.passes passes
    have touched' : .touched ∈ o.others.events := passes.events ▸ List.mem_append_right edits touched
    rw [lookForNewer, look] at none
    cases seen : o.others.host.timeOf path with
    | error e => simp [seen] at none
    | ok time =>
      have looked : o.others.host.files.modified path = .ok time := Host.modified_of_timeOf seen
      by_cases newer : stamp < time
      · simp [seen, newer] at none
      · simp only [seen, if_neg newer] at none
        have unedited : .edited path ∉ sinceTouch o.others.events := by
          intro edited
          obtain ⟨stamp', modified', _, newer'⟩ := kept'.touched touched'
          obtain ⟨time', looked', after⟩ := newer' path here edited
          cases (passes.sentinel.trans modified).symm.trans modified'
          cases looked.symm.trans looked'
          exact newer after
        obtain ⟨new, passes_rest, seen⟩ := ih (kept.passes passes_look)
          (passes_look.events ▸ List.mem_append_right _ touched) (passes_look.sentinel.trans modified)
          within none
        refine ⟨new ++ .looked path :: edits, passes_look.trans passes_rest, ?_⟩
        rw [List.forall_mem_cons]
        constructor
        · exact ⟨new, edits, rfl, passes.events ▸ unedited⟩
        · intro other there
          have seen := seen other there
          rw [passes_look.events] at seen
          exact seen.append

theorem passes_lookAround (o : Observed sources sentinel) : ∃ new, Passes o o.lookAround.2 new := by
  obtain ⟨edits, _, passes⟩ := passes_look o sentinel
  rw [lookAround]
  rcases looked : o.look sentinel with ⟨e | stamp, o'⟩
  · rw [looked] at passes
    cases e <;> exact ⟨_, passes⟩
  · rw [looked] at passes
    obtain ⟨new, passes'⟩ := passes_lookForNewer stamp sources o'
    exact ⟨_, passes.trans passes'⟩

theorem seen_of_lookAround (kept : Kept o) (none : o.lookAround = (.ok false, o')) :
    .touched ∈ o.events ∧ ∃ new, Passes o o' new ∧ ∀ source ∈ sources, Seen o.events new source := by
  obtain ⟨edits, _, passes⟩ := passes_look o sentinel
  rw [lookAround] at none
  rcases looked : o.look sentinel with ⟨e | stamp, o''⟩
  · rw [looked] at none
    cases e <;> cases none
  · rw [looked] at none passes
    have modified : o''.host.files.modified sentinel = .ok stamp := by
      obtain ⟨modified, rfl⟩ := Prod.mk.inj looked
      exact @Host.modified_of_timeOf o.others.host sentinel stamp modified
    have touched : .touched ∈ o''.events := by
      by_cases touched : .touched ∈ o''.events
      · exact touched
      · cases modified.symm.trans ((kept.passes passes).untouched touched)
    obtain ⟨new, passes', seen⟩ :=
      seen_of_lookForNewer (kept.passes passes) touched modified (fun _ here => here) none
    rw [passes.events] at touched seen
    exact ⟨(List.mem_append.mp touched).resolve_left passes.untouched, _, passes.trans passes',
      fun source here => (seen source here).append⟩

/-! ## Runs -/

theorem kept_regenerate (kept : Kept o) (ending : Except FileError CommandEnd) (program : Bytes)
    (rest : List Bytes) : Kept (o.regenerate (fun _ host => (ending, host)) program rest).2 := by
  obtain ⟨_, launched⟩ := passes_launch o (program :: rest)
  obtain ⟨_, finished⟩ := passes_finish (o.launch (program :: rest)) ending
  have kept := (kept.passes launched).passes finished
  rw [regenerate]
  cases ending with
  | error e => exact kept
  | ok ending =>
    cases ending with
    | killed => exact kept
    | exited status =>
      rw [finish_eq] at kept ⊢
      by_cases failed : status ≠ 0
      · simp only [if_pos failed]
        exact kept
      · obtain rfl := Decidable.not_not.mp failed
        have kept := kept_touch kept ⟨[], _, rfl, onlyEdits_nil⟩
        simp only [if_neg failed]
        generalize (touch _ : Except FileError Unit × Observed sources sentinel) = touched at kept ⊢
        rcases touched with ⟨_ | _, o'⟩ <;> exact kept

theorem kept_run (kept : Kept o) (attempt : Attempt) : Kept (attempt.run o).2 := by
  rw [Attempt.run, run_eq]
  split
  · cases attempt.force with
    | true => exact kept_regenerate kept attempt.ending attempt.program attempt.arguments
    | false =>
      obtain ⟨new, passes⟩ := passes_lookAround o
      simp only [Bool.false_eq_true, if_false]
      rcases looked : o.lookAround with ⟨e | due, o'⟩
      · rw [looked] at passes
        exact kept.passes passes
      · rw [looked] at passes
        cases due with
        | false => exact kept.passes passes
        | true =>
          exact kept_regenerate (kept.passes passes) attempt.ending attempt.program attempt.arguments
  · exact kept

theorem kept_afterAll (kept : Kept o) (attempts : List Attempt) : Kept (afterAll attempts o) := by
  induction attempts generalizing o with
  | nil => exact kept
  | cons attempt rest ih => exact ih (kept_run kept attempt)

/-- Before anything has happened: the sources exist and the sentinel does not. -/
theorem kept_of_fresh (fresh : o.events = [])
    (exist : ∀ source ∈ sources, ∃ time, o.host.files.modified source = .ok time)
    (absent : o.host.files.modified sentinel = .error .notFound) : Kept o where
  exist := exist
  untouched _ := absent
  touched some := by simp [fresh] at some
  success later earlier split := by simp [fresh] at split

theorem seen_of_upToDate (kept : Kept o) {attempt : Attempt} (unforced : attempt.force = false)
    (upToDate : (attempt.run o).1 = .ok .upToDate) :
    .touched ∈ o.events ∧ ∃ new, Passes o (attempt.run o).2 new ∧
      ∀ source ∈ sources, Seen o.events new source := by
  rw [Attempt.run, unforced] at upToDate ⊢
  exact seen_of_lookAround kept (lookAround_of_upToDate upToDate)

end Observed

open Observed

/-- In every history of runs and edits that begins without a sentinel: a run that is not forced and finds
everything up to date comes after a touch, which a command that ended with status zero had led to, and
this run has looked at every source at a moment when no edit had been made to it since that touch. -/
theorem upToDate_sees_every_edit (o : Observed sources sentinel) (fresh : o.events = [])
    (exist : ∀ source ∈ sources, ∃ time, o.host.files.modified source = .ok time)
    (absent : o.host.files.modified sentinel = .error .notFound) (attempts : List Attempt) (last : Attempt)
    (unforced : last.force = false)
    (upToDate : (last.run (afterAll attempts o)).1 = .ok .upToDate) :
    .touched ∈ (afterAll attempts o).events ∧
    TouchesFollowSuccess (afterAll attempts o).events ∧
    ∃ new, (last.run (afterAll attempts o)).2.events = new ++ (afterAll attempts o).events ∧
      .touched ∉ new ∧ ∀ source ∈ sources, Seen (afterAll attempts o).events new source := by
  have kept := kept_afterAll (kept_of_fresh fresh exist absent) attempts
  obtain ⟨touched, new, passes, seen⟩ := seen_of_upToDate kept unforced upToDate
  exact ⟨touched, kept.success, new, passes.events, passes.untouched, seen⟩

/-- A host on which others change the source `a` before some of the steps. There is another source `b`,
and no sentinel `S`. -/
def sampleHistory (coming : List (List Change)) : Observed [[97], [98]] [83] where
  host := { Host.start 5 with
    files := ((FileSystem.start 5).put [[119, 111, 114, 107], [97]] (.file [49] 5)).put
      [[119, 111, 114, 107], [98]] (.file [49] 5) }
  coming := coming
  events := []

def sampleEdit : Change where
  edited := [[97]]
  apply now files := (files.write now [97] [50]).toOption.getD files

def sampleAttempt : Attempt where
  force := false
  program := [102]
  arguments := []
  ending := .ok (.exited 0)

/-- The edit comes after the first touch and is seen by the second run. -/
theorem upToDate_sees_every_edit_sample :
    let before := afterAll [sampleAttempt, sampleAttempt] (sampleHistory [[], [], [], [], [], [sampleEdit]])
    .edited [97] ∈ before.events ∧ (sampleAttempt.run before).1 = .ok .upToDate ∧
      .touched ∈ before.events ∧ TouchesFollowSuccess before.events ∧
      ∃ new, (sampleAttempt.run before).2.events = new ++ before.events ∧ .touched ∉ new ∧
        ∀ source ∈ [[97], [98]], Seen before.events new source := by
  refine ⟨by decide +kernel, rfl, ?_⟩
  exact upToDate_sees_every_edit (sampleHistory [[], [], [], [], [], [sampleEdit]]) rfl
    (by simpa using ⟨⟨5, rfl⟩, ⟨5, rfl⟩⟩) rfl [sampleAttempt, sampleAttempt] sampleAttempt rfl rfl

/-- A run that finds everything up to date leaves no edit behind, of those since an earlier moment. -/
def LeavesNoEdit (since : List Event → List Event) : Prop :=
  ∀ (sources : List Bytes) (sentinel : Bytes) (o : Observed sources sentinel),
    isSentinel sentinel = true → o.events = [] →
    (∀ source ∈ sources, ∃ time, o.host.files.modified source = .ok time) →
    o.host.files.modified sentinel = .error .notFound →
    ∀ (attempts : List Attempt) (last : Attempt), last.force = false →
      (last.run (afterAll attempts o)).1 = .ok .upToDate →
      ∀ source ∈ sources, .edited source ∉ since (last.run (afterAll attempts o)).2.events

/-- An edit between the start of a command and the touch after it is left behind, and so is an edit of a
source that the run has already looked at. -/
theorem edits_left_behind : ¬ LeavesNoEdit sinceSuccess ∧ ¬ LeavesNoEdit sinceTouch := by
  have exist (coming : List (List Change)) : ∀ source ∈ [[97], [98]],
      ∃ time, (sampleHistory coming).host.files.modified source = .ok time := by
    simpa using ⟨⟨5, rfl⟩, ⟨5, rfl⟩⟩
  constructor
  · intro every
    have unedited := every _ _ (sampleHistory [[], [], [sampleEdit]]) rfl rfl (exist _) rfl
      [sampleAttempt] sampleAttempt rfl rfl [97] List.mem_cons_self
    revert unedited
    decide +kernel
  · intro every
    have unedited := every _ _ (sampleHistory [[], [], [], [], [], [], [], [sampleEdit]]) rfl rfl (exist _)
      rfl [sampleAttempt] sampleAttempt rfl rfl [97] List.mem_cons_self
    revert unedited
    decide +kernel

end GameTables.Gate
