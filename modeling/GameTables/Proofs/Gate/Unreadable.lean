import GameTables.Proofs.Gate.Run

/-!
# Sources without a time

A source that is missing, or whose time cannot be had for another reason, is never taken for one that is
older than the sentinel. A run that comes to it ends there. A forced run does not come to any source.
-/

namespace GameTables.Gate

/-- Times are told of all paths, and none is newer than a time. -/
def NoneNewer (host : Host) (stamp : Time) (paths : List Bytes) : Prop :=
  ∀ path ∈ paths, ∃ time, host.Tells path (.ok time) ∧ time ≤ stamp

/-- No time is told of a source, and none of the sources before it is newer than a time. -/
def FirstUnread (host : Host) (stamp : Time) (sources : List Bytes) (source : Bytes) (e : FileError) : Prop :=
  ∃ before after, sources = before ++ source :: after ∧ host.Tells source (.error e) ∧
    NoneNewer host stamp before

/-- A source is newer than a time, and times are told of the sources before it. -/
def FirstNewer (host : Host) (stamp : Time) (sources : List Bytes) : Prop :=
  ∃ before source after time, sources = before ++ source :: after ∧ host.Tells source (.ok time) ∧
    stamp < time ∧ NoneNewer host stamp before

namespace Observed

variable {sources : List Bytes} {sentinel : Bytes} {o : Observed sources sentinel}

/-- A run has ended with an error, has started no command and has let nothing but the clock move on. -/
structure Refuses (host : Host) (e : GateError) (ran : Except GateError Outcome × Observed sources sentinel) :
    Prop where
  result : ran.1 = .error e
  commands : ran.2.commands = []
  host : ∃ looks, ran.2.host = host.later looks

/-- Sources that are not newer are passed over. -/
theorem lookForNewer_append (alone : o.coming = []) {stamp : Time} {before : List Bytes}
    (old : NoneNewer o.host stamp before) (rest : List Bytes) :
    ∃ looks, lookForNewer stamp (before ++ rest) o = lookForNewer stamp rest (o.looked looks) := by
  induction before generalizing o with
  | nil => exact ⟨[], by rw [looked_nil, List.nil_append]⟩
  | cons path before ih =>
    obtain ⟨⟨time, tells, older⟩, old⟩ := List.forall_mem_cons.mp old
    have timed : o.host.timeOf path = .ok time := tells _
    obtain ⟨looks, passed⟩ := ih (o := o.looked [path]) alone old
    refine ⟨looks ++ [path], ?_⟩
    rw [List.cons_append, lookForNewer, look_of_alone alone, timed]
    simp only [Int.not_lt.mpr older, if_false, passed, looked_looked]

/-- The look at sources ends with the first one of which no time is told, if none before it is newer. -/
theorem lookForNewer_of_firstUnread (alone : o.coming = []) {stamp : Time} {paths : List Bytes}
    {source : Bytes} {e : FileError} (unread : FirstUnread o.host stamp paths source e) :
    ∃ looks, lookForNewer stamp paths o = (.error (.source source e), o.looked looks) := by
  obtain ⟨before, after, rfl, tells, old⟩ := unread
  obtain ⟨looks, passed⟩ := lookForNewer_append alone old (source :: after)
  have untimed : (o.looked looks).host.timeOf source = .error e := tells _
  exact ⟨[source] ++ looks, by rw [passed, lookForNewer, look_of_alone (by exact alone), untimed, looked_looked]⟩

theorem lookForNewer_of_firstNewer (alone : o.coming = []) {stamp : Time} {paths : List Bytes}
    (newer : FirstNewer o.host stamp paths) :
    ∃ looks, lookForNewer stamp paths o = (.ok true, o.looked looks) := by
  obtain ⟨before, source, after, time, rfl, tells, newer, old⟩ := newer
  obtain ⟨looks, passed⟩ := lookForNewer_append alone old (source :: after)
  have timed : (o.looked looks).host.timeOf source = .ok time := tells _
  refine ⟨[source] ++ looks, ?_⟩
  rw [passed, lookForNewer, look_of_alone (by exact alone), timed]
  simp only [newer, if_true, looked_looked]

theorem lookAround_of_stamp (alone : o.coming = []) {stamp : Time} {result : Except GateError Bool}
    (modified : o.host.timeOf sentinel = .ok stamp)
    (looked : ∃ looks, lookForNewer stamp sources (o.looked [sentinel]) =
      (result, (o.looked [sentinel]).looked looks)) :
    ∃ looks, o.lookAround = (result, o.looked looks) := by
  obtain ⟨looks, seen⟩ := looked
  refine ⟨looks ++ [sentinel], ?_⟩
  rw [lookAround, look_of_alone alone, modified]
  simp only [seen, looked_looked]

/-- Times were told of all sources if none is found to be newer. -/
theorem times_of_lookForNewer (alone : o.coming = []) {stamp : Time} {paths : List Bytes}
    (none : (lookForNewer stamp paths o).1 = .ok false) :
    ∀ path ∈ paths, ∃ now time, o.host.timeAt path now = .ok time := by
  induction paths generalizing o with
  | nil => simp
  | cons path rest ih =>
    rw [lookForNewer, look_of_alone alone] at none
    cases timed : o.host.timeOf path with
    | error e =>
      rw [timed] at none
      cases none
    | ok time =>
      rw [timed] at none
      by_cases newer : stamp < time
      · simp [newer] at none
      · simp only [newer, if_false] at none
        exact List.forall_mem_cons.mpr ⟨⟨_, time, timed⟩, ih (o := o.looked [path]) alone none⟩

/-- A run that is not forced and finds everything up to date has read the times of all sources. -/
theorem times_of_upToDate (alone : o.coming = [])
    {behaviour : List Bytes → StateM Host (Except FileError CommandEnd)} {command : List Bytes}
    (upToDate : (o.run behaviour false command).1 = .ok .upToDate) :
    ∀ source ∈ sources, ∃ now time, o.host.timeAt source now = .ok time := by
  have none := lookAround_of_upToDate upToDate
  rw [lookAround, look_of_alone alone] at none
  cases modified : o.host.timeOf sentinel with
  | error e =>
    rw [modified] at none
    cases e <;> cases none
  | ok stamp =>
    rw [modified] at none
    exact times_of_lookForNewer (o := o.looked [sentinel]) alone (congrArg Prod.fst none)

/-- An error of the look at the files is the result of a run that is not forced. -/
theorem refuses_of_lookAround {host : Host} (valid : isSentinel sentinel = true) {e : GateError}
    {looks : List Bytes}
    (stopped : (alone host : Observed sources sentinel).lookAround = (.error e, (alone host).looked looks))
    (behaviour : List Bytes → StateM Host (Except FileError CommandEnd)) (command : List Bytes) :
    Refuses host e ((alone host : Observed sources sentinel).run behaviour false command) := by
  rw [run_eq_proceed, if_pos valid]
  simp only [Bool.false_eq_true, if_false, stopped]
  exact ⟨rfl, commands_looked looks, _, rfl⟩

/-- A run that finds its command to be needed starts it. -/
theorem commands_of_lookAround {host : Host} (valid : isSentinel sentinel = true) {looks : List Bytes}
    (needed : (alone host : Observed sources sentinel).lookAround = (.ok true, (alone host).looked looks))
    (behaviour : List Bytes → StateM Host (Except FileError CommandEnd)) (program : Bytes)
    (rest : List Bytes) :
    ((alone host : Observed sources sentinel).run behaviour false (program :: rest)).2.commands =
      [program :: rest] := by
  obtain ⟨result, after, regenerated, commands, _⟩ :=
    regenerate_of_alone (o := (alone host : Observed sources sentinel).looked looks) rfl behaviour program rest
  rw [run_eq, if_pos valid]
  simp only [Bool.false_eq_true, if_false, needed, regenerated]
  rw [commands, commands_looked]
  rfl

end Observed

open Observed

/-- Where no time of a source is told, a run that is not forced does not find everything up to date. It
starts nothing if the time of the sentinel is not told although the sentinel is not missing, or if the
sentinel has a time and no source before the first one without a time is newer. It overlooks the source,
and starts its command, if the sentinel is missing or a newer source comes first. A forced run does what
its command leads to. -/
theorem unreadable_never_upToDate {sources : List Bytes} {sentinel : Bytes} {host : Host}
    (valid : isSentinel sentinel = true)
    (unreadable : ∃ source ∈ sources, ∃ e, host.Tells source (.error e))
    (behaviour : List Bytes → StateM Host (Except FileError CommandEnd)) (command : List Bytes) :
    let ran force := (alone host : Observed sources sentinel).run behaviour force command
    (ran false).1 ≠ .ok .upToDate ∧
    (∀ e, host.timeOf sentinel = .error e → e ≠ .notFound → Refuses host (.file e) (ran false)) ∧
    (∀ stamp source e, host.timeOf sentinel = .ok stamp →
      FirstUnread host stamp sources source e → Refuses host (.source source e) (ran false)) ∧
    ∀ program rest, command = program :: rest →
      (host.timeOf sentinel = .error .notFound ∨
          (∃ stamp, host.timeOf sentinel = .ok stamp ∧ FirstNewer host stamp sources) →
        (ran false).2.commands = [command]) ∧
      (ran true).2.commands = [command] ∧
      Finishes sentinel program (behaviour command host).2 (behaviour command host).1 (ran true).1
        (ran true).2.host := by
  intro ran
  refine ⟨fun upToDate => ?_, fun e modified other => ?_, fun stamp source e modified unread => ?_, ?_⟩
  · obtain ⟨source, here, e, tells⟩ := unreadable
    obtain ⟨now, time, told⟩ := times_of_upToDate (o := alone host) rfl upToDate source here
    cases (tells now).symm.trans told
  · exact refuses_of_lookAround valid (lookAround_of_error rfl modified other) behaviour command
  · obtain ⟨looks, stopped⟩ := lookAround_of_stamp (o := alone host) rfl modified
      (lookForNewer_of_firstUnread (o := (alone host).looked [sentinel]) rfl unread)
    exact refuses_of_lookAround valid stopped behaviour command
  · rintro program rest rfl
    refine ⟨?_, ?_⟩
    · rintro (missing | ⟨stamp, modified, newer⟩)
      · have needed : (alone host : Observed sources sentinel).lookAround =
            (.ok true, (alone host).looked [sentinel]) := by
          rw [lookAround, look_of_alone rfl]
          rw [show (alone host : Observed sources sentinel).host.timeOf sentinel = .error .notFound from missing]
        exact commands_of_lookAround valid needed behaviour program rest
      · obtain ⟨looks, needed⟩ := lookAround_of_stamp (o := alone host) rfl modified
          (lookForNewer_of_firstNewer (o := (alone host).looked [sentinel]) rfl newer)
        exact commands_of_lookAround valid needed behaviour program rest
    · have forced : ran true = (alone host).regenerate behaviour program rest := by
        simp only [ran, run_eq, valid, if_true]
      obtain ⟨result, after, regenerated, commands, finishes⟩ :=
        regenerate_of_alone (o := (alone host : Observed sources sentinel)) rfl behaviour program rest
      rw [forced, regenerated]
      exact ⟨commands, finishes⟩

theorem unreadable_never_upToDate_sample :
    isSentinel [83] = true ∧ (∃ source ∈ [[98], [97]], ∃ e, sampleHost.Tells source (.error e)) ∧
    Refuses sampleHost (.source [98] .notFound)
      ((alone sampleHost : Observed [[98], [97]] [83]).run clears false [[102]]) := by
  have missing : sampleHost.Tells [98] (.error .notFound) := fun _ => rfl
  have unreadable : ∃ source ∈ [[98], [97]], ∃ e, sampleHost.Tells source (.error e) :=
    ⟨[98], by simp, .notFound, missing⟩
  have valid : isSentinel [83] = true := by decide
  obtain ⟨_, _, refuses, _⟩ := unreadable_never_upToDate valid unreadable clears [[102]]
  exact ⟨valid, unreadable, refuses 7 [98] .notFound rfl ⟨[], [[97]], rfl, missing, by simp [NoneNewer]⟩⟩

/-- No time of a source is told and the sentinel has one or is missing, but the run does not end with the
error of a source, or it starts its command. -/
structure Overlooks (sources : List Bytes) (sentinel : Bytes) (host : Host) (force : Bool)
    (command : List Bytes) (behaviour : List Bytes → StateM Host (Except FileError CommandEnd)) : Prop where
  valid : isSentinel sentinel = true
  unreadable : ∃ source ∈ sources, ∃ e, host.Tells source (.error e)
  asked : ∀ e, host.timeOf sentinel = .error e → e = .notFound
  unnoticed :
    let ran := (alone host : Observed sources sentinel).run behaviour force command
    ¬ ((∃ source ∈ sources, ∃ e, host.Tells source (.error e) ∧
        ran.1 = .error (.source source e)) ∧ ran.2.commands = [])

/-- A missing source is overlooked by a run whose sentinel is missing, by one that comes to a newer source
first, and by one that is forced. -/
theorem missing_source_overlooked :
    Overlooks [[98]] [83] (Host.start 5) false [[102]] clears ∧
    Overlooks [[97], [98]] [83] sampleHost false [[102]] clears ∧
    Overlooks [[98]] [83] sampleHost true [[102]] clears := by
  have stamped : sampleHost.timeOf [83] = .ok 7 := rfl
  have absent : (Host.start 5).timeOf [83] = .error .notFound := rfl
  refine ⟨⟨by decide, ⟨[98], by simp, .notFound, fun _ => rfl⟩, ?_, ?_⟩,
    ⟨by decide, ⟨[98], by simp, .notFound, fun _ => rfl⟩, ?_, ?_⟩,
    ⟨by decide, ⟨[98], by simp, .notFound, fun _ => rfl⟩, ?_, ?_⟩⟩
  · simp [absent]
  · rintro _ ⟨_, nothing⟩
    exact List.cons_ne_nil [[102]] [] nothing
  · simp [stamped]
  · rintro _ ⟨_, nothing⟩
    exact List.cons_ne_nil [[102]] [] nothing
  · simp [stamped]
  · rintro _ ⟨_, nothing⟩
    exact List.cons_ne_nil [[102]] [] nothing

end GameTables.Gate
