import GameTables.Host.Basic

/-!
# Steps on the host

Programs are sequences of steps, each of which may fail and each of which changes the host. Every operation
moves the clock on, and one that fails leaves the files alone.
-/

namespace GameTables

variable {σ ε ε' α β : Type}

theorem run_pure_state (a : α) (s : σ) :
    (pure a : ExceptT ε (StateM σ) α).run s = (.ok a, s) := rfl

theorem run_bind_state (x : ExceptT ε (StateM σ) α) (next : α → ExceptT ε (StateM σ) β) (s : σ) :
    (x >>= next).run s =
      match x.run s with
      | (.ok a, s') => (next a).run s'
      | (.error e, s') => (.error e, s') := by
  change ExceptT.bindCont next (x.run s).1 (x.run s).2 = _
  rcases x.run s with ⟨_ | _, _⟩ <;> rfl

theorem run_adapt_state (x : ExceptT ε (StateM σ) α) (f : ε → ε') (s : σ) :
    (x.adapt f).run s =
      match x.run s with
      | (.ok a, s') => (.ok a, s')
      | (.error e, s') => (.error (f e), s') := by
  change ((x.run s).1.mapError f, (x.run s).2) = _
  rcases x.run s with ⟨_ | _, _⟩ <;> rfl

theorem run_tryCatch_state (x : ExceptT ε (StateM σ) α) (handle : ε → ExceptT ε (StateM σ) α) (s : σ) :
    (tryCatch x handle).run s =
      match x.run s with
      | (.ok a, s') => (.ok a, s')
      | (.error e, s') => (handle e).run s' := by
  have run : x.run s = x s := rfl
  simp only [tryCatch, tryCatchThe, MonadExceptOf.tryCatch, ExceptT.tryCatch, ExceptT.run_mk, bind,
    StateT.bind, run]
  rcases x s with ⟨_ | _, _⟩ <;> rfl

namespace Host

/-- An operation that succeeds is one that the host does not refuse. -/
theorem granted_of_outcome {request : Request} {operation : FileSystem → Time → Except FileError α}
    {host : Host} {a : α} (came : host.outcome request operation = .ok a) :
    host.outages request host.tick.clock = none := by
  unfold outcome at came
  split at came
  · cases came
  · assumption

/-- An operation that succeeds is one that the files allow. -/
theorem operation_of_outcome {request : Request} {operation : FileSystem → Time → Except FileError α}
    {host : Host} {a : α} (came : host.outcome request operation = .ok a) :
    operation host.files host.tick.clock = .ok a := by
  unfold outcome at came
  split at came
  · cases came
  · exact came

/-- The host never refuses what the files allow. -/
def Calm (host : Host) : Prop := ∀ request time, host.outages request time = none

theorem Calm.outcome_eq {host : Host} (calm : host.Calm) (request : Request)
    (operation : FileSystem → Time → Except FileError α) :
    host.outcome request operation = operation host.files host.tick.clock := by
  rw [outcome, calm]

/-- A host at a later time, at which nothing else is different. -/
def later (host : Host) (ticks : Nat) : Host :=
  { host with clock := host.clock + ticks }

theorem later_later (host : Host) (ticks more : Nat) :
    (host.later ticks).later more = host.later (ticks + more) := by
  simp [later, Int.add_assoc]

theorem attempt_run (operation : FileSystem → Time → Except FileError (α × FileSystem)) (host : Host) :
    (attempt operation).run host =
      match host.outcome .work operation with
      | .error e => (.error e, host.tick)
      | .ok (result, files) => (.ok result, { host.tick with files }) := rfl

theorem change_run (operation : FileSystem → Time → Except FileError FileSystem) (host : Host) :
    (change operation).run host =
      match host.outcome .work operation with
      | .error e => (.error e, host.tick)
      | .ok files => (.ok (), { host.tick with files }) := by
  rw [change, attempt_run, outcome, outcome]
  cases host.outages .work host.tick.clock with
  | some outage => rfl
  | none => cases operation host.files host.tick.clock <;> rfl

end Host

/-! ## Reading texts -/

/-- The text of the file that a path leads to. -/
def FileSystem.text (fs : FileSystem) (path : Bytes) : Except FileError String :=
  match fs.read path with
  | .error e => .error e
  | .ok contents =>
    match contents.toString? with
    | some text => .ok text
    | none => .error .notText

namespace Host

/-- What comes of reading a text at the next point of time. -/
def text (host : Host) (path : Bytes) : Except FileError String :=
  host.outcome .work fun files _ => files.text path

theorem readText_run (path : Bytes) (host : Host) :
    (Storage.readText path : ExceptT FileError (StateM Host) String).run host =
      (host.text path, host.tick) := by
  have reads : (Storage.read path : ExceptT FileError (StateM Host) Bytes).run host =
    (attempt fun files _ => return (← files.read path, files)).run host := rfl
  rw [Storage.readText, run_bind_state, reads, attempt_run, text, outcome, outcome]
  cases host.outages .work host.tick.clock with
  | some outage => rfl
  | none =>
    simp only [FileSystem.text]
    cases host.files.read path with
    | error e => rfl
    | ok contents =>
      dsimp only
      change (match contents.toString? with
        | some text => pure text
        | none => throw .notText : ExceptT FileError (StateM Host) String).run host.tick = _
      cases contents.toString? <;> rfl

/-- A text that is read is in the files. -/
theorem files_text_of_text {host : Host} {path : Bytes} {text : String} (reads : host.text path = .ok text) :
    host.files.text path = .ok text :=
  operation_of_outcome reads

end Host

end GameTables
