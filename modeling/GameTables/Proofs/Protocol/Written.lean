import GameTables.Proofs.Document
import GameTables.Proofs.Protocol.Acceptance
import GameTables.Proofs.Traversal

/-!
# States and the entries as written

The text of a document is a sequence of entries whose names may repeat. Entries with different names that
make the same variant or the same module are refused. Entries with the same name are not: the states of
the protocol then are those of the entries written last, and the others are dropped.
-/

namespace GameTables.Protocol

open ConnectionDefinition (readEntries readDocument)

/-! ## What entries say -/

/-- What the entry of a packet says. -/
def writtenPacket (packet : Packet) : PacketDefinition := ⟨packet.name, packet.id⟩

/-- What the entry of a state says. -/
def writtenState (state : ConnectionState) : String × ConnectionDefinition :=
  (state.name, ⟨state.id, state.serverbound.map writtenPacket, state.clientbound.map writtenPacket⟩)

/-- Two entries make the same variant or the same module. -/
def Collide (first second : String × ConnectionDefinition) : Prop :=
  Name.camelCase first.1 = Name.camelCase second.1 ∨ Name.snakeCase first.1 = Name.snakeCase second.1

/-- No state that was written is dropped: a text with two entries that collide is refused, and a protocol
has a state for every entry, in order, that says what the entry says. -/
def KeepsStates (text : String) (written : List (String × ConnectionDefinition)) : Prop :=
  (¬ written.Pairwise (fun first second => ¬ Collide first second) → ∃ e, read text = .error e) ∧
  ∀ protocol, read text = .ok protocol → protocol.states.map writtenState = written

/-! ## Entries and states -/

theorem map_writtenPacket {direction : Direction} {packets : List PacketDefinition}
    (ids : ∀ definition ∈ packets, 0 ≤ definition.id) :
    (packets.map (packet direction)).map writtenPacket = packets := by
  rw [List.map_map]
  have same (definition : PacketDefinition) (here : definition ∈ packets) :
      (writtenPacket ∘ packet direction) definition = definition := by
    have nonneg : (definition.id.toNat : Int) = definition.id := Int.toNat_of_nonneg (ids definition here)
    simp only [Function.comp_apply, writtenPacket, packet, nonneg]
  exact (List.map_congr_left same).trans (List.map_id _)

theorem writtenState_state {entry : String × ConnectionDefinition} (allowed : StateAllowed entry) :
    writtenState (state entry) = entry := by
  have nonneg : (entry.2.id.toNat : Int) = entry.2.id := Int.toNat_of_nonneg allowed.id
  have serverbound : (entry.2.serverbound.map (packet .serverbound)).map writtenPacket =
      entry.2.serverbound := map_writtenPacket (allowed.packets .serverbound).ids
  have clientbound : (entry.2.clientbound.map (packet .clientbound)).map writtenPacket =
      entry.2.clientbound := map_writtenPacket (allowed.packets .clientbound).ids
  simp only [writtenState, state, nonneg, serverbound, clientbound]

variable {text : String} {written : List (String × ConnectionDefinition)}

theorem read_eq_ofDocument (parsed : readEntries text = .ok written) :
    read text = ofDocument (.ofEntries written) := by
  rw [read, readDocument, parsed]
  rfl

/-- The states of a protocol say what the entries of the document say. -/
theorem collisionFree_of_read (parsed : readEntries text = .ok written) {protocol : Protocol}
    (accepted : read text = .ok protocol) :
    CollisionFree (.ofEntries written) ∧
      protocol.states.map writtenState = (Document.ofEntries written).entries := by
  rw [read_eq_ofDocument parsed, ofDocument_eq] at accepted
  obtain ⟨none, rfl⟩ := firstFault_eq_ok_iff.mp accepted
  have free := faults_eq_nil_iff.mp none
  refine ⟨free, ?_⟩
  rw [List.map_map]
  have same (entry : String × ConnectionDefinition)
      (here : entry ∈ (Document.ofEntries written).entries) :
      (writtenState ∘ state) entry = entry := writtenState_state (free.states entry here)
  exact (List.map_congr_left same).trans (List.map_id _)

/-- In a document that is free of collisions, entries as written that collide have the same name. -/
theorem name_eq_of_collide (free : CollisionFree (.ofEntries written))
    {first second : String × ConnectionDefinition} (here : first ∈ written) (there : second ∈ written)
    (collide : Collide first second) : first.1 = second.1 := by
  obtain ⟨kept, kept_at, kept_name⟩ := Document.exists_entry_iff.mpr ⟨first, here, rfl⟩
  obtain ⟨other, other_at, other_name⟩ := Document.exists_entry_iff.mpr ⟨second, there, rfl⟩
  have same : kept = other := by
    rcases collide with variant | lower
    · rw [← kept_name, ← other_name] at variant
      exact List.inj_on_of_nodup_map free.distinctVariants kept_at other_at variant
    · rw [← kept_name, ← other_name] at lower
      exact List.inj_on_of_nodup_map free.distinctLowers kept_at other_at lower
  rw [← kept_name, ← other_name, same]

theorem read_ok_or_error (text : String) :
    (∃ protocol, read text = .ok protocol) ∨ ∃ e, read text = .error e := by
  cases read text with
  | ok protocol => exact .inl ⟨protocol, rfl⟩
  | error e => exact .inr ⟨e, rfl⟩

/-- Entries that collide although their names differ are refused. -/
theorem refused_of_collide (parsed : readEntries text = .ok written)
    {first second : String × ConnectionDefinition} (here : first ∈ written) (there : second ∈ written)
    (collide : Collide first second) (different : first.1 ≠ second.1) : ∃ e, read text = .error e := by
  refine (read_ok_or_error text).resolve_left ?_
  rintro ⟨protocol, accepted⟩
  exact different (name_eq_of_collide (collisionFree_of_read parsed accepted).1 here there collide)

/-- The states of a text are kept exactly if the text is refused or writes no name twice. What is kept of a
text that is accepted is each name at the place where it stands first, with what was written for it last;
and whatever else a text holds, it is refused if entries with different names collide. -/
theorem keepsStates_iff_distinct (text : String) (written : List (String × ConnectionDefinition))
    (parsed : readEntries text = .ok written) :
    (KeepsStates text written ↔ (∃ e, read text = .error e) ∨ (written.map Prod.fst).Nodup) ∧
    (∀ protocol, read text = .ok protocol →
      protocol.states.map writtenState =
        (written.map Prod.fst).eraseDups.filterMap fun name =>
          (Document.lastWritten? written name).map (name, ·)) ∧
    (∀ first ∈ written, ∀ second ∈ written, Collide first second → first.1 ≠ second.1 →
      ∃ e, read text = .error e) := by
  refine ⟨⟨?_, ?_⟩, ?_, fun first here second there => refused_of_collide parsed here there⟩
  · rintro ⟨_, kept⟩
    refine (read_ok_or_error text).symm.imp_right ?_
    rintro ⟨protocol, accepted⟩
    have entries := (collisionFree_of_read parsed accepted).2
    exact Document.entries_ofEntries_eq_iff.mp (entries.symm.trans (kept protocol accepted))
  · rintro (refused | distinct)
    · refine ⟨fun _ => refused, fun protocol accepted => ?_⟩
      obtain ⟨e, refused⟩ := refused
      cases accepted.symm.trans refused
    · constructor
      · intro collide
        refine (read_ok_or_error text).resolve_left ?_
        rintro ⟨protocol, accepted⟩
        have free := (collisionFree_of_read parsed accepted).1
        refine collide ((List.pairwise_map.mp distinct).imp_of_mem ?_)
        exact fun here there different both => different (name_eq_of_collide free here there both)
      · intro protocol accepted
        rw [(collisionFree_of_read parsed accepted).2]
        exact Document.entries_ofEntries_eq_iff.mpr distinct
  · intro protocol accepted
    rw [(collisionFree_of_read parsed accepted).2, Document.entries_ofEntries]

/-- Two entries for one state. -/
def repeatedState : String := "\x7b\"PLAY\": \x7b\"id\": 0\x7d, \"PLAY\": \x7b\"id\": 1\x7d\x7d"

/-- Two states that make the same variant. -/
def collidingStates : String := "\x7b\"PLAY\": \x7b\"id\": 0\x7d, \"play\": \x7b\"id\": 1\x7d\x7d"

theorem readEntries_repeatedState : readEntries repeatedState =
    .ok [("PLAY", ⟨0, [], []⟩), ("PLAY", ⟨1, [], []⟩)] :=
  eq_ok_of_toOption (by decide +kernel)

theorem keepsStates_iff_distinct_sample :
    ∃ written, readEntries collidingStates = .ok written ∧ KeepsStates collidingStates written ∧
      ∃ e, read collidingStates = .error e := by
  have parsed : readEntries collidingStates =
      .ok [("PLAY", ⟨0, [], []⟩), ("play", ⟨1, [], []⟩)] := eq_ok_of_toOption (by decide +kernel)
  obtain ⟨kept, _, refused⟩ := keepsStates_iff_distinct _ _ parsed
  refine ⟨_, parsed, kept.mpr (.inr (by decide)), ?_⟩
  exact refused _ List.mem_cons_self _ (List.mem_cons_of_mem _ List.mem_cons_self)
    (.inl (by decide +kernel)) (by decide)

/-- Of two entries with the same name the first is dropped. -/
theorem repeated_state_dropped :
    ¬ ∀ text written, readEntries text = .ok written → KeepsStates text written := by
  intro every
  have accepted : read repeatedState = .ok ⟨[⟨"PLAY", "play", "Play", 1, [], []⟩]⟩ :=
    eq_ok_of_toOption (by decide +kernel)
  have kept := (every repeatedState _ readEntries_repeatedState).2 _ accepted
  revert kept
  decide

end GameTables.Protocol
