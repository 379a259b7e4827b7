import GameTables.Proofs.Protocol.FirstFault

/-!
# Which documents are protocols

A document is a protocol exactly if it has states, every id and every derived name is allowed, and ids
and derived names collide nowhere. The error of any other document is the first in a list of all that
is wrong with it.
-/

namespace GameTables.Protocol

/-! ## Documents without collisions -/

/-- The packets of one state and direction, by themselves and among each other. -/
structure PacketsCollisionFree (direction : Direction) (packets : List PacketDefinition) : Prop where
  ids : ∀ packet ∈ packets, 0 ≤ packet.id
  names : ∀ packet ∈ packets, Name.isIdentifier (structName direction packet.name)
  distinctIds : (packets.map (·.id)).Nodup
  distinctNames : (packets.map (structName direction ·.name)).Nodup

/-- A state by itself. -/
structure StateAllowed (entry : String × ConnectionDefinition) : Prop where
  id : 0 ≤ entry.2.id
  lower : Name.isIdentifier (Name.snakeCase entry.1)
  variant : Name.isIdentifier (Name.camelCase entry.1)
  packets : ∀ direction, PacketsCollisionFree direction (entry.2.packets direction)

structure CollisionFree (document : Document ConnectionDefinition) : Prop where
  nonempty : document.entries ≠ []
  states : ∀ entry ∈ document.entries, StateAllowed entry
  distinctIds : (document.entries.map (·.2.id)).Nodup
  distinctVariants : (document.entries.map (Name.camelCase ·.1)).Nodup
  distinctLowers : (document.entries.map (Name.snakeCase ·.1)).Nodup

/-- The protocol has the states and packets of the document in order, with their names and ids, and each
has the names derived from its own. -/
structure Keeps (document : Document ConnectionDefinition) (protocol : Protocol) : Prop where
  states : protocol.states.map (fun state => (state.name, (state.id : Int))) =
    document.entries.map (fun entry => (entry.1, entry.2.id))
  packets : ∀ direction,
    protocol.states.map (fun state =>
      (state.packets direction).map fun packet => (packet.name, (packet.id : Int))) =
    document.entries.map (fun entry =>
      (entry.2.packets direction).map fun packet => (packet.name, packet.id))
  derivedStates : ∀ state ∈ protocol.states,
    state.lower = Name.snakeCase state.name ∧ state.variant = Name.camelCase state.name
  derivedPackets : ∀ state ∈ protocol.states, ∀ direction, ∀ packet ∈ state.packets direction,
    packet.structName = structName direction packet.name

/-! ## All that is wrong with a document -/

def idFaults (name : String) (id : Int) : List PacketError :=
  if id < 0 then [.negativeId name id] else []

def nameFaults (what : Named) (name : String) : List PacketError :=
  if Name.isIdentifier name then [] else [.invalidName what name]

/-- What is wrong with a packet of a state next to the packets before it, in the order of the rules. -/
def packetFaults (state : String) (direction : Direction) (before : List PacketDefinition)
    (packet : PacketDefinition) : List PacketError :=
  idFaults packet.name packet.id ++
  nameFaults .packet (structName direction packet.name) ++
  sharing (·.id) (fun first =>
    .duplicatePacketId state direction first.name packet.name packet.id.toNat) before packet ++
  sharing (structName direction ·.name) (fun _ =>
    .duplicatePacket state direction (structName direction packet.name)) before packet

/-- What is wrong with a state next to the states before it, and then with its packets, in the order of
the rules. -/
def stateFaults (before : List (String × ConnectionDefinition))
    (entry : String × ConnectionDefinition) : List PacketError :=
  idFaults entry.1 entry.2.id ++
  nameFaults .state (Name.snakeCase entry.1) ++
  nameFaults .state (Name.camelCase entry.1) ++
  sharing (·.2.id) (fun first => .duplicateStateId first.1 entry.1 entry.2.id.toNat) before entry ++
  sharing (Name.camelCase ·.1) (fun first =>
    .duplicateState first.1 entry.1 (Name.camelCase entry.1)) before entry ++
  sharing (Name.snakeCase ·.1) (fun first =>
    .duplicateState first.1 entry.1 (Name.snakeCase entry.1)) before entry ++
  faultsAmong (packetFaults entry.1 .serverbound) [] entry.2.serverbound ++
  faultsAmong (packetFaults entry.1 .clientbound) [] entry.2.clientbound

def faults (document : Document ConnectionDefinition) : List PacketError :=
  if document.entries = [] then [.noStates] else faultsAmong stateFaults [] document.entries

/-- An error about two items names the two that collide, and before the second of them the first is the
only one that does. -/
def NamesFirst (document : Document ConnectionDefinition) : PacketError → Prop
  | .duplicateStateId first second id =>
    ∃ a b, OnlyEarlier (·.2.id) document.entries a b ∧ a.1 = first ∧ b.1 = second ∧ b.2.id = id
  | .duplicateState first second generated =>
    ∃ a b, (OnlyEarlier (Name.camelCase ·.1) document.entries a b ∧ Name.camelCase b.1 = generated ∨
        OnlyEarlier (Name.snakeCase ·.1) document.entries a b ∧ Name.snakeCase b.1 = generated) ∧
      a.1 = first ∧ b.1 = second
  | .duplicatePacketId state direction first second id =>
    ∃ entry ∈ document.entries, entry.1 = state ∧
      ∃ a b, OnlyEarlier (·.id) (entry.2.packets direction) a b ∧
        a.name = first ∧ b.name = second ∧ b.id = id
  | _ => True

/-! ## Documents with nothing wrong -/

theorem idFaults_eq_nil_iff {name : String} {id : Int} : idFaults name id = [] ↔ 0 ≤ id := by
  simp [idFaults]

theorem nameFaults_eq_nil_iff {what : Named} {name : String} :
    nameFaults what name = [] ↔ Name.isIdentifier name := by
  simp [nameFaults]

theorem packetsCollisionFree_iff {state : String} {direction : Direction}
    {packets : List PacketDefinition} :
    faultsAmong (packetFaults state direction) [] packets = [] ↔
      PacketsCollisionFree direction packets := by
  have judged (before : List PacketDefinition) (packet : PacketDefinition) :
      packetFaults state direction before packet = [] ↔
        (0 ≤ packet.id ∧ Name.isIdentifier (structName direction packet.name)) ∧
          ∀ first ∈ before, first.id ≠ packet.id ∧
            structName direction first.name ≠ structName direction packet.name := by
    simp only [packetFaults, List.append_eq_nil_iff, idFaults_eq_nil_iff, nameFaults_eq_nil_iff,
      sharing_eq_nil_iff, forall_and, and_assoc]
  rw [faultsAmong_eq_nil_iff judged, List.pairwise_and_iff]
  constructor
  · rintro ⟨own, distinctIds, distinctNames⟩
    exact ⟨fun packet here => (own packet here).1, fun packet here => (own packet here).2,
      List.pairwise_map.mpr distinctIds, List.pairwise_map.mpr distinctNames⟩
  · rintro ⟨ids, names, distinctIds, distinctNames⟩
    exact ⟨fun packet here => ⟨ids packet here, names packet here⟩,
      List.pairwise_map.mp distinctIds, List.pairwise_map.mp distinctNames⟩

theorem stateFaults_eq_nil_iff {before : List (String × ConnectionDefinition)}
    {entry : String × ConnectionDefinition} :
    stateFaults before entry = [] ↔ StateAllowed entry ∧
      ∀ first ∈ before, first.2.id ≠ entry.2.id ∧
        Name.camelCase first.1 ≠ Name.camelCase entry.1 ∧
        Name.snakeCase first.1 ≠ Name.snakeCase entry.1 := by
  simp only [stateFaults, List.append_eq_nil_iff, idFaults_eq_nil_iff, nameFaults_eq_nil_iff,
    sharing_eq_nil_iff, packetsCollisionFree_iff, forall_and, and_assoc]
  constructor
  · rintro ⟨id, lower, variant, ids, variants, lowers, serverbound, clientbound⟩
    refine ⟨⟨id, lower, variant, fun direction => ?_⟩, ids, variants, lowers⟩
    cases direction with
    | serverbound => exact serverbound
    | clientbound => exact clientbound
  · rintro ⟨⟨id, lower, variant, packets⟩, ids, variants, lowers⟩
    exact ⟨id, lower, variant, ids, variants, lowers, packets .serverbound, packets .clientbound⟩

theorem stateFaultsAmong_eq_nil_iff {entries : List (String × ConnectionDefinition)} :
    faultsAmong stateFaults [] entries = [] ↔
      (∀ entry ∈ entries, StateAllowed entry) ∧
      (entries.map (·.2.id)).Nodup ∧
      (entries.map (Name.camelCase ·.1)).Nodup ∧
      (entries.map (Name.snakeCase ·.1)).Nodup := by
  rw [faultsAmong_eq_nil_iff @stateFaults_eq_nil_iff,
    List.pairwise_and_iff, List.pairwise_and_iff]
  simp only [List.Nodup, List.pairwise_map]

theorem faults_eq_nil_iff {document : Document ConnectionDefinition} :
    faults document = [] ↔ CollisionFree document := by
  unfold faults
  split
  · next empty =>
    exact ⟨fun none => (List.cons_ne_nil _ _ none).elim, fun free => (free.nonempty empty).elim⟩
  · next nonempty =>
    rw [stateFaultsAmong_eq_nil_iff]
    constructor
    · rintro ⟨allowed, distinctIds, distinctVariants, distinctLowers⟩
      exact ⟨nonempty, allowed, distinctIds, distinctVariants, distinctLowers⟩
    · rintro ⟨_, allowed, distinctIds, distinctVariants, distinctLowers⟩
      exact ⟨allowed, distinctIds, distinctVariants, distinctLowers⟩

/-! ## The checks report the first fault -/

theorem checkId_eq (name : String) (id : Int) :
    checkId name id = firstFault (idFaults name id) id.toNat := by
  unfold checkId idFaults
  split <;> rfl

theorem checkName_eq (what : Named) (name : String) :
    checkName what name = firstFault (nameFaults what name) () := by
  unfold checkName nameFaults
  split <;> rfl

/-- What a packet without faults becomes. -/
def packet (direction : Direction) (definition : PacketDefinition) : Packet where
  name := definition.name
  structName := structName direction definition.name
  id := definition.id.toNat

/-- What a state without faults becomes. -/
def state (entry : String × ConnectionDefinition) : ConnectionState where
  name := entry.1
  lower := Name.snakeCase entry.1
  variant := Name.camelCase entry.1
  id := entry.2.id.toNat
  serverbound := entry.2.serverbound.map (packet .serverbound)
  clientbound := entry.2.clientbound.map (packet .clientbound)

theorem packets_state (entry : String × ConnectionDefinition) (direction : Direction) :
    (state entry).packets direction = (entry.2.packets direction).map (packet direction) := by
  cases direction <;> rfl

/-- Two ids that are not negative are the same as natural numbers exactly if they are the same. -/
theorem toNat_beq_iff {a b : Int} (a_nonneg : 0 ≤ a) (b_nonneg : 0 ≤ b) :
    (a.toNat == b.toNat) = true ↔ a = b := by
  rw [beq_iff_eq]
  omega

theorem checkPacket_eq {name : String} {direction : Direction} {before : List PacketDefinition}
    (clean : faultsAmong (packetFaults name direction) [] before = []) (definition : PacketDefinition) :
    checkPacket name direction (before.map (packet direction)).reverse definition =
      firstFault (packetFaults name direction before definition) (packet direction definition) := by
  obtain ⟨ids, _, distinctIds, distinctNames⟩ := packetsCollisionFree_iff.mp clean
  unfold checkPacket packetFaults
  simp only [List.append_assoc, checkId_eq, checkName_eq, ← List.isSome_find?]
  refine firstFault_bind fun nonneg => firstFault_bind fun _ => ?_
  rw [idFaults_eq_nil_iff] at nonneg
  have same_id (first : PacketDefinition) (here : first ∈ before) :
      ((packet direction first).id == definition.id.toNat) = true ↔ first.id = definition.id :=
    toNat_beq_iff (ids first here) nonneg
  have same_name (first : PacketDefinition) (_ : first ∈ before) :
      ((packet direction first).structName == structName direction definition.name) = true ↔
        structName direction first.name = structName direction definition.name := beq_iff_eq
  cases id_at : (before.map (packet direction)).reverse.find? (·.id == definition.id.toNat) with
  | some _ =>
    obtain ⟨first, _, rfl, only⟩ :=
      sharing_of_find?_eq_some definition (·.id) id_at same_id distinctIds
    rw [only]
    rfl
  | none =>
    rw [sharing_of_find?_eq_none definition (·.id) id_at same_id]
    cases name_at : (before.map (packet direction)).reverse.find?
        (·.structName == structName direction definition.name) with
    | some _ =>
      obtain ⟨first, _, _, only⟩ :=
        sharing_of_find?_eq_some definition (structName direction ·.name) name_at same_name distinctNames
      rw [only]
      rfl
    | none =>
      rw [sharing_of_find?_eq_none definition (structName direction ·.name) name_at same_name]
      rfl

theorem checkPackets_eq (name : String) (direction : Direction) (packets : List PacketDefinition) :
    checkEach (checkPacket name direction) [] packets =
      firstFault (faultsAmong (packetFaults name direction) [] packets) (packets.map (packet direction)) :=
  checkEach_eq_firstFault (fun _ definition clean => checkPacket_eq clean definition) packets

theorem checkState_eq {before : List (String × ConnectionDefinition)}
    (clean : faultsAmong stateFaults [] before = []) (entry : String × ConnectionDefinition) :
    checkState (before.map state).reverse entry = firstFault (stateFaults before entry) (state entry) := by
  obtain ⟨allowed, distinctIds, distinctVariants, distinctLowers⟩ := stateFaultsAmong_eq_nil_iff.mp clean
  unfold checkState stateFaults
  simp only [List.append_assoc, checkId_eq, checkName_eq, checkPackets_eq]
  refine firstFault_bind fun nonneg => firstFault_bind fun _ => firstFault_bind fun _ => ?_
  rw [idFaults_eq_nil_iff] at nonneg
  have same_id (first : String × ConnectionDefinition) (here : first ∈ before) :
      ((state first).id == entry.2.id.toNat) = true ↔ first.2.id = entry.2.id :=
    toNat_beq_iff (allowed first here).id nonneg
  have same_variant (first : String × ConnectionDefinition) (_ : first ∈ before) :
      ((state first).variant == Name.camelCase entry.1) = true ↔
        Name.camelCase first.1 = Name.camelCase entry.1 := beq_iff_eq
  have same_lower (first : String × ConnectionDefinition) (_ : first ∈ before) :
      ((state first).lower == Name.snakeCase entry.1) = true ↔
        Name.snakeCase first.1 = Name.snakeCase entry.1 := beq_iff_eq
  cases id_at : (before.map state).reverse.find? (·.id == entry.2.id.toNat) with
  | some _ =>
    obtain ⟨first, _, rfl, only⟩ :=
      sharing_of_find?_eq_some entry (·.2.id) id_at same_id distinctIds
    rw [only]
    rfl
  | none =>
    rw [sharing_of_find?_eq_none entry (·.2.id) id_at same_id]
    cases variant_at : (before.map state).reverse.find? (·.variant == Name.camelCase entry.1) with
    | some _ =>
      obtain ⟨first, _, rfl, only⟩ :=
        sharing_of_find?_eq_some entry (Name.camelCase ·.1) variant_at same_variant distinctVariants
      rw [only]
      rfl
    | none =>
      rw [sharing_of_find?_eq_none entry (Name.camelCase ·.1) variant_at same_variant]
      cases lower_at : (before.map state).reverse.find? (·.lower == Name.snakeCase entry.1) with
      | some _ =>
        obtain ⟨first, _, rfl, only⟩ :=
          sharing_of_find?_eq_some entry (Name.snakeCase ·.1) lower_at same_lower distinctLowers
        rw [only]
        rfl
      | none =>
        rw [sharing_of_find?_eq_none entry (Name.snakeCase ·.1) lower_at same_lower]
        exact firstFault_bind fun _ => firstFault_bind_return

theorem ofDocument_eq (document : Document ConnectionDefinition) :
    ofDocument document = firstFault (faults document) ⟨document.entries.map state⟩ := by
  unfold ofDocument faults
  split
  · rfl
  · rw [checkEach_eq_firstFault fun _ entry clean => checkState_eq clean entry, firstFault_bind_return]

/-! ## The states and packets of a protocol -/

theorem keeps_of_collisionFree {document : Document ConnectionDefinition}
    (free : CollisionFree document) : Keeps document ⟨document.entries.map state⟩ where
  states := by
    rw [List.map_map]
    refine List.map_congr_left fun entry here => Prod.ext rfl ?_
    exact Int.toNat_of_nonneg (free.states entry here).id
  packets direction := by
    rw [List.map_map]
    refine List.map_congr_left fun entry here => ?_
    rw [Function.comp_apply, packets_state, List.map_map]
    refine List.map_congr_left fun definition there => Prod.ext rfl ?_
    exact Int.toNat_of_nonneg (((free.states entry here).packets direction).ids definition there)
  derivedStates := by
    rw [List.forall_mem_map]
    exact fun entry _ => ⟨rfl, rfl⟩
  derivedPackets := by
    rw [List.forall_mem_map]
    intro entry _ direction
    cases direction with
    | serverbound => exact List.forall_mem_map.mpr fun _ _ => rfl
    | clientbound => exact List.forall_mem_map.mpr fun _ _ => rfl

/-! ## The items that an error names -/

theorem namesFirst_of_idFaults {document : Document ConnectionDefinition} {name : String} {id : Int}
    {e : PacketError} (wrong : (idFaults name id).head? = some e) : NamesFirst document e := by
  unfold idFaults at wrong
  split at wrong
  · cases wrong
    trivial
  · cases wrong

theorem namesFirst_of_nameFaults {document : Document ConnectionDefinition} {what : Named}
    {name : String} {e : PacketError} (wrong : (nameFaults what name).head? = some e) :
    NamesFirst document e := by
  unfold nameFaults at wrong
  split at wrong
  · cases wrong
  · cases wrong
    trivial

theorem namesFirst_of_packetFaults {document : Document ConnectionDefinition}
    {entry : String × ConnectionDefinition} (here : entry ∈ document.entries) (direction : Direction)
    {e : PacketError}
    (wrong : (faultsAmong (packetFaults entry.1 direction) [] (entry.2.packets direction)).head? = some e) :
    NamesFirst document e := by
  obtain ⟨before, definition, rest, split, clean, wrong⟩ := head?_faultsAmong wrong
  have free := packetsCollisionFree_iff.mp clean
  simp only [packetFaults, List.head?_append, Option.or_eq_some_iff] at wrong
  rcases wrong with ((wrong | ⟨_, wrong⟩) | ⟨_, wrong⟩) | ⟨_, wrong⟩
  · exact namesFirst_of_idFaults wrong
  · exact namesFirst_of_nameFaults wrong
  · obtain ⟨first, here', same, only, rfl⟩ :=
      onlyEarlier_of_mem_sharing split free.distinctIds (List.mem_of_head? wrong)
    have nonneg : 0 ≤ definition.id := same ▸ free.ids first here'
    exact ⟨entry, here, rfl, first, definition, only, rfl, rfl, (Int.toNat_of_nonneg nonneg).symm⟩
  · obtain ⟨first, _, _, _, rfl⟩ :=
      onlyEarlier_of_mem_sharing split free.distinctNames (List.mem_of_head? wrong)
    trivial

theorem namesFirst_of_head? {document : Document ConnectionDefinition} {e : PacketError}
    (wrong : (faults document).head? = some e) : NamesFirst document e := by
  unfold faults at wrong
  split at wrong
  · cases wrong
    trivial
  obtain ⟨before, entry, rest, split, clean, wrong⟩ := head?_faultsAmong wrong
  obtain ⟨allowed, distinctIds, distinctVariants, distinctLowers⟩ := stateFaultsAmong_eq_nil_iff.mp clean
  have here : entry ∈ document.entries := by simp [split]
  simp only [stateFaults, List.head?_append, Option.or_eq_some_iff] at wrong
  rcases wrong with
    ((((((id | ⟨_, lower⟩) | ⟨_, variant⟩) | ⟨_, sameId⟩) | ⟨_, sameVariant⟩) | ⟨_, sameLower⟩) |
      ⟨_, serverbound⟩) | ⟨_, clientbound⟩
  · exact namesFirst_of_idFaults id
  · exact namesFirst_of_nameFaults lower
  · exact namesFirst_of_nameFaults variant
  · obtain ⟨first, here', same, only, rfl⟩ :=
      onlyEarlier_of_mem_sharing split distinctIds (List.mem_of_head? sameId)
    have nonneg : 0 ≤ entry.2.id := same ▸ (allowed first here').id
    exact ⟨first, entry, only, rfl, rfl, (Int.toNat_of_nonneg nonneg).symm⟩
  · obtain ⟨first, _, _, only, rfl⟩ :=
      onlyEarlier_of_mem_sharing split distinctVariants (List.mem_of_head? sameVariant)
    exact ⟨first, entry, .inl ⟨only, rfl⟩, rfl, rfl⟩
  · obtain ⟨first, _, _, only, rfl⟩ :=
      onlyEarlier_of_mem_sharing split distinctLowers (List.mem_of_head? sameLower)
    exact ⟨first, entry, .inr ⟨only, rfl⟩, rfl, rfl⟩
  · exact namesFirst_of_packetFaults here .serverbound serverbound
  · exact namesFirst_of_packetFaults here .clientbound clientbound

/-- A document becomes a protocol exactly if it is free of collisions, and then the protocol keeps what
the document says. The error of any other document is the first of its faults, and where an error names
two items, these are the first collision. -/
theorem ofDocument_ok_iff_collisionFree (document : Document ConnectionDefinition) :
    (∀ text, ConnectionDefinition.readDocument text = .ok document → read text = ofDocument document) ∧
    ((∃ protocol, ofDocument document = .ok protocol) ↔ CollisionFree document) ∧
    (∀ protocol, ofDocument document = .ok protocol → Keeps document protocol) ∧
    (∀ e, ofDocument document = .error e ↔ (faults document).head? = some e) ∧
    (∀ e, ofDocument document = .error e → NamesFirst document e) := by
  rw [ofDocument_eq]
  refine ⟨?_, ⟨?_, ?_⟩, ?_, fun e => firstFault_eq_error_iff, ?_⟩
  · intro text parsed
    rw [read, parsed, ← ofDocument_eq]
    rfl
  · rintro ⟨protocol, passed⟩
    exact faults_eq_nil_iff.mp (firstFault_eq_ok_iff.mp passed).1
  · intro free
    exact ⟨_, firstFault_eq_ok_iff.mpr ⟨faults_eq_nil_iff.mpr free, rfl⟩⟩
  · intro protocol passed
    obtain ⟨none, rfl⟩ := firstFault_eq_ok_iff.mp passed
    exact keeps_of_collisionFree (faults_eq_nil_iff.mp none)
  · intro e refused
    exact namesFirst_of_head? (firstFault_eq_error_iff.mp refused)

end GameTables.Protocol
