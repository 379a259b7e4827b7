import GameTables.Proofs.Document
import GameTables.Proofs.PacketSource.RoundTrip

/-!
# What the lookups answer

What the items of the sources say about a document: which variant an id has, which module is asked for a
state, and which name a packet has. Of the arms of a lookup the first that matches counts.
-/

namespace GameTables

/-- The answer of arms by id. -/
def byId (arms : List (Nat × String)) (id : Int) : Option String :=
  (arms.map fun arm => ((arm.1 : Int), arm.2)).lookup id

/-- The variant of an id. -/
def StateItems.fromId (items : StateItems) (id : Int) : Option String := byId items.idArms id

/-- The name of the packet with an id. -/
def StateModule.packetName (module : StateModule) (id : Int) : Option String := byId module.arms id

/-- The module that is asked for a variant, if there is one. -/
def DirectionItems.ask (items : DirectionItems) (variant : String) : Option StateModule := do
  let name ← items.arms.lookup variant
  items.modules.find? (·.name == name)

/-- The answer for a variant and the id of a packet, if a module could be asked. -/
def DirectionItems.packetName (items : DirectionItems) (variant : String) (id : Int) :
    Option (Option String) :=
  (items.ask variant).map (·.packetName id)

namespace PacketSource

open Protocol (CollisionFree StateAllowed state packet)

/-! ## Agreement with a document -/

/-- The module of a state agrees with the packets of the document: the answers of its lookup, the pairs that
it lists and the constants of its types. -/
structure ModuleAgrees (direction : Direction) (entry : String × ConnectionDefinition)
    (module : StateModule) : Prop where
  name : module.name = Name.snakeCase entry.1
  answers : ∀ id name, module.packetName id = some name ↔
    ∃ packet ∈ entry.2.packets direction, packet.id = id ∧ packet.name = name
  listed : module.listed.map (fun pair => ((pair.1 : Int), pair.2)) =
    (entry.2.packets direction).map fun packet => (packet.id, packet.name)
  listsAnswers : ∀ id name, module.packetName id = some name ↔
    ∃ pair ∈ module.listed, (pair.1 : Int) = id ∧ pair.2 = name
  constants :
    module.packets.map (fun item =>
        (item.typeName, (item.id : Int), item.name, item.direction, item.state)) =
      (entry.2.packets direction).map fun packet =>
        (Protocol.structName direction packet.name, packet.id, packet.name, direction,
          Name.camelCase entry.1)

/-- The enumeration of the states agrees with the document. -/
structure StatesAgree (document : Document ConnectionDefinition) (items : StateItems) : Prop where
  variants : items.variants.map (fun variant => (variant.1, (variant.2 : Int))) =
    document.entries.map fun entry => (Name.camelCase entry.1, entry.2.id)
  distinct : (items.variants.map Prod.fst).Nodup
  all : items.all = items.variants.map Prod.fst
  idArms : items.idArms.map Prod.snd = items.variants.map Prod.fst
  textArms : items.textArms.map Prod.fst = items.variants.map Prod.fst
  known : ∀ entry ∈ document.entries, items.fromId entry.2.id = some (Name.camelCase entry.1)
  unknown : ∀ id, (∀ entry ∈ document.entries, entry.2.id ≠ id) → items.fromId id = none

/-- The source of a direction agrees with the document and with the enumeration of the states. -/
structure DirectionAgrees (document : Document ConnectionDefinition) (states : StateItems)
    (direction : Direction) (items : DirectionItems) : Prop where
  arms : items.arms.map Prod.fst = states.variants.map Prod.fst
  modules : List.Forall₂ (ModuleAgrees direction) document.entries items.modules
  asks : List.Forall₂ (fun entry module => items.ask (Name.camelCase entry.1) = some module)
    document.entries items.modules
  answers : ∀ entry ∈ document.entries, ∀ id,
    ∃ answer, items.packetName (Name.camelCase entry.1) id = some answer ∧
      ∀ name, answer = some name ↔
        ∃ packet ∈ entry.2.packets direction, packet.id = id ∧ packet.name = name

structure Agree (document : Document ConnectionDefinition) (sources : Sources) : Prop where
  states : StatesAgree document sources.states
  directions : ∀ direction,
    DirectionAgrees document sources.states direction (sources.direction direction)

/-! ## The lists of items -/

variable {document : Document ConnectionDefinition} {entry : String × ConnectionDefinition}

/-- What the module of a state lists. Its lookup has an arm for each pair. -/
theorem cast_listed {direction : Direction} (allowed : StateAllowed entry) :
    (StateModule.ofState direction (state entry)).listed.map (fun pair => ((pair.1 : Int), pair.2)) =
      (entry.2.packets direction).map fun packet => (packet.id, packet.name) := by
  simp only [StateModule.ofState, Protocol.packets_state, List.map_map]
  refine List.map_congr_left fun definition here => Prod.ext ?_ rfl
  exact Int.toNat_of_nonneg ((allowed.packets direction).ids definition here)

theorem answers_ofState {direction : Direction} (allowed : StateAllowed entry) (id : Int)
    (name : String) :
    (StateModule.ofState direction (state entry)).packetName id = some name ↔
      ∃ packet ∈ entry.2.packets direction, packet.id = id ∧ packet.name = name := by
  have arms : (StateModule.ofState direction (state entry)).arms =
      (StateModule.ofState direction (state entry)).listed := rfl
  have distinct :
      (((entry.2.packets direction).map fun packet => (packet.id, packet.name)).map Prod.fst).Nodup := by
    rw [List.map_map]
    exact (allowed.packets direction).distinctIds
  rw [StateModule.packetName, byId, arms, cast_listed allowed, lookup_eq_some_iff_mem distinct,
    List.mem_map]
  simp only [Prod.mk.injEq]

theorem moduleAgrees_ofState (direction : Direction) (allowed : StateAllowed entry) :
    ModuleAgrees direction entry (.ofState direction (state entry)) := by
  refine ⟨rfl, answers_ofState allowed, cast_listed allowed, fun id name => ?_, ?_⟩
  · have listed := congrArg ((id, name) ∈ ·) (@cast_listed _ direction allowed)
    simp only [List.mem_map, Prod.mk.injEq, eq_iff_iff] at listed
    exact (answers_ofState allowed id name).trans listed.symm
  · simp only [StateModule.ofState, Protocol.packets_state, List.map_map]
    refine List.map_congr_left fun definition here => Prod.ext rfl (Prod.ext ?_ rfl)
    exact Int.toNat_of_nonneg ((allowed.packets direction).ids definition here)

/-! ## The lookups of a document without collisions -/

theorem statesAgree_ofProtocol (free : CollisionFree document) :
    StatesAgree document (.ofProtocol (protocolOf document)) := by
  have nonneg (entry : String × ConnectionDefinition) (here : entry ∈ document.entries) :
      (entry.2.id.toNat : Int) = entry.2.id := Int.toNat_of_nonneg (free.states entry here).id
  have arms :
      (StateItems.ofProtocol (protocolOf document)).idArms.map (fun arm => ((arm.1 : Int), arm.2)) =
      document.entries.map fun entry => (entry.2.id, Name.camelCase entry.1) := by
    simp only [StateItems.ofProtocol, List.map_map]
    exact List.map_congr_left fun entry here => Prod.ext (nonneg entry here) rfl
  have distinct :
      ((document.entries.map fun entry => (entry.2.id, Name.camelCase entry.1)).map Prod.fst).Nodup := by
    rw [List.map_map]
    exact free.distinctIds
  have answers (id : Int) (variant : String) :
      (StateItems.ofProtocol (protocolOf document)).fromId id = some variant ↔
        ∃ entry ∈ document.entries, entry.2.id = id ∧ Name.camelCase entry.1 = variant := by
    rw [StateItems.fromId, byId, arms, lookup_eq_some_iff_mem distinct, List.mem_map]
    simp only [Prod.mk.injEq]
  constructor
  case variants =>
    simp only [StateItems.ofProtocol, List.map_map]
    exact List.map_congr_left fun entry here => Prod.ext rfl (nonneg entry here)
  case distinct =>
    rw [variants_ofProtocol]
    exact free.distinctVariants
  case all => simp [StateItems.ofProtocol]
  case idArms => simp [StateItems.ofProtocol]
  case textArms => simp [StateItems.ofProtocol]
  case known => exact fun entry here => (answers _ _).mpr ⟨entry, here, rfl, rfl⟩
  case unknown =>
    intro id apart
    refine Option.eq_none_iff_forall_ne_some.mpr fun variant found => ?_
    obtain ⟨entry, here, same, _⟩ := (answers id variant).mp found
    exact apart entry here same

/-- Where variants and names of modules are distinct, the module of the arm of a variant is asked. -/
theorem ask_of_nodup {items : DirectionItems} {variant : String} {module : StateModule}
    (distinctArms : (items.arms.map Prod.fst).Nodup)
    (distinctModules : (items.modules.map (·.name)).Nodup)
    (arm : (variant, module.name) ∈ items.arms) (listed : module ∈ items.modules) :
    items.ask variant = some module := by
  rw [DirectionItems.ask, (lookup_eq_some_iff_mem distinctArms).mpr arm, Option.bind_eq_bind,
    Option.bind_some]
  cases found : items.modules.find? (·.name == module.name) with
  | none =>
    have other := List.find?_eq_none.mp found module listed
    simp at other
  | some first =>
    have named : first.name = module.name := by simpa using List.find?_some found
    rw [List.inj_on_of_nodup_map distinctModules (List.mem_of_find?_eq_some found) listed named]

theorem ask_ofProtocol (free : CollisionFree document) (direction : Direction)
    (here : entry ∈ document.entries) :
    (DirectionItems.ofProtocol (protocolOf document) direction).ask (Name.camelCase entry.1) =
      some (.ofState direction (state entry)) := by
  have there := List.mem_map_of_mem (f := state) here
  refine ask_of_nodup ?_ ?_ (List.mem_map.mpr ⟨_, there, rfl⟩) (List.mem_map.mpr ⟨_, there, rfl⟩)
  · simp only [DirectionItems.ofProtocol, List.map_map]
    exact free.distinctVariants
  · rw [modules_ofProtocol, List.map_map]
    exact free.distinctLowers

theorem directionAgrees_ofProtocol (free : CollisionFree document) (direction : Direction) :
    DirectionAgrees document (.ofProtocol (protocolOf document)) direction
      (.ofProtocol (protocolOf document) direction) := by
  constructor
  case arms =>
    rw [variants_ofProtocol]
    simp only [DirectionItems.ofProtocol, List.map_map]
    rfl
  case modules =>
    rw [modules_ofProtocol]
    exact List.forall₂_map_right_iff.mpr
      (List.forall₂_same.mpr fun entry here => moduleAgrees_ofState direction (free.states entry here))
  case asks =>
    rw [modules_ofProtocol]
    exact List.forall₂_map_right_iff.mpr
      (List.forall₂_same.mpr fun entry here => ask_ofProtocol free direction here)
  case answers =>
    intro entry here id
    refine ⟨(StateModule.ofState direction (state entry)).packetName id, ?_, ?_⟩
    · rw [DirectionItems.packetName, ask_ofProtocol free direction here]
      rfl
    · exact answers_ofState (free.states entry here) id

/-- The lookups of the sources agree with the document that the text reads as. -/
theorem lookups_agree (generator text : String) (made : List GeneratedFile)
    (generated : generate generator text = .ok made) :
    ∃ document sources, ConnectionDefinition.readDocument text = .ok document ∧
      FilesHold generator made sources ∧ Agree document sources := by
  obtain ⟨document, parsed, free, holds⟩ := exists_of_generate generated
  refine ⟨document, _, parsed, holds, statesAgree_ofProtocol free, fun direction => ?_⟩
  rw [direction_ofProtocol]
  exact directionAgrees_ofProtocol free direction

/-- Two states, one with a packet. -/
def lookupSample : String :=
  "\x7b\"PLAY\": \x7b\"id\": 5, " ++
    "\"SERVERBOUND\": [\x7b\"name\": \"ServerboundChatPacket\", \"id\": 3\x7d]\x7d, " ++
    "\"LOGIN\": \x7b\"id\": 0\x7d\x7d"

theorem lookups_agree_sample :
    ∃ made, generate "generator" lookupSample = .ok made ∧
      ∃ document sources, ConnectionDefinition.readDocument lookupSample = .ok document ∧
        FilesHold "generator" made sources ∧ Agree document sources := by
  have accepted : Protocol.read lookupSample = .ok ⟨[
      ⟨"PLAY", "play", "Play", 5, [⟨"ServerboundChatPacket", "ChatPacket", 3⟩], []⟩,
      ⟨"LOGIN", "login", "Login", 0, [], []⟩]⟩ := eq_ok_of_toOption (by decide +kernel)
  have generated : generate "generator" lookupSample = .ok (files "generator" _) :=
    bind_eq_ok_iff.mpr ⟨_, accepted, rfl⟩
  exact ⟨_, generated, lookups_agree "generator" lookupSample _ generated⟩

end PacketSource

end GameTables
