import GameTables.Protocol.Basic

/-!
# Items of the packet sources

What the generated sources declare, apart from how their lines are set: the enumeration of the
connection states, and for each direction a module for each state with its packets and a lookup of
packet names by id. Every list is in the order of the protocol.
-/

namespace GameTables

/-- The type that stands for a packet, with its constants. -/
structure PacketItem where
  typeName : String
  id : Nat
  name : String
  direction : Direction
  /-- Variant of the state that the packet belongs to. -/
  state : String
  deriving DecidableEq, Repr

/-- The module of a state in the source of a direction. -/
structure StateModule where
  name : String
  packets : List PacketItem
  /-- Ids and names that the module lists. -/
  listed : List (Nat × String)
  /-- Arms of the lookup of a name by id. -/
  arms : List (Nat × String)
  deriving DecidableEq, Repr

/-- The source of a direction. -/
structure DirectionItems where
  modules : List StateModule
  /-- Arms of the lookup by state: each variant with the module that is asked. -/
  arms : List (String × String)
  deriving DecidableEq, Repr

/-- The enumeration of the connection states. -/
structure StateItems where
  /-- The variants with their numbers. -/
  variants : List (String × Nat)
  /-- The variants as the constant that lists all of them has them. -/
  all : List String
  /-- Arms of the lookup of a variant by id. -/
  idArms : List (Nat × String)
  /-- Arms that give each variant its text. -/
  textArms : List (String × String)
  deriving DecidableEq, Repr

def PacketItem.ofPacket (state : ConnectionState) (direction : Direction) (packet : Packet) :
    PacketItem :=
  ⟨packet.structName, packet.id, packet.name, direction, state.variant⟩

def StateModule.ofState (direction : Direction) (state : ConnectionState) : StateModule where
  name := state.lower
  packets := (state.packets direction).map (.ofPacket state direction)
  listed := (state.packets direction).map fun packet => (packet.id, packet.name)
  arms := (state.packets direction).map fun packet => (packet.id, packet.name)

def DirectionItems.ofProtocol (protocol : Protocol) (direction : Direction) : DirectionItems where
  modules := protocol.states.map (.ofState direction)
  arms := protocol.states.map fun state => (state.variant, state.lower)

def StateItems.ofProtocol (protocol : Protocol) : StateItems where
  variants := protocol.states.map fun state => (state.variant, state.id)
  all := protocol.states.map (·.variant)
  idArms := protocol.states.map fun state => (state.id, state.variant)
  textArms := protocol.states.map fun state => (state.variant, state.lower)

end GameTables
