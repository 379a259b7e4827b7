import GameTables.Name.Cases
import GameTables.Protocol.Definition

/-!
# Protocols

A checked protocol: connection states in the order of the document, with the names derived for them
and for their packets. Ids and derived names collide nowhere: among the states, and among the packets
of one state and direction.
-/

namespace GameTables

structure Packet where
  /-- The name as the document has it. -/
  name : String
  structName : String
  id : Nat
  deriving DecidableEq, Repr

structure ConnectionState where
  /-- The name as the document has it. -/
  name : String
  /-- Name of the module of the state. -/
  lower : String
  variant : String
  id : Nat
  serverbound : List Packet
  clientbound : List Packet
  deriving DecidableEq, Repr

def ConnectionState.packets (state : ConnectionState) : Direction → List Packet
  | .serverbound => state.serverbound
  | .clientbound => state.clientbound

/-- The states of a protocol, in order. -/
structure Protocol where
  states : List ConnectionState
  deriving DecidableEq, Repr

namespace Protocol

/-! ## Rules for one name or id -/

def checkId (name : String) (id : Int) : Except PacketError Nat :=
  if id < 0 then .error (.negativeId name id) else .ok id.toNat

def checkName (what : Named) (name : String) : Except PacketError Unit :=
  if Name.isIdentifier name then .ok () else .error (.invalidName what name)

/-- Takes a name of a direction off the front of a packet name, once. -/
def withoutTitle (direction : Direction) (name : String) : String :=
  if name.toList.take direction.title.length = direction.title.toList then
    String.ofList (name.toList.drop direction.title.length)
  else name

/-- The name of the type of a packet. -/
def structName (direction : Direction) (name : String) : String :=
  Name.camelCase (withoutTitle direction name)

/-! ## Rules among neighbours -/

/-- Checks items in order until the first that is refused. Each is checked against the results
before it, which are given last one first. -/
def checkEach {ε α β : Type} (check : List β → α → Except ε β) (earlier : List β) :
    List α → Except ε (List β)
  | [] => .ok earlier.reverse
  | a :: rest => do
    let b ← check earlier a
    checkEach check (b :: earlier) rest

/-- Checks a packet of a state against the packets before it. -/
def checkPacket (state : String) (direction : Direction) (earlier : List Packet)
    (definition : PacketDefinition) : Except PacketError Packet := do
  let name := definition.name
  let id ← checkId name definition.id
  let structName := structName direction name
  checkName .packet structName
  if let some first := earlier.find? (·.id == id) then
    throw (.duplicatePacketId state direction first.name name id)
  if earlier.any (·.structName == structName) then
    throw (.duplicatePacket state direction structName)
  return { name, structName, id }

/-- Checks a state against the states before it, and then its packets. -/
def checkState (earlier : List ConnectionState) (entry : String × ConnectionDefinition) :
    Except PacketError ConnectionState := do
  let (name, definition) := entry
  let id ← checkId name definition.id
  let lower := Name.snakeCase name
  let variant := Name.camelCase name
  checkName .state lower
  checkName .state variant
  if let some first := earlier.find? (·.id == id) then
    throw (.duplicateStateId first.name name id)
  if let some first := earlier.find? (·.variant == variant) then
    throw (.duplicateState first.name name variant)
  if let some first := earlier.find? (·.lower == lower) then
    throw (.duplicateState first.name name lower)
  let serverbound ← checkEach (checkPacket name .serverbound) [] definition.serverbound
  let clientbound ← checkEach (checkPacket name .clientbound) [] definition.clientbound
  return { name, lower, variant, id, serverbound, clientbound }

/-! ## Documents -/

/-- Checks a document. -/
def ofDocument (document : Document ConnectionDefinition) : Except PacketError Protocol :=
  if document.entries = [] then .error .noStates
  else return ⟨← checkEach checkState [] document.entries⟩

/-- Reads and checks a document. -/
def read (text : String) : Except PacketError Protocol := do
  ofDocument (← ConnectionDefinition.readDocument text)

end Protocol

end GameTables
