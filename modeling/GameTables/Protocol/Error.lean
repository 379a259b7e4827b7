import GameTables.FileSystem.Error
import GameTables.Json.Fault

/-!
# Errors of the packet generator

Everything that stops the generation of the packet sources.
-/

namespace GameTables

/-- Which way a packet travels. -/
inductive Direction where
  | serverbound
  | clientbound
  deriving DecidableEq, Repr

/-- Name of the module of a direction. -/
def Direction.lower : Direction → String
  | .serverbound => "serverbound"
  | .clientbound => "clientbound"

/-- Name of a direction as packet names begin with it. -/
def Direction.title : Direction → String
  | .serverbound => "Serverbound"
  | .clientbound => "Clientbound"

/-- What a derived name stands for. -/
inductive Named where
  | packet
  | state
  deriving DecidableEq, Repr

def Named.describe : Named → String
  | .packet => "packet"
  | .state => "state"

inductive PacketError where
  | file (error : FileError)
  | json (fault : Json.Fault)
  | noStates
  /-- A derived name is no identifier. -/
  | invalidName (what : Named) (name : String)
  | duplicateStateId (first second : String) (id : Nat)
  /-- Two states have the same derived name. -/
  | duplicateState (first second generated : String)
  | duplicatePacketId (state : String) (direction : Direction) (first second : String) (id : Nat)
  | duplicatePacket (state : String) (direction : Direction) (structName : String)
  | negativeId (name : String) (id : Int)

def PacketError.message : PacketError → String
  | .file error => s!"IO error: {error.message}"
  | .json fault => s!"failed to parse packets: {fault.message}"
  | .noStates => "no connection states defined"
  | .invalidName what name => s!"{what.describe} `{name}` does not form a Rust identifier"
  | .duplicateStateId first second id => s!"states `{first}` and `{second}` share id {id}"
  | .duplicateState first second generated =>
    s!"states `{first}` and `{second}` both generate `{generated}`"
  | .duplicatePacketId state direction first second id =>
    s!"{direction.lower} packets `{first}` and `{second}` in state `{state}` share id {id}"
  | .duplicatePacket state direction structName =>
    s!"{direction.lower} packet `{structName}` appears twice in state `{state}`"
  | .negativeId name id => s!"`{name}` has negative id {id}"

end GameTables
