import GameTables.Document
import GameTables.Json.Decode
import GameTables.Protocol.Error

/-!
# Connection state definitions

The document of packets: for each connection state its id and its packets in both directions.
-/

namespace GameTables

/-- A packet as the document defines it. -/
structure PacketDefinition where
  name : String
  id : Int
  deriving DecidableEq, Repr

/-- A connection state as the document defines it. -/
structure ConnectionDefinition where
  id : Int
  serverbound : List PacketDefinition
  clientbound : List PacketDefinition
  deriving DecidableEq, Repr

def PacketDefinition.shape : Json.Shape PacketDefinition where
  name := "PacketInfo"
  blank := ⟨"", 0⟩
  fields := [
    .must "name" Json.string fun packet name => { packet with name },
    .must "id" Json.integer32 fun packet id => { packet with id }]

namespace ConnectionDefinition

def packets (state : ConnectionDefinition) : Direction → List PacketDefinition
  | .serverbound => state.serverbound
  | .clientbound => state.clientbound

def shape : Json.Shape ConnectionDefinition where
  name := "StateInfo"
  blank := ⟨0, [], []⟩
  fields := [
    .must "id" Json.integer32 fun state id => { state with id },
    .may "SERVERBOUND" (Json.sequence PacketDefinition.shape.decoder) fun state serverbound =>
      { state with serverbound },
    .may "CLIENTBOUND" (Json.sequence PacketDefinition.shape.decoder) fun state clientbound =>
      { state with clientbound }]

/-- The entries of a text, in the order they are written. -/
def readEntries (text : String) : Except Json.Fault (List (String × ConnectionDefinition)) :=
  (Json.entries shape.decoder).run text

/-- Reads the document of packets. -/
def readDocument (text : String) : Except PacketError (Document ConnectionDefinition) :=
  match readEntries text with
  | .error fault => .error (.json fault)
  | .ok written => .ok (.ofEntries written)

end ConnectionDefinition

end GameTables
