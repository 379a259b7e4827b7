import GameTables.Document
import GameTables.Json.Value
import GameTables.TableError

/-!
# Block definitions

The document of blocks: for each name the ids, the names of its properties and its states as they
were extracted from the game.
-/

namespace GameTables

/-- The value that a state gives to a property of its block. -/
inductive StateValue where
  | boolean (b : Bool)
  | integer (n : Int)
  | string (s : String)
  deriving DecidableEq, Repr

/-- Reads a value inside the object of property values of a state. -/
def StateValue.decoder : Json.Decoder StateValue := fun room => do
  match ← Json.value room with
  | .boolean b => return .boolean b
  | .number (.integer n) =>
    if n ≤ Json.maxSigned64 then return .integer n
    else Json.failInObject (.noAlternative "StateValue")
  | .string s => return .string s
  | _ => Json.failInObject (.noAlternative "StateValue")

structure StateDefinition where
  id : Nat
  properties : Document StateValue
  air : Bool
  renderShape : String
  deriving DecidableEq

structure BlockDefinition where
  id : Nat
  translationKey : String
  defaultStateId : Nat
  /-- Internal names of the properties, in the order they are declared. -/
  properties : List String
  states : List StateDefinition
  deriving DecidableEq

def StateDefinition.shape : Json.Shape StateDefinition where
  name := "StateDef"
  blank := ⟨0, .empty, false, ""⟩
  fields := [
    .must "stateId" Json.natural64 fun state id => { state with id },
    .may "properties" (Json.entries StateValue.decoder) fun state written =>
      { state with properties := .ofEntries written },
    .must "air" Json.boolean fun state air => { state with air },
    .must "renderShape" Json.string fun state renderShape => { state with renderShape }]

namespace BlockDefinition

def shape : Json.Shape BlockDefinition where
  name := "BlockDef"
  blank := ⟨0, "", 0, [], []⟩
  fields := [
    .must "id" Json.natural64 fun block id => { block with id },
    .must "translationKey" Json.string fun block translationKey => { block with translationKey },
    .must "defaultStateId" Json.natural64 fun block defaultStateId => { block with defaultStateId },
    .may "properties" (Json.sequence Json.string) fun block properties =>
      { block with properties },
    .must "states" (Json.sequence StateDefinition.shape.decoder) fun block states =>
      { block with states }]

/-- The entries of a text, in the order they are written. -/
def readEntries (text : String) : Except Json.Fault (List (String × BlockDefinition)) :=
  (Json.entries shape.decoder).run text

/-- Reads the document of blocks. -/
def readDocument (text : String) : Except TableError (Document BlockDefinition) :=
  match readEntries text with
  | .error fault => .error (.json .blocks fault)
  | .ok written => .ok (.ofEntries written)

end BlockDefinition

end GameTables
