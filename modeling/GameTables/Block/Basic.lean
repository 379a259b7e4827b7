import GameTables.Block.Definition
import GameTables.Offsets
import GameTables.Property.Registry

/-!
# Blocks

A checked block. Block ids are positions in the document, and state ids run through all blocks
without a gap, in the order they appear.
-/

namespace GameTables

structure BlockState where
  id : UInt16
  properties : Document StateValue
  air : Bool
  renderShape : String
  deriving DecidableEq

structure Block where
  name : String
  id : UInt16
  translationKey : String
  defaultStateId : UInt16
  /-- Ids of the properties, in the order they are declared. -/
  properties : List UInt8
  states : List BlockState
  deriving DecidableEq

namespace Block

/-- The number of ids that 16 bits can hold. -/
def maxIds : Nat := 65536

/-- The id of the first state; 0 for a block without states. -/
def firstStateId (block : Block) : UInt16 :=
  (block.states.head?.map (·.id)).getD 0

/-- The id of the last state; 0 for a block without states. -/
def lastStateId (block : Block) : UInt16 :=
  (block.states.getLast?.map (·.id)).getD 0

/-! ## Checking definitions -/

/-- Checks a state of a block, which has to have the given id. -/
def checkState (block : String) (state : StateDefinition) (expected : Nat) :
    Except TableError BlockState :=
  if state.id ≠ expected then .error (.stateIdMismatch block state.id expected)
  else if maxIds ≤ expected then .error (.tooManyIds .states (expected + 1))
  else .ok ⟨UInt16.ofNat expected, state.properties, state.air, state.renderShape⟩

/-- The id of a property that a block names. -/
def propertyId (registry : Registry) (block property : String) : Except TableError UInt8 :=
  match registry.find? property with
  | some found => .ok found.id
  | none => .error (.unknownProperty block property)

/-- Checks the definition at a position whose first state has to have the id `first`. -/
def ofDefinition (registry : Registry) (name : String) (definition : BlockDefinition)
    (position first : Nat) : Except TableError Block := do
  if definition.id ≠ position then throw (.blockIdMismatch name definition.id position)
  if definition.states = [] then throw (.noStates name)
  let properties ← definition.properties.mapM (propertyId registry name)
  let states ← (definition.states.zipIdx first).mapM fun (state, expected) =>
    checkState name state expected
  let last := first + definition.states.length - 1
  if definition.defaultStateId < first ∨ last < definition.defaultStateId then
    throw (.defaultStateOutOfRange name definition.defaultStateId first last)
  return {
    name
    id := UInt16.ofNat position
    translationKey := definition.translationKey
    defaultStateId := UInt16.ofNat definition.defaultStateId
    properties
    states }

/-- Checks all definitions, in order, until the first that breaks a rule. -/
def ofDefinitions (definitions : Document BlockDefinition) (registry : Registry) :
    Except TableError (List Block) := do
  if maxIds < definitions.size then throw (.tooManyIds .blocks definitions.size)
  let firsts := offsets 0 (definitions.entries.map (·.2.states.length))
  (definitions.entries.zip firsts).zipIdx.mapM fun (((name, definition), first), position) =>
    ofDefinition registry name definition position first

end Block

end GameTables
