import GameTables.Block.Basic
import GameTables.Block.Word

/-!
# Block tables

Blocks as flat tables. The property map lists the properties of all blocks, those of one block from
the last declared to the first: the first declared property is the most significant digit of the
place of a state within its block.
-/

namespace GameTables

structure BlockTables where
  names : List String
  translationKeys : List String
  firstStateIds : List UInt16
  defaultStateIds : List UInt16
  words : List BlockWord
  /-- Property ids, each block's last declared first. -/
  propertyMap : List UInt8
  /-- For each state the block it belongs to. -/
  stateBlocks : List UInt16
  deriving DecidableEq, Repr

namespace BlockTables

def empty : BlockTables := ⟨[], [], [], [], [], [], []⟩

/-- The largest number of properties of a block. -/
def maxProperties : Nat := 7

/-- The largest place in the property map that a block can begin at. -/
def maxOffset : Nat := 2047

/-- The word of a block whose properties begin at a place of the property map. -/
def word (block : Block) (offset : Nat) : Except TableError BlockWord :=
  if maxOffset < offset then .error (.propertyOffsetTooLarge block.name offset)
  else if maxProperties < block.properties.length then
    .error (.tooManyBlockProperties block.name block.properties.length)
  else .ok (.pack (UInt16.ofNat offset) (UInt8.ofNat block.properties.length))

/-- Lays out the tables of a list of blocks. -/
def ofBlocks (blocks : List Block) : Except TableError BlockTables := do
  let begins := offsets 0 (blocks.map (·.properties.length))
  let words ← (blocks.zip begins).mapM fun (block, offset) => word block offset
  return {
    names := blocks.map (·.name)
    translationKeys := blocks.map (·.translationKey)
    firstStateIds := blocks.map (·.firstStateId)
    defaultStateIds := blocks.map (·.defaultStateId)
    words
    propertyMap := blocks.flatMap (·.properties.reverse)
    stateBlocks := blocks.flatMap fun block => List.replicate block.states.length block.id }

end BlockTables

end GameTables
