import GameTables.Block.Tables
import GameTables.Property.Tables
import GameTables.Text.Layout
import GameTables.Text.Quote

/-!
# Source of the tables

The tables as one source file of three modules, for properties, blocks and states. Words and ids are
written in hexadecimal, at full width.
-/

namespace GameTables.TableSource

open Text (indent listDeclaration fill stack literal)

/-- A number in hexadecimal with at least `width` digits. -/
def hexLiteral (width n : Nat) : String :=
  let digits := Text.hexDigits n
  "0x" ++ String.ofList (List.replicate (width - digits.length) '0' ++ digits)

def word16 (n : UInt16) : String := hexLiteral 4 n.toNat

def word8 (n : UInt8) : String := hexLiteral 2 n.toNat

/-- The declaration of a table of numbers. -/
def numbers (head : String) (items : List String) : List String :=
  listDeclaration 1 head items (fill 2 items)

/-- The declaration of a table of texts. -/
def texts (head : String) (items : List String) : List String :=
  listDeclaration 1 head (items.map literal) (stack 2 (items.map literal))

def countLine (count : Nat) : String :=
  indent 1 s!"pub const COUNT: usize = {count};"

def propertyModule (tables : PropertyTables) : List String :=
  ["pub mod property \x7b",
    countLine tables.words.length,
    indent 1 "/// bits 0-4 value count, 5-6 kind (enum, bool, int from 0,",
    indent 1 "/// int from 1), 8-15 offset into `VALUES` for enums"]
  ++ numbers "pub static FLAGS: [u16; COUNT] = " (tables.words.map fun word => word16 word.bits)
  ++ texts "pub static NAME: [&str; COUNT] = " tables.names
  ++ texts "pub static KEY: [&str; COUNT] = " tables.keys
  ++ texts s!"pub static VALUES: [&str; {tables.values.length}] = " tables.values
  ++ ["\x7d"]

def blockModule (tables : BlockTables) : List String :=
  ["pub mod block \x7b",
    indent 1 "use super::\x7bPropertyId, StateId\x7d;",
    countLine tables.names.length]
  ++ texts "pub static NAME: [&str; COUNT] = " tables.names
  ++ texts "pub static TRANSLATION_KEY: [&str; COUNT] = " tables.translationKeys
  ++ numbers "pub static FIRST_STATE_ID: [StateId; COUNT] = " (tables.firstStateIds.map word16)
  ++ numbers "pub static DEFAULT_STATE_ID: [StateId; COUNT] = " (tables.defaultStateIds.map word16)
  ++ [indent 1 "/// bits 0-10 offset into `PROPERTY_MAP`, 11-13 property count"]
  ++ numbers "pub static PROPERTIES: [u16; COUNT] = " (tables.words.map fun word => word16 word.bits)
  ++ [indent 1 "/// Property ids of each block, last declared first"]
  ++ numbers s!"pub static PROPERTY_MAP: [PropertyId; {tables.propertyMap.length}] = "
    (tables.propertyMap.map word8)
  ++ ["\x7d"]

def stateModule (tables : BlockTables) : List String :=
  ["pub mod state \x7b",
    indent 1 "use super::BlockId;",
    countLine tables.stateBlocks.length]
  ++ numbers "pub static BLOCK: [BlockId; COUNT] = " (tables.stateBlocks.map word16)
  ++ ["\x7d"]

/-- The source of the tables, written by the given generator. -/
def render (generator : String) (properties : PropertyTables) (blocks : BlockTables) : String :=
  Text.generatedFile generator
    (["pub type StateId = u16;", "pub type BlockId = u16;", "pub type PropertyId = u8;"]
      ++ propertyModule properties ++ blockModule blocks ++ stateModule blocks)

/-- The generator that is named when none is given. -/
def defaultGenerator : String := "mc-data-gen"

/-- Generates the source from the two documents. The properties are read, checked and laid out before
the blocks are read. -/
def generate (generator blocksText propertiesText : String) : Except TableError String := do
  let definitions ← PropertyDefinition.readDocument propertiesText
  let registry ← Registry.ofDefinitions definitions
  let properties ← PropertyTables.ofRegistry registry
  let blockDefinitions ← BlockDefinition.readDocument blocksText
  let blocks ← Block.ofDefinitions blockDefinitions registry
  let tables ← BlockTables.ofBlocks blocks
  return render generator properties tables

end GameTables.TableSource
