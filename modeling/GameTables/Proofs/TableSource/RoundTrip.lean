import GameTables.Proofs.TableSource.Reader

/-!
# The source of the tables reads back

The tables, their numbers of entries and the lengths that stand in their declarations are read back
from the source that was rendered from them.
-/

namespace GameTables.TableSource

open Reading
open Text (joinLines indent)

/-- What the source of the tables holds. -/
structure Contents where
  properties : PropertyTables
  blocks : BlockTables
  /-- The numbers that stand in the three modules. -/
  propertyCount : Nat
  blockCount : Nat
  stateCount : Nat
  /-- The lengths that stand in the declarations of the values and of the property map. -/
  valuesSize : Nat
  mapSize : Nat
  deriving DecidableEq, Repr

/-! ## Reading -/

def readPropertyModule : Reader (PropertyTables × Nat × Nat) := do
  expect "pub mod property \x7b"
  let size ← count
  let words ← table "pub static FLAGS: [u16; COUNT] = " fun token => (word16? token).map PropertyWord.mk
  let names ← table "pub static NAME: [&str; COUNT] = " text?
  let keys ← table "pub static KEY: [&str; COUNT] = " text?
  let (valuesSize, values) ← sizedTable "pub static VALUES: [&str; " "] = " text?
  expect "\x7d"
  return (⟨words, names, keys, values⟩, size, valuesSize)

/-- Reads the module of the blocks, which says nothing of the blocks that states belong to. -/
def readBlockModule : Reader (BlockTables × Nat × Nat) := do
  expect "pub mod block \x7b"
  expect "use super::\x7bPropertyId, StateId\x7d;"
  let size ← count
  let names ← table "pub static NAME: [&str; COUNT] = " text?
  let keys ← table "pub static TRANSLATION_KEY: [&str; COUNT] = " text?
  let firsts ← table "pub static FIRST_STATE_ID: [StateId; COUNT] = " word16?
  let defaults ← table "pub static DEFAULT_STATE_ID: [StateId; COUNT] = " word16?
  let words ← table "pub static PROPERTIES: [u16; COUNT] = " fun token => (word16? token).map BlockWord.mk
  let (mapSize, map) ← sizedTable "pub static PROPERTY_MAP: [PropertyId; " "] = " word8?
  expect "\x7d"
  return (⟨names, keys, firsts, defaults, words, map, []⟩, size, mapSize)

def readStateModule : Reader (List UInt16 × Nat) := do
  expect "pub mod state \x7b"
  expect "use super::BlockId;"
  let size ← count
  let blocks ← table "pub static BLOCK: [BlockId; COUNT] = " word16?
  expect "\x7d"
  return (blocks, size)

def readContents : Reader Contents := do
  expect "pub type StateId = u16;"
  expect "pub type BlockId = u16;"
  expect "pub type PropertyId = u8;"
  let (properties, propertyCount, valuesSize) ← readPropertyModule
  let (blocks, blockCount, mapSize) ← readBlockModule
  let (stateBlocks, stateCount) ← readStateModule
  return ⟨properties, { blocks with stateBlocks }, propertyCount, blockCount, stateCount, valuesSize, mapSize⟩

/-- Reads the source of the tables. Nothing may stand behind it. -/
def read (source : String) : Option Contents := do
  let tokens ← tokens? source
  let (contents, rest) ← readContents tokens
  if rest.isEmpty then some contents else none

/-! ## Items -/

theorem hexLiteral_eq (width n : Nat) : ∃ zeros, hexLiteral width n =
    String.ofList ('0' :: 'x' :: (List.replicate zeros '0' ++ Nat.toDigits 16 n)) := by
  refine ⟨width - (Text.hexDigits n).length, String.toList_injective ?_⟩
  simp [hexLiteral, Text.hexDigits]

theorem item_hexLiteral (width n : Nat) :
    ∃ token, Item (hexLiteral width n) token ∧ hexadecimal? token = some n := by
  obtain ⟨zeros, shape⟩ := hexLiteral_eq width n
  have number : hexadecimal? (.word ('0' :: 'x' :: (List.replicate zeros '0' ++ Nat.toDigits 16 n))) =
      some n := number?_toDigits (by decide) (by decide) zeros n
  refine ⟨_, shape ▸ item_word (by simp) ?_, number⟩
  have digits : ∀ c ∈ Nat.toDigits 16 n, isWordChar c := isWordChar_digits (by decide) (by decide) n
  intro c member
  simp only [List.mem_cons, List.mem_append, List.mem_replicate] at member
  rcases member with rfl | rfl | ⟨_, rfl⟩ | member
  · rfl
  · rfl
  · rfl
  · exact digits c member

theorem undoes_word16 : Undoes word16? word16 where
  marks _ := rfl
  reads value := by
    obtain ⟨token, item, number⟩ := item_hexLiteral 4 value.toNat
    exact ⟨token, item, by simp [word16?, number, value.toNat_lt]⟩

theorem undoes_word8 : Undoes word8? word8 where
  marks _ := rfl
  reads value := by
    obtain ⟨token, item, number⟩ := item_hexLiteral 2 value.toNat
    exact ⟨token, item, by simp [word8?, number, value.toNat_lt]⟩

theorem recovers_count (n : Nat) : Recovers count [countLine n] n := by
  have begun : Lexes "pub const COUNT: usize = " _ := rfl
  have ended : Lexes ";" [.mark ';'] := rfl
  obtain ⟨token, lexes, number⟩ := lexes_number begun (by decide) ended n
  refine ⟨_, lexes_line (lexes.indent 1), ?_⟩
  exact (takes_expect begun).bind ((takes_one number).bind ((takes_expect ended).bind (takes_pure n)))

/-! ## Modules -/

theorem recovers_propertyModule (tables : PropertyTables) :
    Recovers readPropertyModule (propertyModule tables)
      (tables, tables.words.length, tables.values.length) := by
  have words := undoes_word16.map PropertyWord.mk PropertyWord.bits fun _ => rfl
  simp only [propertyModule, List.append_assoc, List.cons_append, List.nil_append]
  refine (recovers_expect (by decide)).cons ?_
  refine (recovers_count _).cons ?_
  refine Recovers.comment 1 (by decide) (by decide) ?_
  refine Recovers.comment 1 (by decide) (by decide) ?_
  refine (recovers_table words (spreads_fill 2) (by decide) tables.words).bind ?_
  refine (recovers_table undoes_text (spreads_stack 2) (by decide) tables.names).bind ?_
  refine (recovers_table undoes_text (spreads_stack 2) (by decide) tables.keys).bind ?_
  refine (recovers_sizedTable undoes_text (spreads_stack 2) (by decide) (by decide) (by decide)
    tables.values.length tables.values).bind ?_
  exact recovers_last (by decide) _

theorem recovers_blockModule (tables : BlockTables) :
    Recovers readBlockModule (blockModule tables)
      ({ tables with stateBlocks := [] }, tables.names.length, tables.propertyMap.length) := by
  have words := undoes_word16.map BlockWord.mk BlockWord.bits fun _ => rfl
  simp only [blockModule, List.append_assoc, List.cons_append, List.nil_append]
  refine (recovers_expect (by decide)).cons ?_
  refine (recovers_indented 1 (by decide)).cons ?_
  refine (recovers_count _).cons ?_
  refine (recovers_table undoes_text (spreads_stack 2) (by decide) tables.names).bind ?_
  refine (recovers_table undoes_text (spreads_stack 2) (by decide) tables.translationKeys).bind ?_
  refine (recovers_table undoes_word16 (spreads_fill 2) (by decide) tables.firstStateIds).bind ?_
  refine (recovers_table undoes_word16 (spreads_fill 2) (by decide) tables.defaultStateIds).bind ?_
  refine Recovers.comment 1 (by decide) (by decide) ?_
  refine (recovers_table words (spreads_fill 2) (by decide) tables.words).bind ?_
  refine Recovers.comment 1 (by decide) (by decide) ?_
  refine (recovers_sizedTable undoes_word8 (spreads_fill 2) (by decide) (by decide) (by decide)
    tables.propertyMap.length tables.propertyMap).bind ?_
  exact recovers_last (by decide) _

theorem recovers_stateModule (tables : BlockTables) :
    Recovers readStateModule (stateModule tables) (tables.stateBlocks, tables.stateBlocks.length) := by
  simp only [stateModule, List.cons_append, List.nil_append]
  refine (recovers_expect (by decide)).cons ?_
  refine (recovers_indented 1 (by decide)).cons ?_
  refine (recovers_count _).cons ?_
  refine (recovers_table undoes_word16 (spreads_fill 2) (by decide) tables.stateBlocks).bind ?_
  exact recovers_last (by decide) _

/-! ## The whole source -/

/-- What the source of some tables says: the tables, and the numbers of their entries. -/
def Contents.ofTables (properties : PropertyTables) (blocks : BlockTables) : Contents where
  properties := properties
  blocks := blocks
  propertyCount := properties.words.length
  blockCount := blocks.names.length
  stateCount := blocks.stateBlocks.length
  valuesSize := properties.values.length
  mapSize := blocks.propertyMap.length

theorem recovers_contents (properties : PropertyTables) (blocks : BlockTables) :
    Recovers readContents
      (["pub type StateId = u16;", "pub type BlockId = u16;", "pub type PropertyId = u8;"]
        ++ propertyModule properties ++ blockModule blocks ++ stateModule blocks)
      (.ofTables properties blocks) := by
  simp only [List.append_assoc, List.cons_append, List.nil_append]
  refine (recovers_expect (by decide)).cons ?_
  refine (recovers_expect (by decide)).cons ?_
  refine (recovers_expect (by decide)).cons ?_
  refine (recovers_propertyModule properties).bind ?_
  refine (recovers_blockModule blocks).bind ?_
  rw [← List.append_nil (stateModule blocks)]
  exact (recovers_stateModule blocks).bind (recovers_pure _)

theorem read_of_recovers {lines : List String} {contents : Contents}
    (recovers : Recovers readContents lines contents) : read (joinLines lines) = some contents := by
  obtain ⟨tokens, lexed, taken⟩ := recovers.all_read
  simp [read, lexed, taken]

/-- The source begins with a line that names the generator and an empty line, and the tables are read
back from what follows. Tables with the same source are the same. -/
theorem read_render (generator : String) :
    (∀ properties blocks, ∃ source,
      render generator properties blocks = "// Automatically generated by " ++ generator ++ "\n\n" ++ source ∧
        read source = some (.ofTables properties blocks)) ∧
    Function.Injective fun tables : PropertyTables × BlockTables => render generator tables.1 tables.2 := by
  have reads : ∀ properties blocks, ∃ source,
      render generator properties blocks = "// Automatically generated by " ++ generator ++ "\n\n" ++ source ∧
        read source = some (.ofTables properties blocks) := by
    intro properties blocks
    exact ⟨_, rfl, read_of_recovers (recovers_contents properties blocks)⟩
  refine ⟨reads, ?_⟩
  intro (properties, blocks) (properties', blocks') same
  obtain ⟨source, rendered, contents⟩ := reads properties blocks
  obtain ⟨source', rendered', contents'⟩ := reads properties' blocks'
  have sources : source = source' :=
    (String.append_right_inj _).mp (rendered.symm.trans (same.trans rendered'))
  subst sources
  have read_same := Option.some.inj (contents.symm.trans contents')
  obtain ⟨rfl, rfl⟩ : properties = properties' ∧ blocks = blocks' :=
    ⟨congrArg Contents.properties read_same, congrArg Contents.blocks read_same⟩
  rfl

end GameTables.TableSource
