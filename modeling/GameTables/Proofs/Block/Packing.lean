import GameTables.Proofs.Block.Tables

/-!
# Packing blocks into tables

Any list of blocks, checked or not, either fits the tables or is refused because of its first block that
does not fit. The properties of a block may end beyond the last place at which a block can begin, and a
block without properties is refused like any other when it begins behind that place.
-/

namespace GameTables

namespace BlockWord

/-- The part of the property map that a word describes: where it begins, and its size. -/
def slice (word : BlockWord) : Nat × Nat := (word.offset.toNat, word.count.toNat)

/-- The bits that no part of a word takes up are zero. -/
theorem testBit_pack {bit : Nat} (high : 14 ≤ bit) (offset : UInt16) (count : UInt8) :
    (pack offset count).bits.toNat.testBit bit = false := by
  apply Nat.testBit_lt_two_pow
  calc
    _ < 2 ^ 14 := by rw [toNat_pack]; omega
    _ ≤ 2 ^ bit := Nat.pow_le_pow_right (by decide) high

end BlockWord

namespace BlockTables

variable {blocks : List Block} {tables : BlockTables}

/-! ## Blocks that fit -/

/-- A block fits at a place of the property map: at most 2047 properties come before it, and it has at
most seven. -/
def FitsAt (offset : Nat) (block : Block) : Prop :=
  offset ≤ 2047 ∧ block.properties.length ≤ 7

/-- What is wrong with a block that does not fit: the place, or else its number of properties. -/
def misfit (offset : Nat) (block : Block) : TableError :=
  if 2047 < offset then .propertyOffsetTooLarge block.name offset
  else .tooManyBlockProperties block.name block.properties.length

theorem exists_word_iff {block : Block} {offset : Nat} :
    (∃ result, word block offset = .ok result) ↔ FitsAt offset block := by
  simp [word_eq_ok_iff, FitsAt, maxOffset, maxProperties]

theorem word_eq_error_iff {block : Block} {offset : Nat} {e : TableError} :
    word block offset = .error e ↔ ¬ FitsAt offset block ∧ misfit offset block = e := by
  by_cases far : 2047 < offset
  · simp [word, misfit, FitsAt, maxOffset, far, Nat.not_le.mpr far]
  · by_cases many : 7 < block.properties.length
    · simp [word, misfit, FitsAt, maxOffset, maxProperties, far, many, Nat.not_le.mpr many]
    · simp [word, FitsAt, maxOffset, maxProperties, far, many, Nat.not_lt.mp far, Nat.not_lt.mp many]

theorem exists_ofBlocks_iff :
    (∃ tables, ofBlocks blocks = .ok tables) ↔ ∀ (k : Nat) (block : Block), blocks[k]? = some block →
      FitsAt (beginOf (propertyCounts blocks) k) block := by
  simp only [ofBlocks, exists_return_eq_ok_iff, exists_mapM_eq_ok_iff, forall_mem_zip_offsets,
    exists_word_iff]
  rfl

/-- Blocks are refused because of the first one that does not fit. -/
theorem ofBlocks_eq_error_iff {e : TableError} :
    ofBlocks blocks = .error e ↔ ∃ (k : Nat) (block : Block), blocks[k]? = some block ∧
      ¬ FitsAt (beginOf (propertyCounts blocks) k) block ∧
        (∀ j < k, ∀ earlier, blocks[j]? = some earlier →
          FitsAt (beginOf (propertyCounts blocks) j) earlier) ∧
        misfit (beginOf (propertyCounts blocks) k) block = e := by
  simp only [ofBlocks, return_eq_error_iff, mapM_zip_offsets_eq_error_iff, word_eq_error_iff,
    exists_word_iff]
  refine exists_congr fun k => exists_congr fun block => and_congr_right fun _ => ?_
  rw [and_assoc]
  exact and_congr_right fun _ => and_comm

/-! ## What the tables say -/

/-- What tables say of the block at a place, whose properties begin at a place of the property map. -/
structure Lists (tables : BlockTables) (k offset : Nat) (block : Block) : Prop where
  name : tables.names[k]? = some block.name
  translationKey : tables.translationKeys[k]? = some block.translationKey
  firstState : ∀ state, block.states.head? = some state → tables.firstStateIds[k]? = some state.id
  defaultState : tables.defaultStateIds[k]? = some block.defaultStateId
  /-- The word has both numbers, and its two highest bits are zero. -/
  word : ∃ word, tables.words[k]? = some word ∧ word.slice = (offset, block.properties.length) ∧
    word.bits.toNat.testBit 14 = false ∧ word.bits.toNat.testBit 15 = false
  /-- What the word describes lies inside the map and is the properties, last declared first. -/
  properties : tables.ids? k = some block.properties.reverse

/-- Tables say what the blocks are. -/
structure Packs (blocks : List Block) (tables : BlockTables) : Prop where
  /-- There is one entry for each block. -/
  lengths : tables.names.length = blocks.length ∧ tables.translationKeys.length = blocks.length ∧
    tables.firstStateIds.length = blocks.length ∧ tables.defaultStateIds.length = blocks.length ∧
    tables.words.length = blocks.length
  entries : ∀ (k : Nat) (block : Block), blocks[k]? = some block →
    tables.Lists k (beginOf (propertyCounts blocks) k) block
  /-- The parts that the words describe make up the property map. -/
  tiling : Tiles 0 tables.propertyMap.length (tables.words.map BlockWord.slice)
  /-- The id of a block is repeated for each of its states. -/
  owners : tables.stateBlocks = blocks.flatMap fun block => List.replicate block.states.length block.id

theorem length_words (encoded : ofBlocks blocks = .ok tables) : tables.words.length = blocks.length := by
  obtain ⟨_, _, _, _, checked⟩ := ofBlocks_eq_ok encoded
  rw [length_of_mapM checked]
  simp [propertyCounts]

theorem names_ofBlocks (encoded : ofBlocks blocks = .ok tables) :
    tables.names = blocks.map (·.name) ∧ tables.translationKeys = blocks.map (·.translationKey) := by
  obtain ⟨_, _, same⟩ := bind_eq_ok_iff.mp encoded
  cases same
  exact ⟨rfl, rfl⟩

theorem lists_of_block (encoded : ofBlocks blocks = .ok tables) {k : Nat} {block : Block}
    (at_k : blocks[k]? = some block) : tables.Lists k (beginOf (propertyCounts blocks) k) block := by
  obtain ⟨result, read, made⟩ := word_of_block encoded at_k
  obtain ⟨offset, count⟩ := toNat_of_word made
  obtain ⟨_, _, rfl⟩ := word_eq_ok_iff.mp made
  obtain ⟨firsts, defaults, _⟩ := ofBlocks_eq_ok encoded
  obtain ⟨names, keys⟩ := names_ofBlocks encoded
  refine ⟨?_, ?_, ?_, ?_, ⟨_, read, Prod.ext offset count, ?_, ?_⟩, ids?_of_block encoded at_k⟩
  · rw [names, List.getElem?_map, at_k, Option.map_some]
  · rw [keys, List.getElem?_map, at_k, Option.map_some]
  · intro state first
    rw [firsts, List.getElem?_map, at_k, Option.map_some, Block.firstStateId, first]
    rfl
  · rw [defaults, List.getElem?_map, at_k, Option.map_some]
  · exact BlockWord.testBit_pack (by decide) _ _
  · exact BlockWord.testBit_pack (by decide) _ _

/-- The words describe the properties of each block, each behind those of the blocks before it. -/
theorem slices_ofBlocks (encoded : ofBlocks blocks = .ok tables) :
    tables.words.map BlockWord.slice =
      (offsets 0 (propertyCounts blocks)).zip (propertyCounts blocks) := by
  apply List.ext_getElem?
  intro k
  cases at_k : blocks[k]? with
  | none =>
    rw [List.getElem?_eq_none_iff] at at_k
    rw [List.getElem?_eq_none (by simpa [length_words encoded] using at_k),
      List.getElem?_eq_none (by simpa [propertyCounts] using at_k)]
  | some block =>
    obtain ⟨word, read, slice, _⟩ := (lists_of_block encoded at_k).word
    obtain ⟨inside, _⟩ := List.getElem?_eq_some_iff.mp at_k
    have begun := getElem?_offsets 0 (show k < (propertyCounts blocks).length by simpa [propertyCounts])
    have count : (propertyCounts blocks)[k]? = some block.properties.length := by
      rw [propertyCounts, List.getElem?_map, at_k, Option.map_some]
    rw [Nat.zero_add] at begun
    rw [List.getElem?_map, read, Option.map_some, slice]
    exact (List.getElem?_zip_eq_some.mpr ⟨begun, count⟩).symm

theorem packs_of_ofBlocks (encoded : ofBlocks blocks = .ok tables) : Packs blocks tables := by
  obtain ⟨firsts, defaults, _, owners, _⟩ := ofBlocks_eq_ok encoded
  obtain ⟨names, keys⟩ := names_ofBlocks encoded
  refine ⟨by simp [names, keys, firsts, defaults, length_words encoded],
    fun k block at_k => lists_of_block encoded at_k, ?_, owners⟩
  have tiles := tiles_offsets 0 (propertyCounts blocks)
  rwa [Nat.zero_add, ← length_propertyMap encoded, ← slices_ofBlocks encoded] at tiles

/-- Any list of blocks is packed into tables that say what the blocks are, or is refused because of the
first block that does not fit. -/
theorem ofBlocks_packs (blocks : List Block) :
    ((∃ tables, ofBlocks blocks = .ok tables) ↔ ∀ (k : Nat) (block : Block), blocks[k]? = some block →
      FitsAt (beginOf (propertyCounts blocks) k) block) ∧
    (∀ e, ofBlocks blocks = .error e ↔ ∃ (k : Nat) (block : Block), blocks[k]? = some block ∧
      ¬ FitsAt (beginOf (propertyCounts blocks) k) block ∧
        (∀ j < k, ∀ earlier, blocks[j]? = some earlier →
          FitsAt (beginOf (propertyCounts blocks) j) earlier) ∧
        misfit (beginOf (propertyCounts blocks) k) block = e) ∧
    ∀ tables, ofBlocks blocks = .ok tables → Packs blocks tables :=
  ⟨exists_ofBlocks_iff, fun _ => ofBlocks_eq_error_iff, fun _ => packs_of_ofBlocks⟩

end BlockTables

end GameTables
