import GameTables.Block.Tables
import GameTables.Proofs.Block.Resolution
import GameTables.Proofs.Property.Tables

/-!
# The block tables divide the states among the blocks

Each block owns the states from its first one up to the first one of the next block. The tables that
say so are filled from different data: the first states from the ids of states, the owners from the
ids of blocks and the numbers of states.
-/

namespace GameTables.BlockTables

open Block (Matches stateCounts)

variable {registry : Registry} {definitions : Document BlockDefinition} {blocks : List Block}
  {tables : BlockTables}

theorem word_eq_ok_iff {block : Block} {offset : Nat} {result : BlockWord} :
    word block offset = .ok result ↔
      offset ≤ maxOffset ∧ block.properties.length ≤ maxProperties ∧
        BlockWord.pack (UInt16.ofNat offset) (UInt8.ofNat block.properties.length) = result := by
  unfold word
  by_cases far : maxOffset < offset
  · simp [far, Nat.not_le.mpr far]
  · by_cases many : maxProperties < block.properties.length
    · simp [far, many, Nat.not_le.mpr many]
    · simp [far, many, Nat.not_lt.mp far, Nat.not_lt.mp many]

/-- How many properties each block lists. -/
def propertyCounts (blocks : List Block) : List Nat :=
  blocks.map (·.properties.length)

/-- The columns of the tables, and the check that makes the words. -/
theorem ofBlocks_eq_ok (encoded : ofBlocks blocks = .ok tables) :
    tables.firstStateIds = blocks.map (·.firstStateId) ∧
      tables.defaultStateIds = blocks.map (·.defaultStateId) ∧
      tables.propertyMap = blocks.flatMap (·.properties.reverse) ∧
      tables.stateBlocks = blocks.flatMap (fun block => List.replicate block.states.length block.id) ∧
      ((blocks.zip (offsets 0 (propertyCounts blocks))).mapM
        fun (block, offset) => word block offset) = .ok tables.words := by
  obtain ⟨words, checked, same⟩ := bind_eq_ok_iff.mp encoded
  cases same
  exact ⟨rfl, rfl, rfl, rfl, checked⟩

theorem word_of_block (encoded : ofBlocks blocks = .ok tables) {b : Nat} {block : Block}
    (at_b : blocks[b]? = some block) :
    ∃ result, tables.words[b]? = some result ∧
      word block (beginOf (propertyCounts blocks) b) = .ok result := by
  obtain ⟨_, _, _, _, checked⟩ := ofBlocks_eq_ok encoded
  exact result_of_mapM checked (getElem?_zip_offsets at_b)

/-- The property ids that the map lists for a block, in the order in which they are stored. -/
def ids? (tables : BlockTables) (b : Nat) : Option (List UInt8) := do
  let word ← tables.words[b]?
  if word.stop ≤ tables.propertyMap.length then
    return (tables.propertyMap.drop word.offset.toNat).take word.count.toNat
  else none

/-- A word keeps the place where the properties of a block begin and their number. -/
theorem toNat_of_word {block : Block} {offset : Nat} {result : BlockWord}
    (made : word block offset = .ok result) :
    result.offset.toNat = offset ∧ result.count.toNat = block.properties.length := by
  obtain ⟨near, few, rfl⟩ := word_eq_ok_iff.mp made
  rw [BlockWord.toNat_offset_pack, BlockWord.toNat_count_pack, UInt16.toNat_ofNat', UInt8.toNat_ofNat']
  simp only [maxOffset, maxProperties] at near few
  omega

theorem length_propertyMap (encoded : ofBlocks blocks = .ok tables) :
    tables.propertyMap.length = (propertyCounts blocks).sum := by
  obtain ⟨_, _, map, _, _⟩ := ofBlocks_eq_ok encoded
  rw [map, List.length_flatMap]
  simp [propertyCounts]

/-- The map lists the properties of a block from the last declared to the first. -/
theorem ids?_of_block (encoded : ofBlocks blocks = .ok tables) {b : Nat} {block : Block}
    (at_b : blocks[b]? = some block) : tables.ids? b = some block.properties.reverse := by
  obtain ⟨_, _, map, _, _⟩ := ofBlocks_eq_ok encoded
  obtain ⟨result, read, made⟩ := word_of_block encoded at_b
  obtain ⟨offset, count⟩ := toNat_of_word made
  have counts : blocks.map (fun block => block.properties.reverse.length) = propertyCounts blocks := by
    simp [propertyCounts]
  have cut := slice_flatMap (f := fun block : Block => block.properties.reverse) at_b
  rw [counts, List.length_reverse, ← map] at cut
  have listed : (propertyCounts blocks)[b]? = some block.properties.length := by
    rw [propertyCounts, List.getElem?_map, at_b, Option.map_some]
  have inside := end_le_sum listed
  simp [ids?, read, BlockWord.stop, offset, count, cut, length_propertyMap encoded, inside]

/-- The position of the block that owns a state. -/
def owner? (tables : BlockTables) (s : Nat) : Option Nat :=
  tables.stateBlocks[s]?.map (·.toNat)

/-- Tables divide the states of a document among its blocks. -/
structure Divides (definitions : Document BlockDefinition) (blocks : List Block)
    (tables : BlockTables) : Prop where
  /-- There is an owner for each state, and 16 bits number all states. -/
  total : tables.stateBlocks.length = (blocks.map (·.states.length)).sum ∧
    tables.stateBlocks.length ≤ 65536
  /-- Each block has a first state, and these increase from 0 on. -/
  firsts : tables.firstStateIds.length = blocks.length ∧
    (blocks ≠ [] → tables.firstStateIds[0]? = some 0) ∧ tables.firstStateIds.Pairwise (· < ·)
  /-- A block owns the states from its first one up to the first one of the next block. -/
  owners : ∀ s b, s < tables.stateBlocks.length → b < blocks.length →
    (tables.owner? s = some b ↔
      (∃ first, tables.firstStateIds[b]? = some first ∧ first.toNat ≤ s) ∧
        ∀ next, tables.firstStateIds[b + 1]? = some next → s < next.toNat)
  /-- Owners do not decrease, and every block owns a state. -/
  monotone : tables.stateBlocks.Pairwise (· ≤ ·)
  onto : ∀ b < blocks.length, ∃ s, tables.owner? s = some b
  /-- A block owns its default state. -/
  defaults : ∀ b < blocks.length, ∃ default, tables.defaultStateIds[b]? = some default ∧
    tables.owner? default.toNat = some b
  /-- A state is recorded at its place among the states of its owner. -/
  records : ∀ s b, tables.owner? s = some b →
    ∃ (block : Block) (first : UInt16) (state : BlockState), blocks[b]? = some block ∧
      tables.firstStateIds[b]? = some first ∧ first.toNat ≤ s ∧
      block.states[s - first.toNat]? = some state ∧ state.id.toNat = s
  /-- The ids are the ones that the document declares. -/
  ids : ∀ (b : Nat) (block : Block), blocks[b]? = some block →
    ∃ name definition, definitions.entries[b]? = some (name, definition) ∧
      block.id.toNat = b ∧ block.id.toNat = definition.id ∧
      block.defaultStateId.toNat = definition.defaultStateId ∧
      block.states.map (·.id.toNat) = definition.states.map (·.id)

/-! ## Owners of states -/

section

variable (resolved : Block.ofDefinitions definitions registry = .ok blocks)
  (encoded : ofBlocks blocks = .ok tables)
include resolved encoded

theorem length_stateBlocks : tables.stateBlocks.length = (stateCounts definitions).sum := by
  obtain ⟨_, _, _, owners, _⟩ := ofBlocks_eq_ok encoded
  rw [owners, List.length_flatMap, ← Block.map_length_states resolved]
  simp

/-- The states of a block come after those of the blocks before it, and it owns them. -/
theorem owner_of_block {b j : Nat} {block : Block} (at_b : blocks[b]? = some block)
    (inside : j < block.states.length) :
    tables.stateBlocks[beginOf (stateCounts definitions) b + j]? = some block.id := by
  obtain ⟨_, _, _, owners, _⟩ := ofBlocks_eq_ok encoded
  have part := getElem?_flatMap
    (f := fun block : Block => List.replicate block.states.length block.id) at_b
    (by rwa [List.length_replicate] : j < _)
  simp only [List.length_replicate, Block.map_length_states resolved,
    List.getElem?_replicate_of_lt inside] at part
  rw [owners, part]

/-- The owner of a state is the block whose part of the states it lies in. -/
theorem owner?_iff {s b : Nat} : tables.owner? s = some b ↔ InItem (stateCounts definitions) b s := by
  have owner : ∀ b', InItem (stateCounts definitions) b' s → tables.owner? s = some b' := by
    intro b' item
    obtain ⟨block, found, lower, upper⟩ := Block.block_of_inItem resolved item
    obtain ⟨_, _, _, numbers⟩ := Block.matches_of_block resolved found
    have owned := owner_of_block resolved encoded found
      (show s - beginOf (stateCounts definitions) b' < block.states.length by omega)
    rw [Nat.add_sub_cancel' lower] at owned
    rw [owner?, owned, Option.map_some, numbers.id.2]
  constructor
  · intro owned
    obtain ⟨id, found, _⟩ := Option.map_eq_some_iff.mp owned
    obtain ⟨inside, _⟩ := List.getElem?_eq_some_iff.mp found
    rw [length_stateBlocks resolved encoded] at inside
    obtain ⟨b', item⟩ := exists_inItem inside
    rw [owner b' item, Option.some.injEq] at owned
    exact owned ▸ item
  · exact owner b

/-- The first state of a block is numbered by the states before it. -/
theorem firstStateId_at {b : Nat} {block : Block} (at_b : blocks[b]? = some block) :
    ∃ first, tables.firstStateIds[b]? = some first ∧
      first.toNat = beginOf (stateCounts definitions) b := by
  obtain ⟨firsts, _⟩ := ofBlocks_eq_ok encoded
  obtain ⟨_, _, _, numbers⟩ := Block.matches_of_block resolved at_b
  refine ⟨block.firstStateId, by rw [firsts, List.getElem?_map, at_b]; rfl, ?_⟩
  obtain ⟨state, rest, states⟩ := List.exists_cons_of_length_pos numbers.some_state
  obtain ⟨same, _⟩ := numbers.states 0 state (by rw [states]; rfl)
  rw [Block.firstStateId, states]
  exact same

theorem firstStateId_eq {b : Nat} {first : UInt16} (at_b : tables.firstStateIds[b]? = some first) :
    ∃ block, blocks[b]? = some block ∧ first.toNat = beginOf (stateCounts definitions) b := by
  obtain ⟨firsts, _⟩ := ofBlocks_eq_ok encoded
  have column := at_b
  rw [firsts, List.getElem?_map, Option.map_eq_some_iff] at column
  obtain ⟨block, found, _⟩ := column
  obtain ⟨first', found', same⟩ := firstStateId_at resolved encoded found
  rw [at_b, Option.some.injEq] at found'
  exact ⟨block, found, found' ▸ same⟩

/-- A block owns states from its first one up to the first one of the next block. -/
theorem inItem_iff {s b : Nat} (inside : s < tables.stateBlocks.length) (at_most : b < blocks.length) :
    InItem (stateCounts definitions) b s ↔
      (∃ first, tables.firstStateIds[b]? = some first ∧ first.toNat ≤ s) ∧
        ∀ next, tables.firstStateIds[b + 1]? = some next → s < next.toNat := by
  obtain ⟨block, found⟩ : ∃ block, blocks[b]? = some block := ⟨_, List.getElem?_eq_getElem at_most⟩
  obtain ⟨first, first_at, begins⟩ := firstStateId_at resolved encoded found
  have count : (stateCounts definitions)[b]? = some block.states.length := by
    rw [← Block.map_length_states resolved, List.getElem?_map, found, Option.map_some]
  constructor
  · rintro ⟨_, at_b, lower, upper⟩
    refine ⟨⟨first, first_at, by omega⟩, fun next next_at => ?_⟩
    obtain ⟨_, _, ends⟩ := firstStateId_eq resolved encoded next_at
    rw [ends, beginOf_succ at_b]
    exact upper
  · rintro ⟨⟨first', first'_at, lower⟩, before_next⟩
    rw [first_at, Option.some.injEq] at first'_at
    subst first'_at
    refine ⟨_, count, by omega, ?_⟩
    rw [← beginOf_succ count]
    by_cases more : b + 1 < blocks.length
    · obtain ⟨next, next_at, ends⟩ :=
        firstStateId_at resolved encoded (List.getElem?_eq_getElem more)
      rw [← ends]
      exact before_next next next_at
    · have last : b + 1 = (stateCounts definitions).length := by
        rw [← Block.map_length_states resolved, List.length_map]
        omega
      rw [last, beginOf_length, ← length_stateBlocks resolved encoded]
      exact inside

/-- The first states are those of the document's blocks laid end to end. -/
theorem firsts_increase : tables.firstStateIds.length = blocks.length ∧
    (blocks ≠ [] → tables.firstStateIds[0]? = some 0) ∧ tables.firstStateIds.Pairwise (· < ·) := by
  obtain ⟨firsts, _⟩ := ofBlocks_eq_ok encoded
  refine ⟨by rw [firsts, List.length_map], fun some_block => ?_, ?_⟩
  · obtain ⟨block, rest, rfl⟩ := List.exists_cons_of_ne_nil some_block
    obtain ⟨first, first_at, begins⟩ := firstStateId_at resolved encoded (List.getElem?_cons_zero)
    rw [beginOf_zero] at begins
    rw [first_at, UInt16.toNat_inj.mp (show first.toNat = (0 : UInt16).toNat from begins)]
  · rw [List.pairwise_iff_getElem]
    intro i j inside_i inside_j order
    obtain ⟨block, found, begins_i⟩ :=
      firstStateId_eq resolved encoded (List.getElem?_eq_getElem inside_i)
    obtain ⟨_, _, begins_j⟩ := firstStateId_eq resolved encoded (List.getElem?_eq_getElem inside_j)
    obtain ⟨_, _, _, numbers⟩ := Block.matches_of_block resolved found
    obtain ⟨count, at_i, _, apart⟩ := Block.inItem_of_block resolved found (Nat.le_refl _)
      (Nat.lt_add_of_pos_right numbers.some_state)
    have ends := end_le_beginOf at_i order
    rw [UInt16.lt_iff_toNat_lt, begins_i, begins_j]
    omega

theorem owners_monotone : tables.stateBlocks.Pairwise (· ≤ ·) := by
  rw [List.pairwise_iff_getElem]
  intro s s' inside inside' order
  have item := (owner?_iff resolved encoded (s := s)).mp (by
    rw [owner?, List.getElem?_eq_getElem inside, Option.map_some])
  have item' := (owner?_iff resolved encoded (s := s')).mp (by
    rw [owner?, List.getElem?_eq_getElem inside', Option.map_some])
  exact UInt16.le_iff_toNat_le.mpr (item.mono item' (Nat.le_of_lt order))

theorem owner_of_default {b : Nat} (at_most : b < blocks.length) :
    ∃ default, tables.defaultStateIds[b]? = some default ∧ tables.owner? default.toNat = some b := by
  obtain ⟨_, defaults, _⟩ := ofBlocks_eq_ok encoded
  have found := List.getElem?_eq_getElem at_most
  obtain ⟨_, _, _, numbers⟩ := Block.matches_of_block resolved found
  obtain ⟨same, lower, upper⟩ := numbers.default
  refine ⟨_, by rw [defaults, List.getElem?_map, found, Option.map_some], ?_⟩
  rw [owner?_iff resolved encoded, same]
  exact Block.inItem_of_block resolved found lower upper

/-- The record of a state stands at its place among the states of its owner. -/
theorem record_of_owner {s b : Nat} (owned : tables.owner? s = some b) :
    ∃ (block : Block) (first : UInt16) (state : BlockState), blocks[b]? = some block ∧
      tables.firstStateIds[b]? = some first ∧ first.toNat ≤ s ∧
      block.states[s - first.toNat]? = some state ∧ state.id.toNat = s := by
  obtain ⟨block, found, lower, upper⟩ :=
    Block.block_of_inItem resolved ((owner?_iff resolved encoded).mp owned)
  obtain ⟨first, first_at, begins⟩ := firstStateId_at resolved encoded found
  obtain ⟨_, _, _, numbers⟩ := Block.matches_of_block resolved found
  have recorded : block.states[s - first.toNat]? = _ := List.getElem?_eq_getElem (by omega)
  obtain ⟨same, _⟩ := numbers.states _ _ recorded
  exact ⟨block, first, _, found, first_at, by omega, recorded, by omega⟩

/-- The block tables of a checked document divide its states among its blocks. -/
theorem divides_ofBlocks : Divides definitions blocks tables := by
  have length := length_stateBlocks resolved encoded
  refine ⟨⟨?_, ?_⟩, firsts_increase resolved encoded, ?_, owners_monotone resolved encoded, ?_,
    fun b at_most => owner_of_default resolved encoded at_most,
    fun s b owned => record_of_owner resolved encoded owned,
    fun b block found => Block.declared_ids resolved found⟩
  · rw [length, Block.map_length_states resolved]
  · rw [length]
    exact Block.sum_stateCounts_le resolved
  · intro s b inside at_most
    rw [owner?_iff resolved encoded, inItem_iff resolved encoded inside at_most]
  · intro b at_most
    have found := List.getElem?_eq_getElem at_most
    obtain ⟨_, _, _, numbers⟩ := Block.matches_of_block resolved found
    exact ⟨_, (owner?_iff resolved encoded).mpr (Block.inItem_of_block resolved found (Nat.le_refl _)
      (Nat.lt_add_of_pos_right numbers.some_state))⟩

end

/-- The state with an id, and nothing else of note. -/
def sampleState (id : Nat) : StateDefinition := ⟨id, .empty, false, "MODEL"⟩

/-- A document with blocks of no, one and several properties. -/
def sample : Document BlockDefinition :=
  ⟨[("air", ⟨0, "block.air", 0, [], [sampleState 0]⟩),
    ("crop", ⟨1, "block.crop", 3, ["age"], [1, 2, 3].map sampleState⟩),
    ("door", ⟨2, "block.door", 7, ["facing", "half", "lit"],
      [4, 5, 6, 7, 8, 9, 10, 11, 12, 13, 14, 15].map sampleState⟩)], by decide⟩

theorem divides_sample : ∃ blocks tables,
    Block.ofDefinitions sample PropertyTables.sampleRegistry = .ok blocks ∧
      ofBlocks blocks = .ok tables ∧ tables.stateBlocks.length = 16 ∧
      Divides sample blocks tables := by
  have resolved : Block.ofDefinitions sample PropertyTables.sampleRegistry = .ok _ := rfl
  exact ⟨_, _, resolved, rfl, rfl, divides_ofBlocks resolved rfl⟩

end GameTables.BlockTables
