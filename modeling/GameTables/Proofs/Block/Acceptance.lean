import GameTables.Proofs.Block.Packing

/-!
# Which documents of blocks are accepted

A block is checked against its position and the number of states before it, and its word is packed for
the place where its properties begin. All blocks pass exactly if the document keeps the rules below,
which are stated of the ids as they are declared.
-/

namespace GameTables

/-- The rules for a document of blocks whose properties are all to be known. -/
structure BlocksValid (known : List String) (document : Document BlockDefinition) : Prop where
  /-- Block ids are positions, and 16 bits number all blocks. -/
  size : document.size ≤ 65536
  ids : ∀ (b : Nat) (entry : String × BlockDefinition), document.entries[b]? = some entry →
    entry.2.id = b
  some_state : ∀ entry ∈ document.entries, entry.2.states ≠ []
  properties : ∀ entry ∈ document.entries, ∀ name ∈ entry.2.properties, name ∈ known
  /-- A block has at most seven properties, and at most 2047 come before them. -/
  few : ∀ entry ∈ document.entries, entry.2.properties.length ≤ 7
  near : ∀ b < document.size,
    ((document.entries.take b).map fun entry => entry.2.properties.length).sum ≤ 2047
  /-- The states of all blocks are numbered through, and 16 bits number them. -/
  stateIds : ∃ count ≤ 65536,
    (document.entries.flatMap fun entry => entry.2.states.map (·.id)) = List.range count
  /-- The default state is one of the states of its block. -/
  defaults : ∀ entry ∈ document.entries, ∃ first last, entry.2.states.head? = some first ∧
    entry.2.states.getLast? = some last ∧ first.id ≤ entry.2.defaultStateId ∧
    entry.2.defaultStateId ≤ last.id

namespace Block

variable {registry : Registry} {document : Document BlockDefinition}

/-- What a definition needs for a block, at a position and behind a number of states. -/
structure Fits (registry : Registry) (definition : BlockDefinition) (position first : Nat) : Prop where
  id : definition.id = position
  some_state : definition.states ≠ []
  properties : ∀ name ∈ definition.properties, ∃ property, registry.find? name = some property
  states : ∀ (j : Nat) (state : StateDefinition), definition.states[j]? = some state →
    state.id = first + j ∧ first + j < maxIds
  default : first ≤ definition.defaultStateId ∧
    definition.defaultStateId ≤ first + definition.states.length - 1

theorem exists_ofDefinition_iff {name : String} {definition : BlockDefinition} {position first : Nat} :
    (∃ block, ofDefinition registry name definition position first = .ok block) ↔
      Fits registry definition position first := by
  simp only [ofDefinition_eq_ok_iff]
  constructor
  · rintro ⟨block, id, some_state, properties, named, states, checked, lower, upper, _⟩
    refine ⟨id, some_state, fun property member => ?_, fun j state at_j => ?_, lower, upper⟩
    · obtain ⟨id, resolved⟩ := exists_mapM_eq_ok_iff.mp ⟨_, named⟩ property member
      obtain ⟨found, registered, _⟩ := propertyId_eq_ok_iff.mp resolved
      exact ⟨found, registered⟩
    · have member : (state, first + j) ∈ definition.states.zipIdx first := by
        rw [List.mk_mem_zipIdx_iff_le_and_getElem?_sub, Nat.add_sub_cancel_left]
        exact ⟨Nat.le_add_right _ _, at_j⟩
      obtain ⟨_, passed⟩ := exists_mapM_eq_ok_iff.mp ⟨_, checked⟩ _ member
      obtain ⟨same, small, _⟩ := checkState_eq_ok_iff.mp passed
      exact ⟨same, small⟩
  · intro fits
    have named : ∀ property ∈ definition.properties,
        ∃ id, propertyId registry name property = .ok id := by
      intro property member
      obtain ⟨found, registered⟩ := fits.properties property member
      exact ⟨found.id, propertyId_eq_ok_iff.mpr ⟨found, registered, rfl⟩⟩
    have checked : ∀ item ∈ definition.states.zipIdx first,
        ∃ state, checkState name item.1 item.2 = .ok state := by
      rintro ⟨state, expected⟩ member
      rw [List.mk_mem_zipIdx_iff_le_and_getElem?_sub] at member
      obtain ⟨later, at_j⟩ := member
      obtain ⟨same, small⟩ := fits.states _ state at_j
      rw [Nat.add_sub_cancel' later] at same small
      exact ⟨_, checkState_eq_ok_iff.mpr ⟨same, small, rfl⟩⟩
    obtain ⟨properties, named⟩ := exists_mapM_eq_ok_iff.mpr named
    obtain ⟨states, checked⟩ := exists_mapM_eq_ok_iff.mpr checked
    exact ⟨_, fits.id, fits.some_state, properties, named, states, checked, fits.default.1,
      fits.default.2, rfl⟩

theorem exists_ofDefinitions_iff :
    (∃ blocks, ofDefinitions document registry = .ok blocks) ↔ document.size ≤ maxIds ∧
      ∀ (b : Nat) (entry : String × BlockDefinition), document.entries[b]? = some entry →
        Fits registry entry.2 b (beginOf (stateCounts document) b) := by
  constructor
  · rintro ⟨blocks, resolved⟩
    refine ⟨(ofDefinitions_eq_ok_iff.mp resolved).1, fun b entry at_b => ?_⟩
    obtain ⟨block, _, result⟩ := block_of_definition resolved at_b
    exact exists_ofDefinition_iff.mp ⟨block, result⟩
  · rintro ⟨size, fits⟩
    simp only [ofDefinitions_eq_ok_iff, size, true_and, exists_mapM_eq_ok_iff]
    rintro ⟨⟨⟨name, definition⟩, first⟩, b⟩ member
    have paired : (document.entries.zip (offsets 0 (stateCounts document)))[b]? =
        some ((name, definition), first) := List.mem_zipIdx_iff_getElem?.mp member
    obtain ⟨at_b, _⟩ := List.getElem?_zip_eq_some.mp paired
    rw [stateCounts, getElem?_zip_offsets at_b, Option.some.injEq, Prod.mk.injEq] at paired
    obtain ⟨_, rfl⟩ := paired
    exact exists_ofDefinition_iff.mpr (fits b _ at_b)

/-! ## Ids of states -/

/-- The ids of all states, as they are declared. -/
def declaredIds (document : Document BlockDefinition) : List Nat :=
  document.entries.flatMap fun entry => entry.2.states.map (·.id)

theorem length_declaredIds : (declaredIds document).length = (stateCounts document).sum := by
  simp [declaredIds, stateCounts, List.length_flatMap]

/-- The declared ids lie end to end, in the order of the blocks. -/
theorem getElem?_declaredIds {b j : Nat} {entry : String × BlockDefinition} {state : StateDefinition}
    (at_b : document.entries[b]? = some entry) (at_j : entry.2.states[j]? = some state) :
    (declaredIds document)[beginOf (stateCounts document) b + j]? = some state.id := by
  obtain ⟨inside, _⟩ := List.getElem?_eq_some_iff.mp at_j
  have part := getElem?_flatMap (f := fun entry : String × BlockDefinition => entry.2.states.map (·.id))
    at_b (by rwa [List.length_map] : j < _)
  simp only [List.length_map, List.getElem?_map, at_j, Option.map_some] at part
  exact part

/-- States are numbered through exactly if each has the number of the states before it. -/
theorem declaredIds_eq_range_iff :
    (∃ count ≤ maxIds, declaredIds document = List.range count) ↔
      ∀ (b : Nat) (entry : String × BlockDefinition), document.entries[b]? = some entry →
        ∀ (j : Nat) (state : StateDefinition), entry.2.states[j]? = some state →
          state.id = beginOf (stateCounts document) b + j ∧
            beginOf (stateCounts document) b + j < maxIds := by
  constructor
  · rintro ⟨count, small, numbered⟩ b entry at_b j state at_j
    have declared := getElem?_declaredIds at_b at_j
    rw [numbered, List.getElem?_eq_some_iff] at declared
    obtain ⟨inside, same⟩ := declared
    rw [List.length_range] at inside
    rw [List.getElem_range] at same
    exact ⟨same.symm, Nat.lt_of_lt_of_le inside small⟩
  · intro each
    -- A place among all states is a place among the states of one block.
    have numbered : ∀ i < (stateCounts document).sum,
        (declaredIds document)[i]? = some i ∧ i < maxIds := by
      intro i inside
      obtain ⟨b, count, at_b, lower, upper⟩ := exists_inItem inside
      rw [stateCounts, List.getElem?_map, Option.map_eq_some_iff] at at_b
      obtain ⟨entry, defined, rfl⟩ := at_b
      have at_j := List.getElem?_eq_getElem
        (show i - beginOf (stateCounts document) b < entry.2.states.length by omega)
      obtain ⟨same, small⟩ := each b entry defined _ _ at_j
      have declared := getElem?_declaredIds defined at_j
      rw [Nat.add_sub_cancel' lower] at declared same small
      rw [declared, same]
      exact ⟨rfl, small⟩
    refine ⟨(stateCounts document).sum, ?_, List.ext_getElem? fun i => ?_⟩
    · refine Nat.le_of_not_lt fun large => ?_
      obtain ⟨_, small⟩ := numbered maxIds large
      exact Nat.lt_irrefl _ small
    · by_cases inside : i < (stateCounts document).sum
      · rw [(numbered i inside).1, List.getElem?_range inside]
      · rw [List.getElem?_eq_none (by rw [length_declaredIds]; omega),
          List.getElem?_eq_none (by rw [List.length_range]; omega)]

/-- Where states are numbered from the first on, the default is between the ids of the states at the ends
exactly if it is one of the numbers. -/
theorem default_between_iff {states : List StateDefinition} {first default : Nat}
    (some_state : states ≠ [])
    (numbered : ∀ (j : Nat) (state : StateDefinition), states[j]? = some state → state.id = first + j) :
    (∃ least largest, states.head? = some least ∧ states.getLast? = some largest ∧
      least.id ≤ default ∧ default ≤ largest.id) ↔
      first ≤ default ∧ default ≤ first + states.length - 1 := by
  obtain ⟨least, largest, head, last, is_first, is_last⟩ := ends_of_numbered some_state numbered
  simp only [head, last, Option.some.injEq, exists_and_left, exists_eq_left', is_first, is_last]

end Block

/-! ## Documents -/

/-- Blocks have as many properties as their definitions list. -/
theorem Block.propertyCounts_eq {registry : Registry} {document : Document BlockDefinition}
    {blocks : List Block} (resolved : ofDefinitions document registry = .ok blocks) :
    BlockTables.propertyCounts blocks = document.entries.map fun entry => entry.2.properties.length := by
  refine map_eq_map_of_getElem? (length_of_ofDefinitions resolved) fun b block at_b => ?_
  obtain ⟨_, definition, defined, result⟩ := definition_of_block resolved at_b
  obtain ⟨_, _, _, named, _, _, _, _, rfl⟩ := ofDefinition_eq_ok_iff.mp result
  exact ⟨_, defined, length_of_mapM named⟩

/-- The checks of blocks pass exactly if the document keeps the rules. -/
theorem blocksValid_iff {registry : Registry} {known : List String}
    {document : Document BlockDefinition}
    (knows : ∀ name, (∃ property, registry.find? name = some property) ↔ name ∈ known) :
    BlocksValid known document ↔ ∃ blocks, Block.ofDefinitions document registry = .ok blocks ∧
      ∃ tables, BlockTables.ofBlocks blocks = .ok tables := by
  constructor
  · intro valid
    have fits : ∀ (b : Nat) (entry : String × BlockDefinition), document.entries[b]? = some entry →
        Block.Fits registry entry.2 b (beginOf (Block.stateCounts document) b) := by
      intro b entry at_b
      have member := List.mem_of_getElem? at_b
      have numbered := Block.declaredIds_eq_range_iff.mp valid.stateIds b entry at_b
      refine ⟨valid.ids b entry at_b, valid.some_state entry member, fun name listed => ?_, numbered, ?_⟩
      · exact (knows name).mpr (valid.properties entry member name listed)
      · exact (Block.default_between_iff (valid.some_state entry member) fun j state at_j =>
          (numbered j state at_j).1).mp (valid.defaults entry member)
    obtain ⟨blocks, resolved⟩ := Block.exists_ofDefinitions_iff.mpr ⟨valid.size, fits⟩
    refine ⟨blocks, resolved, BlockTables.exists_ofBlocks_iff.mpr fun b block at_b => ?_⟩
    obtain ⟨_, definition, defined, result⟩ := Block.definition_of_block resolved at_b
    obtain ⟨inside, _⟩ := List.getElem?_eq_some_iff.mp defined
    obtain ⟨_, _, _, named, _, _, _, _, rfl⟩ := Block.ofDefinition_eq_ok_iff.mp result
    refine ⟨?_, ?_⟩
    · rw [Block.propertyCounts_eq resolved, beginOf, ← List.map_take]
      exact valid.near b inside
    · rw [length_of_mapM named]
      exact valid.few _ (List.mem_of_getElem? defined)
  · rintro ⟨blocks, resolved, encoded⟩
    obtain ⟨size, fits⟩ := Block.exists_ofDefinitions_iff.mp ⟨blocks, resolved⟩
    have words := BlockTables.exists_ofBlocks_iff.mp encoded
    have at_place : ∀ entry ∈ document.entries, ∃ b, document.entries[b]? = some entry :=
      fun entry member => List.mem_iff_getElem?.mp member
    refine ⟨size, fun b entry at_b => (fits b entry at_b).id, ?_, ?_, ?_, ?_, ?_, ?_⟩
    · intro entry member
      obtain ⟨b, at_b⟩ := at_place entry member
      exact (fits b entry at_b).some_state
    · intro entry member name listed
      obtain ⟨b, at_b⟩ := at_place entry member
      exact (knows name).mp ((fits b entry at_b).properties name listed)
    · intro entry member
      obtain ⟨b, at_b⟩ := at_place entry member
      obtain ⟨block, found, result⟩ := Block.block_of_definition resolved at_b
      obtain ⟨_, _, _, named, _, _, _, _, rfl⟩ := Block.ofDefinition_eq_ok_iff.mp result
      rw [← length_of_mapM named]
      exact (words b _ found).2
    · intro b inside
      obtain ⟨block, found, _⟩ := Block.block_of_definition resolved (List.getElem?_eq_getElem inside)
      rw [List.map_take, ← Block.propertyCounts_eq resolved]
      exact (words b block found).1
    · exact Block.declaredIds_eq_range_iff.mpr fun b entry at_b => (fits b entry at_b).states
    · intro entry member
      obtain ⟨b, at_b⟩ := at_place entry member
      exact (Block.default_between_iff (fits b entry at_b).some_state fun j state at_j =>
        ((fits b entry at_b).states j state at_j).1).mpr (fits b entry at_b).default

end GameTables
