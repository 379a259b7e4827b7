import GameTables.Block.Basic
import GameTables.Proofs.Tiling
import GameTables.Proofs.Traversal

/-!
# Blocks against the document

There is one block for each definition, in order. The states of all blocks are numbered through: a
block begins with the number of the states before it.
-/

namespace GameTables.Block

variable {registry : Registry} {definitions : Document BlockDefinition} {blocks : List Block}

theorem checkState_eq_ok_iff {block : String} {state : StateDefinition} {expected : Nat}
    {result : BlockState} :
    checkState block state expected = .ok result ↔
      state.id = expected ∧ expected < maxIds ∧
        ⟨UInt16.ofNat expected, state.properties, state.air, state.renderShape⟩ = result := by
  unfold checkState
  by_cases same : state.id = expected
  · by_cases outside : maxIds ≤ expected
    · simp [same, outside, Nat.not_lt.mpr outside]
    · simp [same, outside, Nat.not_le.mp outside]
  · simp [same]

theorem propertyId_eq_ok_iff {block property : String} {id : UInt8} :
    propertyId registry block property = .ok id ↔
      ∃ found, registry.find? property = some found ∧ found.id = id := by
  unfold propertyId
  cases registry.find? property with
  | none => simp
  | some found => simp

/-- When a definition gives a block, and which. -/
theorem ofDefinition_eq_ok_iff {name : String} {definition : BlockDefinition} {position first : Nat}
    {block : Block} :
    ofDefinition registry name definition position first = .ok block ↔
      definition.id = position ∧ definition.states ≠ [] ∧
        ∃ properties, definition.properties.mapM (propertyId registry name) = .ok properties ∧
        ∃ states, (definition.states.zipIdx first).mapM
            (fun (state, expected) => checkState name state expected) = .ok states ∧
          first ≤ definition.defaultStateId ∧
          definition.defaultStateId ≤ first + definition.states.length - 1 ∧
          { name, id := UInt16.ofNat position, translationKey := definition.translationKey,
            defaultStateId := UInt16.ofNat definition.defaultStateId, properties, states } = block := by
  have wrong_default : ¬ (definition.defaultStateId < first ∨
      first + definition.states.length - 1 < definition.defaultStateId) ↔
      first ≤ definition.defaultStateId ∧
        definition.defaultStateId ≤ first + definition.states.length - 1 := by
    omega
  simp only [ofDefinition, throw_or_eq_ok_iff, bind_eq_ok_iff, ne_eq, Decidable.not_not, wrong_default,
    and_assoc, pure, Except.pure, Except.ok.injEq]

/-! ## Numbers -/

/-- A block has the numbers of its definition at a position, where `first` states come before. -/
structure Matches (position first : Nat) (definition : BlockDefinition) (block : Block) : Prop where
  id : definition.id = position ∧ block.id.toNat = position
  some_state : 0 < block.states.length
  same_count : block.states.length = definition.states.length
  bounded : first + block.states.length ≤ maxIds
  states : ∀ (j : Nat) (state : BlockState), block.states[j]? = some state →
    state.id.toNat = first + j ∧ ∃ source, definition.states[j]? = some source ∧ source.id = first + j
  default : block.defaultStateId.toNat = definition.defaultStateId ∧
    first ≤ definition.defaultStateId ∧ definition.defaultStateId < first + block.states.length

theorem matches_of_ofDefinition {name : String} {definition : BlockDefinition} {position first : Nat}
    {block : Block} (resolved : ofDefinition registry name definition position first = .ok block)
    (addressed : position < maxIds) : Matches position first definition block := by
  obtain ⟨declared, some_state, _, _, states, checked, lower, upper, rfl⟩ :=
    ofDefinition_eq_ok_iff.mp resolved
  have count : states.length = definition.states.length := by
    rw [length_of_mapM checked, List.length_zipIdx]
  have positive : 0 < definition.states.length := List.length_pos_iff.mpr some_state
  have state_at : ∀ (j : Nat) (state : BlockState), states[j]? = some state →
      first + j < maxIds ∧ state.id = UInt16.ofNat (first + j) ∧
        ∃ source, definition.states[j]? = some source ∧ source.id = first + j := by
    intro j state at_j
    obtain ⟨⟨source, expected⟩, indexed, result⟩ := source_of_mapM checked at_j
    obtain ⟨same, small, rfl⟩ := checkState_eq_ok_iff.mp result
    rw [List.getElem?_zipIdx, Option.map_eq_some_iff] at indexed
    obtain ⟨source', found, pair⟩ := indexed
    cases pair
    exact ⟨small, rfl, source, found, same⟩
  have bounded : first + states.length ≤ maxIds := by
    have last : states[states.length - 1]? = _ := List.getElem?_eq_getElem (by omega)
    obtain ⟨small, _⟩ := state_at _ _ last
    omega
  have before_end : definition.defaultStateId < first + states.length := by omega
  refine ⟨⟨declared, ?_⟩, count ▸ positive, count, bounded, ?_, ?_, lower, before_end⟩
  · exact Nat.mod_eq_of_lt addressed
  · intro j state at_j
    obtain ⟨small, same, source⟩ := state_at j state at_j
    refine ⟨?_, source⟩
    rw [same]
    exact Nat.mod_eq_of_lt small
  · exact Nat.mod_eq_of_lt (show definition.defaultStateId < maxIds by omega)

/-- Where states are numbered through, the ones at the ends have the least and the largest id. -/
theorem ends_of_numbered {states : List StateDefinition} {first : Nat} (some_state : states ≠ [])
    (numbered : ∀ (j : Nat) (state : StateDefinition), states[j]? = some state → state.id = first + j) :
    ∃ least largest, states.head? = some least ∧ states.getLast? = some largest ∧
      least.id = first ∧ largest.id = first + states.length - 1 := by
  have positive : 0 < states.length := List.length_pos_iff.mpr some_state
  have at_start := List.getElem?_eq_getElem positive
  have at_end := List.getElem?_eq_getElem (show states.length - 1 < states.length by omega)
  have least := numbered _ _ at_start
  have largest := numbered _ _ at_end
  rw [List.head?_eq_getElem?, List.getLast?_eq_getElem?]
  exact ⟨_, _, at_start, at_end, least, by omega⟩

/-- How many states each definition lists. -/
def stateCounts (definitions : Document BlockDefinition) : List Nat :=
  definitions.entries.map (·.2.states.length)

theorem ofDefinitions_eq_ok_iff :
    ofDefinitions definitions registry = .ok blocks ↔
      definitions.size ≤ maxIds ∧
        ((definitions.entries.zip (offsets 0 (stateCounts definitions))).zipIdx.mapM
          fun (((name, definition), first), position) =>
            ofDefinition registry name definition position first) = .ok blocks := by
  simp only [ofDefinitions, throw_or_eq_ok_iff, Nat.not_lt]
  rfl

theorem length_of_ofDefinitions (resolved : ofDefinitions definitions registry = .ok blocks) :
    blocks.length = definitions.size := by
  obtain ⟨_, checked⟩ := ofDefinitions_eq_ok_iff.mp resolved
  rw [length_of_mapM checked, List.length_zipIdx, List.length_zip, length_offsets, stateCounts,
    List.length_map, Nat.min_self]
  rfl

/-- Every definition has its block at its own position, and its states come after those of the
definitions before it. -/
theorem block_of_definition (resolved : ofDefinitions definitions registry = .ok blocks) {b : Nat}
    {name : String} {definition : BlockDefinition}
    (at_b : definitions.entries[b]? = some (name, definition)) :
    ∃ block, blocks[b]? = some block ∧
      ofDefinition registry name definition b (beginOf (stateCounts definitions) b) = .ok block := by
  obtain ⟨_, checked⟩ := ofDefinitions_eq_ok_iff.mp resolved
  have paired : (definitions.entries.zip (offsets 0 (stateCounts definitions)))[b]? =
      some ((name, definition), beginOf (stateCounts definitions) b) :=
    getElem?_zip_offsets at_b
  have indexed : (definitions.entries.zip (offsets 0 (stateCounts definitions))).zipIdx[b]? =
      some (((name, definition), beginOf (stateCounts definitions) b), b) := by
    simp [List.getElem?_zipIdx, paired]
  exact result_of_mapM checked indexed

theorem definition_of_block (resolved : ofDefinitions definitions registry = .ok blocks) {b : Nat}
    {block : Block} (at_b : blocks[b]? = some block) :
    ∃ name definition, definitions.entries[b]? = some (name, definition) ∧
      ofDefinition registry name definition b (beginOf (stateCounts definitions) b) = .ok block := by
  obtain ⟨inside, _⟩ := List.getElem?_eq_some_iff.mp at_b
  have same : blocks.length = definitions.entries.length := length_of_ofDefinitions resolved
  rw [same] at inside
  obtain ⟨⟨name, definition⟩, defined⟩ : ∃ entry, definitions.entries[b]? = some entry :=
    ⟨_, List.getElem?_eq_getElem inside⟩
  obtain ⟨block', found, result⟩ := block_of_definition resolved defined
  rw [at_b, Option.some.injEq] at found
  exact ⟨name, definition, defined, found ▸ result⟩

theorem matches_of_block (resolved : ofDefinitions definitions registry = .ok blocks) {b : Nat}
    {block : Block} (at_b : blocks[b]? = some block) :
    ∃ name definition, definitions.entries[b]? = some (name, definition) ∧
      Matches b (beginOf (stateCounts definitions) b) definition block := by
  obtain ⟨name, definition, defined, result⟩ := definition_of_block resolved at_b
  obtain ⟨inside, _⟩ := List.getElem?_eq_some_iff.mp defined
  obtain ⟨fits, _⟩ := ofDefinitions_eq_ok_iff.mp resolved
  exact ⟨name, definition, defined, matches_of_ofDefinition result (Nat.lt_of_lt_of_le inside fits)⟩

/-- The ids of a block and of its states are the ones that the document declares. -/
theorem declared_ids (resolved : ofDefinitions definitions registry = .ok blocks) {b : Nat}
    {block : Block} (at_b : blocks[b]? = some block) :
    ∃ name definition, definitions.entries[b]? = some (name, definition) ∧
      block.id.toNat = b ∧ block.id.toNat = definition.id ∧
      block.defaultStateId.toNat = definition.defaultStateId ∧
      block.states.map (·.id.toNat) = definition.states.map (·.id) := by
  obtain ⟨name, definition, defined, numbers⟩ := matches_of_block resolved at_b
  refine ⟨name, definition, defined, numbers.id.2, numbers.id.2.trans numbers.id.1.symm,
    numbers.default.1, ?_⟩
  refine map_eq_map_of_getElem? numbers.same_count fun j state at_j => ?_
  obtain ⟨same, source, source_at, declared⟩ := numbers.states j state at_j
  exact ⟨source, source_at, same.trans declared.symm⟩

/-- The blocks have as many states as their definitions list. -/
theorem map_length_states (resolved : ofDefinitions definitions registry = .ok blocks) :
    blocks.map (·.states.length) = stateCounts definitions := by
  refine map_eq_map_of_getElem? (length_of_ofDefinitions resolved) fun b block at_b => ?_
  obtain ⟨_, _, defined, numbers⟩ := matches_of_block resolved at_b
  exact ⟨_, defined, numbers.same_count⟩

/-- A place among the states of a block. -/
theorem inItem_of_block (resolved : ofDefinitions definitions registry = .ok blocks) {b s : Nat}
    {block : Block} (at_b : blocks[b]? = some block) (lower : beginOf (stateCounts definitions) b ≤ s)
    (upper : s < beginOf (stateCounts definitions) b + block.states.length) :
    InItem (stateCounts definitions) b s := by
  refine ⟨block.states.length, ?_, lower, upper⟩
  rw [← map_length_states resolved, List.getElem?_map, at_b, Option.map_some]

/-- The block among whose states a place lies. -/
theorem block_of_inItem (resolved : ofDefinitions definitions registry = .ok blocks) {b s : Nat}
    (item : InItem (stateCounts definitions) b s) :
    ∃ block, blocks[b]? = some block ∧ beginOf (stateCounts definitions) b ≤ s ∧
      s < beginOf (stateCounts definitions) b + block.states.length := by
  obtain ⟨_, at_b, lower, upper⟩ := item
  rw [← map_length_states resolved, List.getElem?_map, Option.map_eq_some_iff] at at_b
  obtain ⟨block, found, rfl⟩ := at_b
  exact ⟨block, found, lower, upper⟩

/-- All states together can be numbered, since the last one was. -/
theorem sum_stateCounts_le (resolved : ofDefinitions definitions registry = .ok blocks) :
    (stateCounts definitions).sum ≤ maxIds := by
  by_cases none : (stateCounts definitions).sum = 0
  · omega
  · obtain ⟨b, item⟩ := exists_inItem
      (show (stateCounts definitions).sum - 1 < (stateCounts definitions).sum by omega)
    obtain ⟨block, at_b, _, upper⟩ := block_of_inItem resolved item
    obtain ⟨_, _, _, numbers⟩ := matches_of_block resolved at_b
    have bounded := numbers.bounded
    omega

end GameTables.Block
