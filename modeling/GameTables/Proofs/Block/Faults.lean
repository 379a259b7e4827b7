import GameTables.Proofs.Block.Tables
import GameTables.Proofs.FirstFault

/-!
# What is wrong with blocks

Blocks are checked in order. The error is the first of all that is wrong with the first block that breaks
a rule. Where no rule is broken there is a block for each definition, and it takes over all that the
definition says.
-/

namespace GameTables.Block

variable {registry : Registry} {definitions : Document BlockDefinition}

/-! ## Rules -/

/-- A property that a block names has to be registered. -/
def propertyFaults (registry : Registry) (block property : String) : List TableError :=
  match registry.find? property with
  | some _ => []
  | none => [.unknownProperty block property]

/-- A state has to declare the number of the states before it, and 16 bits have to hold that number. -/
def stateFaults (block : String) (state : StateDefinition) (number : Nat) : List TableError :=
  if state.id ≠ number then [.stateIdMismatch block state.id number]
  else if 65536 ≤ number then [.tooManyIds .states (number + 1)] else []

/-- The default state has to lie between the first and the last state that are declared. -/
def defaultFaults (block : String) (definition : BlockDefinition) : List TableError :=
  match definition.states.head?, definition.states.getLast? with
  | some first, some last =>
    if definition.defaultStateId < first.id ∨ last.id < definition.defaultStateId then
      [.defaultStateOutOfRange block definition.defaultStateId first.id last.id]
    else []
  | _, _ => []

/-- All that is wrong with a definition at a position where `first` states come before, in the order of
the rules. -/
def faults (registry : Registry) (block : String) (definition : BlockDefinition) (position first : Nat) :
    List TableError :=
  (if definition.id ≠ position then [.blockIdMismatch block definition.id position] else []) ++
  (if definition.states = [] then [.noStates block] else []) ++
  definition.properties.flatMap (propertyFaults registry block) ++
  ((definition.states.zipIdx first).flatMap fun (state, number) => stateFaults block state number) ++
  defaultFaults block definition

/-- All that is wrong with the definition at a position of a document. -/
def faultsAt (registry : Registry) (definitions : Document BlockDefinition) : Nat → List TableError :=
  GameTables.faultsAt (fun k entry =>
    faults registry entry.1 entry.2 k (beginOf (stateCounts definitions) k)) definitions.entries

/-! ## Checks of single blocks -/

/-- What a state becomes. -/
def numberedState (state : StateDefinition) (number : Nat) : BlockState :=
  ⟨UInt16.ofNat number, state.properties, state.air, state.renderShape⟩

/-- The id of a property that is registered. -/
def registeredId (registry : Registry) (property : String) : UInt8 :=
  (registry.find? property).elim 0 (·.id)

/-- What a definition becomes. -/
def made (registry : Registry) (block : String) (definition : BlockDefinition) (position first : Nat) :
    Block where
  name := block
  id := UInt16.ofNat position
  translationKey := definition.translationKey
  defaultStateId := UInt16.ofNat definition.defaultStateId
  properties := definition.properties.map (registeredId registry)
  states := (definition.states.zipIdx first).map fun (state, number) => numberedState state number

theorem propertyId_eq_firstFault (block property : String) :
    propertyId registry block property =
      firstFault (propertyFaults registry block property) (registeredId registry property) := by
  unfold propertyId propertyFaults registeredId
  cases registry.find? property <;> rfl

theorem checkState_eq_firstFault (block : String) (state : StateDefinition) (number : Nat) :
    checkState block state number =
      firstFault (stateFaults block state number) (numberedState state number) := by
  unfold checkState stateFaults maxIds
  by_cases other : state.id ≠ number
  · rw [if_pos other, if_pos other]
    rfl
  rw [if_neg other, if_neg other]
  by_cases outside : 65536 ≤ number
  · rw [if_pos outside, if_pos outside]
    rfl
  · rw [if_neg outside, if_neg outside]
    rfl

/-- Without a fault every state has its number. -/
theorem numbered_of_stateFaults {block : String} {states : List StateDefinition} {first : Nat}
    (right : ((states.zipIdx first).flatMap fun (state, number) => stateFaults block state number) = [])
    {j : Nat} {state : StateDefinition} (at_j : states[j]? = some state) :
    state.id = first + j ∧ first + j < 65536 := by
  rw [List.flatMap_eq_nil_iff] at right
  have member : (state, first + j) ∈ states.zipIdx first := by
    rw [List.mk_mem_zipIdx_iff_le_and_getElem?_sub, Nat.add_sub_cancel_left]
    exact ⟨Nat.le_add_right _ _, at_j⟩
  have right := right _ member
  unfold stateFaults at right
  by_cases other : state.id ≠ first + j
  · simp [other] at right
  by_cases outside : 65536 ≤ first + j
  · simp [other, outside] at right
  · exact ⟨Decidable.not_not.mp other, Nat.lt_of_not_le outside⟩

/-- A definition is refused because of the first thing that is wrong with it. -/
theorem ofDefinition_eq_firstFault (block : String) (definition : BlockDefinition)
    (position first : Nat) :
    ofDefinition registry block definition position first =
      firstFault (faults registry block definition position first)
        (made registry block definition position first) := by
  simp only [ofDefinition, faults, List.append_assoc]
  refine throw_or_eq_firstFault fun _ => ?_
  refine throw_or_eq_firstFault fun some_state => ?_
  rw [mapM_eq_firstFault (propertyId_eq_firstFault block)]
  refine firstFault_bind fun _ => ?_
  rw [mapM_eq_firstFault fun item : StateDefinition × Nat => checkState_eq_firstFault block item.1 item.2]
  refine firstFault_bind fun right => ?_
  obtain ⟨least, largest, head, last, is_first, is_last⟩ :=
    ends_of_numbered some_state fun j state at_j => (numbered_of_stateFaults right at_j).1
  simp only [defaultFaults, head, last, is_first, is_last]
  calc
    _ = firstFault (_ ++ []) (made registry block definition position first) :=
      throw_or_eq_firstFault fun _ => rfl
    _ = _ := by rw [List.append_nil]

/-! ## What a block takes over -/

/-- A block is what its definition says at a position, where `first` states come before. -/
structure Keeps (registry : Registry) (position first : Nat) (entry : String × BlockDefinition)
    (block : Block) : Prop where
  name : block.name = entry.1
  translationKey : block.translationKey = entry.2.translationKey
  id : block.id.toNat = position
  defaultStateId : block.defaultStateId.toNat = entry.2.defaultStateId
  /-- The ids of the properties are the positions of their names in the registry. -/
  properties : block.properties.map (fun id => (registry.properties[id.toNat]?).map (·.name)) =
    entry.2.properties.map some
  /-- The states are numbered on, and keep all else. -/
  states : block.states.map (fun state =>
      (state.id.toNat, state.properties, state.air, state.renderShape)) =
    (entry.2.states.zipIdx first).map fun (state, number) =>
      (number, state.properties, state.air, state.renderShape)

/-- Without a fault the id of a property is its position in the registry. -/
theorem registeredId_position {properties : Document PropertyDefinition}
    (checked : Registry.ofDefinitions properties = .ok registry) {block property : String}
    (right : propertyFaults registry block property = []) :
    (registry.properties[(registeredId registry property).toNat]?).map (·.name) = some property := by
  unfold propertyFaults at right
  cases registered : registry.find? property with
  | none => simp [registered] at right
  | some found =>
    obtain ⟨member, same⟩ := Registry.mem_of_find? registered
    have at_id : registry.properties[found.id.toNat]? = some found :=
      Registry.findId?_of_mem checked member
    rw [registeredId, registered, Option.elim_some, at_id, Option.map_some, same]

theorem keeps_of_faults {properties : Document PropertyDefinition}
    (checked : Registry.ofDefinitions properties = .ok registry) {block : String}
    {definition : BlockDefinition} {position first : Nat} (addressed : position < maxIds)
    (right : faults registry block definition position first = []) :
    Keeps registry position first (block, definition)
      (made registry block definition position first) := by
  have resolved : ofDefinition registry block definition position first = _ :=
    ofDefinition_eq_firstFault block definition position first
  rw [right] at resolved
  have numbers := matches_of_ofDefinition resolved addressed
  simp only [faults, List.append_eq_nil_iff] at right
  obtain ⟨⟨⟨_, known⟩, numbered⟩, _⟩ := right
  refine ⟨rfl, rfl, numbers.id.2, numbers.default.1, ?_, ?_⟩
  · rw [made, List.map_map]
    refine List.map_congr_left fun property listed => ?_
    exact registeredId_position checked (List.flatMap_eq_nil_iff.mp known property listed)
  · rw [made, List.map_map]
    refine List.map_congr_left fun (state, number) member => ?_
    rw [List.mk_mem_zipIdx_iff_le_and_getElem?_sub] at member
    obtain ⟨later, at_j⟩ := member
    obtain ⟨_, small⟩ := numbered_of_stateFaults numbered at_j
    rw [Nat.add_sub_cancel' later] at small
    have same : (UInt16.ofNat number).toNat = number := Nat.mod_eq_of_lt small
    simp only [Function.comp_apply, numberedState, same]

/-! ## Documents -/

/-- Documents whose blocks 16 bits number are refused because of the first thing that is wrong with the
first block that breaks a rule. -/
theorem ofDefinitions_eq_error_iff (addressed : definitions.size ≤ maxIds) {e : TableError} :
    ofDefinitions definitions registry = .error e ↔
      ∃ k, (faultsAt registry definitions k).head? = some e ∧
        ∀ j < k, faultsAt registry definitions j = [] := by
  have checks : ofDefinitions definitions registry =
      (definitions.entries.zip (offsets 0 (stateCounts definitions))).zipIdx.mapM
        fun item => ofDefinition registry item.1.1.1 item.1.1.2 item.2 item.1.2 := by
    rw [ofDefinitions, if_neg (Nat.not_lt.mpr addressed)]
    rfl
  have at_place (k : Nat) : (definitions.entries.zip (offsets 0 (stateCounts definitions))).zipIdx[k]? =
      definitions.entries[k]?.map fun entry => ((entry, beginOf (stateCounts definitions) k), k) := by
    rw [List.getElem?_zipIdx, stateCounts, getElem?_zip_offsets_eq, Option.map_map, Nat.zero_add]
    rfl
  rw [checks]
  exact mapM_eq_error_iff_faultsAt at_place fun _ _ => ofDefinition_eq_firstFault ..

/-- A document without a fault gives a block for each definition, in order. -/
structure KeepsAll (registry : Registry) (definitions : Document BlockDefinition) (blocks : List Block) :
    Prop where
  length : blocks.length = definitions.size
  blocks : ∀ (k : Nat) (entry : String × BlockDefinition), definitions.entries[k]? = some entry →
    ∃ block, blocks[k]? = some block ∧
      Keeps registry k (beginOf (stateCounts definitions) k) entry block

theorem keepsAll_of_ofDefinitions {properties : Document PropertyDefinition} {blocks : List Block}
    (checked : Registry.ofDefinitions properties = .ok registry)
    (resolved : ofDefinitions definitions registry = .ok blocks) :
    KeepsAll registry definitions blocks := by
  obtain ⟨addressed, _⟩ := ofDefinitions_eq_ok_iff.mp resolved
  refine ⟨length_of_ofDefinitions resolved, fun k (name, definition) at_k => ?_⟩
  obtain ⟨block, found, result⟩ := block_of_definition resolved at_k
  obtain ⟨inside, _⟩ := List.getElem?_eq_some_iff.mp at_k
  rw [ofDefinition_eq_firstFault, firstFault_eq_ok_iff] at result
  obtain ⟨right, rfl⟩ := result
  exact ⟨_, found, keeps_of_faults checked (Nat.lt_of_lt_of_le inside addressed) right⟩

/-- A document of blocks is refused because of the number of its blocks, or else because of the first
thing that is wrong with the first block that breaks a rule. If none does, there is a block for each
definition, which takes over all that the definition says. -/
theorem ofDefinitions_reports_first {properties : Document PropertyDefinition}
    (checked : Registry.ofDefinitions properties = .ok registry)
    (definitions : Document BlockDefinition) :
    (65536 < definitions.size →
      ofDefinitions definitions registry = .error (.tooManyIds .blocks definitions.size)) ∧
    (definitions.size ≤ 65536 →
      (∀ e, ofDefinitions definitions registry = .error e ↔
        ∃ k, (faultsAt registry definitions k).head? = some e ∧
          ∀ j < k, faultsAt registry definitions j = []) ∧
      ((∀ k, faultsAt registry definitions k = []) →
        ∃ blocks, ofDefinitions definitions registry = .ok blocks ∧
          KeepsAll registry definitions blocks)) := by
  refine ⟨fun outside => ?_, fun addressed => ⟨fun _ => ofDefinitions_eq_error_iff addressed, ?_⟩⟩
  · rw [ofDefinitions, maxIds, if_pos outside]
    rfl
  · intro right
    obtain ⟨blocks, resolved⟩ :=
      exists_ok_of_faultless (fun _ => ofDefinitions_eq_error_iff addressed) right
    exact ⟨blocks, resolved, keepsAll_of_ofDefinitions checked resolved⟩

/-- A document whose second block leaves out the number 1 and has its default state elsewhere. -/
def gapped : Document BlockDefinition :=
  ⟨[("air", ⟨0, "block.air", 0, [], [BlockTables.sampleState 0]⟩),
    ("lamp", ⟨1, "block.lamp", 9, ["lit"], [2, 3].map BlockTables.sampleState⟩)], by decide⟩

theorem ofDefinitions_reports_first_sample :
    Registry.ofDefinitions PropertyTables.sample = .ok PropertyTables.sampleRegistry ∧
    ofDefinitions gapped PropertyTables.sampleRegistry = .error (.stateIdMismatch "lamp" 2 1) ∧
    ∃ blocks, ofDefinitions BlockTables.sample PropertyTables.sampleRegistry = .ok blocks ∧
      KeepsAll PropertyTables.sampleRegistry BlockTables.sample blocks := by
  refine ⟨PropertyTables.sample_checked, ?_, ?_⟩
  · obtain ⟨_, reports⟩ := ofDefinitions_reports_first PropertyTables.sample_checked gapped
    refine ((reports (by decide)).1 _).mpr ⟨1, rfl, fun j earlier => ?_⟩
    obtain rfl := Nat.lt_one_iff.mp earlier
    rfl
  · obtain ⟨_, reports⟩ := ofDefinitions_reports_first PropertyTables.sample_checked BlockTables.sample
    refine (reports (by decide)).2 fun k => ?_
    match k with
    | 0 => rfl
    | 1 => rfl
    | 2 => rfl
    | _ + 3 => rfl

end GameTables.Block
