import GameTables.Proofs.Block.Tables
import GameTables.Proofs.MixedRadix

/-!
# Reading states from the tables

The place of a state among the states of its block is a number of mixed radix, with a digit for each
property of the block. The tables are enough to take it apart: the property map lists the properties
from the least significant digit on, and the word of a property has its base.
-/

namespace GameTables

/-- An entry of a list of values. -/
def ValueList.get? : ValueList → Nat → Option StateValue
  | strings values, i => values[i]?.map .string
  | booleans values, i => values[i]?.map .boolean
  | integers values, i => values[i]?.map .integer

/-- The value at a place in the list that a word describes. Named ones are read from the list of all
names. -/
def PropertyWord.value? (names : List String) (word : PropertyWord) (place : Nat) :
    Option StateValue :=
  match word.kind with
  | .named => do
    let offset ← word.offset?
    let found ← names[offset.toNat + place]?
    return .string found
  | .boolean => [true, false][place]?.map .boolean
  | .fromZero | .fromOne => do
    let first ← word.firstInteger?
    return .integer ((first.toNat + place : Nat) : Int)

theorem PropertyWord.value?_of_values? {names : List String} {word : PropertyWord}
    {values : ValueList} (read : word.values? names = some values) {place : Nat}
    (inside : place < word.count.toNat) : word.value? names place = values.get? place := by
  unfold values? at read
  unfold value?
  cases kind : word.kind with
  | named =>
    rw [kind] at read
    obtain ⟨offset, found, read⟩ := Option.bind_eq_some_iff.mp read
    split at read
    · cases read
      simp [found, ValueList.get?, List.getElem?_take_of_lt inside, Option.map_eq_bind]
    · cases read
  | boolean =>
    rw [kind] at read
    cases read
    rfl
  | fromZero =>
    rw [kind] at read
    obtain ⟨first, found, read⟩ := Option.bind_eq_some_iff.mp read
    cases read
    simp [found, ValueList.get?, inside]
  | fromOne =>
    rw [kind] at read
    obtain ⟨first, found, read⟩ := Option.bind_eq_some_iff.mp read
    cases read
    simp [found, ValueList.get?, inside]

theorem ValueList.get?_isSome {values : ValueList} {place : Nat} (inside : place < values.length) :
    ∃ value, values.get? place = some value := by
  cases values with
  | strings values => exact ⟨_, by rw [get?, List.getElem?_eq_getElem inside]; rfl⟩
  | booleans values => exact ⟨_, by rw [get?, List.getElem?_eq_getElem inside]; rfl⟩
  | integers values => exact ⟨_, by rw [get?, List.getElem?_eq_getElem inside]; rfl⟩

/-- A property of a state: its id, the place of its value in the list of the property, and the value. -/
structure Digit where
  property : UInt8
  place : Nat
  value : StateValue
  deriving DecidableEq, Repr

/-- Takes a digit off a number for each property in turn. What is left comes second. -/
def PropertyTables.readDigits (tables : PropertyTables) : List UInt8 → Nat → Option (List Digit × Nat)
  | [], n => some ([], n)
  | id :: rest, n => do
    let word ← tables.words[id.toNat]?
    if word.count = 0 then none
    let place := n % word.count.toNat
    let value ← word.value? tables.values place
    let (digits, left) ← tables.readDigits rest (n / word.count.toNat)
    return (⟨id, place, value⟩ :: digits, left)

/-- A state as the tables describe it: its block, its place among the states of the block, the digits
of the properties, as they are stored, and what they leave of the place. -/
structure StateReading where
  block : Nat
  place : Nat
  digits : List Digit
  left : Nat
  deriving DecidableEq, Repr

/-- Reads a state. Every place that is looked up has to exist. -/
def BlockTables.readState (tables : BlockTables) (properties : PropertyTables) (s : Nat) :
    Option StateReading := do
  let block ← tables.owner? s
  let first ← tables.firstStateIds[block]?
  let ids ← tables.ids? block
  let place := s - first.toNat
  let (digits, left) ← properties.readDigits ids place
  return ⟨block, place, digits, left⟩

/-- A digit says which value the property of a definition has. -/
def Digit.Means (definitions : Document PropertyDefinition) (entry : String × PropertyDefinition)
    (digit : Digit) : Prop :=
  definitions.entries[digit.property.toNat]? = some entry ∧
    entry.2.values.get? digit.place = some digit.value

open MixedRadix

/-- How many values each of some properties has. -/
def valueCounts (declared : List (String × PropertyDefinition)) : List Nat :=
  declared.map (·.2.values.length)

/-- The places that digits hold, first declared property first. -/
def coordinates (digits : List Digit) : List Nat :=
  (digits.map (·.place)).reverse

/-- Digits give the place of a state of a block that declares some properties. -/
structure Expresses (definitions : Document PropertyDefinition)
    (declared : List (String × PropertyDefinition)) (place : Nat) (digits : List Digit) : Prop where
  /-- There is a digit for each property. -/
  count : digits.length = declared.length
  /-- Their places are the one tuple that stands for the place of the state. -/
  tuple : Tuple (valueCounts declared) (coordinates digits)
  number : number (valueCounts declared) (coordinates digits) = place
  unique : ∀ tuple, Tuple (valueCounts declared) tuple →
    MixedRadix.number (valueCounts declared) tuple = place → tuple = coordinates digits
  /-- Each says which value its property has. -/
  means : List.Forall₂ (Digit.Means definitions) declared digits.reverse

variable {definitions : Document PropertyDefinition} {registry : Registry} {tables : PropertyTables}

theorem Expresses.coordinates_eq_iff {declared : List (String × PropertyDefinition)} {place : Nat}
    {digits : List Digit} (expresses : Expresses definitions declared place digits) {tuple : List Nat}
    (inside : Tuple (valueCounts declared) tuple) :
    coordinates digits = tuple ↔ MixedRadix.number (valueCounts declared) tuple = place := by
  constructor
  · rintro rfl
    exact expresses.number
  · intro stands
    exact (expresses.unique tuple inside stands).symm

theorem PropertyTables.readDigits_eq (checked : Registry.ofDefinitions definitions = .ok registry)
    (laid : ofRegistry registry = .ok tables) {ids : List UInt8}
    {declared : List (String × PropertyDefinition)}
    (named : List.Forall₂ (fun id entry => definitions.entries[id.toNat]? = some entry) ids declared)
    (n : Nat) :
    ∃ digits, tables.readDigits ids n = some (digits, (takeOff (valueCounts declared) n).2) ∧
      digits.map (·.place) = (takeOff (valueCounts declared) n).1 ∧
      List.Forall₂ (Digit.Means definitions) declared digits := by
  induction named generalizing n with
  | nil => exact ⟨[], rfl, rfl, .nil⟩
  | @cons id entry ids declared found _ ih =>
    obtain ⟨name, definition⟩ := entry
    obtain ⟨word, word_at, values, count⟩ := word_of_definition checked laid found
    obtain ⟨_, _, enters⟩ := Registry.property_of_definition checked found
    obtain ⟨same_size, positive, _⟩ := PropertyDomain.size_of_ofValues enters.accepted
    rw [same_size] at positive
    have below : n % definition.values.length < definition.values.length := Nat.mod_lt n positive
    obtain ⟨value, entry_at⟩ := ValueList.get?_isSome below
    have read : word.value? tables.values (n % definition.values.length) = some value := by
      rw [PropertyWord.value?_of_values? values (count ▸ below), entry_at]
    have base : word.count ≠ 0 := by
      intro zero
      rw [zero] at count
      simp at count
      omega
    obtain ⟨digits, others, places, means⟩ := ih (n / definition.values.length)
    refine ⟨⟨id, n % definition.values.length, value⟩ :: digits, ?_, ?_, .cons ⟨found, entry_at⟩ means⟩
    · simp [readDigits, word_at, base, count, read, others, valueCounts, takeOff_cons]
    · simp [places, valueCounts, takeOff_cons]

theorem valueCounts_reverse (declared : List (String × PropertyDefinition)) :
    valueCounts declared.reverse = (valueCounts declared).reverse :=
  List.map_reverse

theorem valueCounts_pos (checked : Registry.ofDefinitions definitions = .ok registry)
    {declared : List (String × PropertyDefinition)}
    (defined : ∀ entry ∈ declared, entry ∈ definitions.entries) :
    ∀ count ∈ valueCounts declared, 0 < count := by
  intro count member
  obtain ⟨⟨name, definition⟩, declares, rfl⟩ := List.mem_map.mp member
  obtain ⟨i, at_i⟩ := List.mem_iff_getElem?.mp (defined _ declares)
  obtain ⟨_, _, enters⟩ := Registry.property_of_definition checked at_i
  obtain ⟨same_size, positive, _⟩ := PropertyDomain.size_of_ofValues enters.accepted
  rwa [same_size] at positive

/-- The digits of a place that the properties leave room for leave nothing of it. -/
theorem PropertyTables.expresses_readDigits
    (checked : Registry.ofDefinitions definitions = .ok registry)
    (laid : ofRegistry registry = .ok tables) {ids : List UInt8}
    {declared : List (String × PropertyDefinition)}
    (named : List.Forall₂ (fun id entry => definitions.entries[id.toNat]? = some entry) ids declared)
    (defined : ∀ entry ∈ declared, entry ∈ definitions.entries) {place : Nat}
    (below : place < (valueCounts declared).prod) :
    ∃ digits, tables.readDigits ids.reverse place = some (digits, 0) ∧
      Expresses definitions declared place digits := by
  obtain ⟨digits, read, places, means⟩ :=
    readDigits_eq checked laid (List.forall₂_reverse_iff.mpr named) place
  have positive : ∀ base ∈ (valueCounts declared).reverse, 0 < base := fun base member =>
    valueCounts_pos checked defined base (List.mem_reverse.mp member)
  obtain ⟨nothing, tuple, number, unique⟩ := takeOff_below positive
    (by rwa [List.prod_reverse] : place < (valueCounts declared).reverse.prod)
  rw [valueCounts_reverse] at read places
  rw [← places, List.reverse_reverse] at tuple number unique
  rw [nothing] at read
  refine ⟨digits, read, ?_, tuple, number, unique, ?_⟩
  · simpa using means.length_eq.symm
  · rw [← List.forall₂_reverse_iff, List.reverse_reverse]
    exact means

/-! ## The properties that a block declares -/

/-- The id that a block has for a property leads to the definition of the property. -/
theorem definition_of_propertyId (checked : Registry.ofDefinitions definitions = .ok registry)
    {block name : String} {id : UInt8} (found : Block.propertyId registry block name = .ok id) :
    ∃ definition, definitions.entries[id.toNat]? = some (name, definition) := by
  obtain ⟨property, registered, rfl⟩ := Block.propertyId_eq_ok_iff.mp found
  obtain ⟨member, rfl⟩ := Registry.mem_of_find? registered
  obtain ⟨i, at_i⟩ := List.mem_iff_getElem?.mp member
  obtain ⟨_, definition, defined, enters⟩ := Registry.definition_of_property checked at_i
  rw [← enters.sameName] at defined
  exact ⟨definition, enters.sameId ▸ defined⟩

/-- The definitions of the properties that a block declares, in the order in which it does. -/
theorem exists_declared (checked : Registry.ofDefinitions definitions = .ok registry)
    {block : String} {names : List String} {ids : List UInt8}
    (found : names.mapM (Block.propertyId registry block) = .ok ids) :
    ∃ declared : List (String × PropertyDefinition), declared.map (·.1) = names ∧
      (∀ entry ∈ declared, entry ∈ definitions.entries) ∧
      List.Forall₂ (fun id entry => definitions.entries[id.toNat]? = some entry) ids declared := by
  induction names generalizing ids with
  | nil =>
    cases found
    exact ⟨[], rfl, by simp, .nil⟩
  | cons name rest ih =>
    rw [List.mapM_cons] at found
    obtain ⟨id, first, found⟩ := bind_eq_ok_iff.mp found
    obtain ⟨others, later, same⟩ := bind_eq_ok_iff.mp found
    cases same
    obtain ⟨definition, defined⟩ := definition_of_propertyId checked first
    obtain ⟨declared, names, members, entries⟩ := ih later
    refine ⟨(name, definition) :: declared, by simp [names], ?_, .cons defined entries⟩
    exact List.forall_mem_cons.mpr ⟨List.mem_of_getElem? defined, members⟩

/-! ## States of a block -/

variable {blockDefinitions : Document BlockDefinition} {blocks : List Block}
  {blockTables : BlockTables}

/-- The reading of the states of a block that declares some properties and has a state for each tuple of
their values. -/
structure BlockTables.ReadsBack (definitions : Document PropertyDefinition) (properties : PropertyTables)
    (tables : BlockTables) (b : Nat) (declared : List (String × PropertyDefinition)) : Prop where
  /-- Each state of the block is read, and its digits give its place among the states of the block. -/
  states : ∀ s, tables.owner? s = some b → ∃ first digits, tables.firstStateIds[b]? = some first ∧
    first.toNat ≤ s ∧ tables.readState properties s = some ⟨b, s - first.toNat, digits, 0⟩ ∧
    Expresses definitions declared (s - first.toNat) digits
  /-- Each tuple of places of values is read from exactly one state of the block. -/
  tuples : ∀ tuple, Tuple (valueCounts declared) tuple → ∃! s, tables.owner? s = some b ∧
    ∃ place digits, tables.readState properties s = some ⟨b, place, digits, 0⟩ ∧
      coordinates digits = tuple

/-- Each state of a block that has one for each tuple of values of its properties is read. -/
theorem BlockTables.expresses_readState (checked : Registry.ofDefinitions definitions = .ok registry)
    (laid : PropertyTables.ofRegistry registry = .ok tables)
    (resolved : Block.ofDefinitions blockDefinitions registry = .ok blocks)
    (encoded : BlockTables.ofBlocks blocks = .ok blockTables) {b : Nat} {block : Block}
    (found : blocks[b]? = some block) {declared : List (String × PropertyDefinition)}
    (named : List.Forall₂ (fun id entry => definitions.entries[id.toNat]? = some entry) block.properties
      declared) (defined : ∀ entry ∈ declared, entry ∈ definitions.entries)
    (full : block.states.length = (valueCounts declared).prod) {s : Nat}
    (owned : blockTables.owner? s = some b) :
    ∃ first digits, blockTables.firstStateIds[b]? = some first ∧ first.toNat ≤ s ∧
      blockTables.readState tables s = some ⟨b, s - first.toNat, digits, 0⟩ ∧
      Expresses definitions declared (s - first.toNat) digits := by
  obtain ⟨first, first_at, begins⟩ := firstStateId_at resolved encoded found
  have stored := ids?_of_block encoded found
  obtain ⟨block', found', lower, upper⟩ :=
    Block.block_of_inItem resolved ((owner?_iff resolved encoded).mp owned)
  cases found.symm.trans found'
  obtain ⟨digits, read, expresses⟩ := PropertyTables.expresses_readDigits checked laid named defined
    (show s - first.toNat < _ by omega)
  refine ⟨first, digits, first_at, by omega, ?_, expresses⟩
  simp [readState, owned, first_at, stored, read]

/-- The states of every block that has one for each tuple of values of its properties are read back. -/
theorem readsBack_of_block (checked : Registry.ofDefinitions definitions = .ok registry)
    (laid : PropertyTables.ofRegistry registry = .ok tables)
    (resolved : Block.ofDefinitions blockDefinitions registry = .ok blocks)
    (encoded : BlockTables.ofBlocks blocks = .ok blockTables) {b : Nat} {name : String}
    {definition : BlockDefinition} (at_b : blockDefinitions.entries[b]? = some (name, definition)) :
    ∃ declared : List (String × PropertyDefinition), declared.map (·.1) = definition.properties ∧
      (∀ entry ∈ declared, entry ∈ definitions.entries) ∧
      (definition.states.length = (valueCounts declared).prod →
        blockTables.ReadsBack definitions tables b declared) := by
  obtain ⟨block, found, result⟩ := Block.block_of_definition resolved at_b
  obtain ⟨_, _, ids, listed, _, _, _, _, same⟩ := Block.ofDefinition_eq_ok_iff.mp result
  obtain ⟨declared, names, defined, named⟩ := exists_declared checked listed
  rw [show ids = block.properties by rw [← same]] at named
  refine ⟨declared, names, defined, fun full => ?_⟩
  obtain ⟨_, _, at_b', numbers⟩ := Block.matches_of_block resolved found
  cases at_b.symm.trans at_b'
  rw [← numbers.same_count] at full
  have states : ∀ s, blockTables.owner? s = some b → _ := fun s owned =>
    BlockTables.expresses_readState checked laid resolved encoded found named defined full owned
  obtain ⟨first, first_at, begins⟩ := BlockTables.firstStateId_at resolved encoded found
  refine ⟨states, fun tuple inside => ?_⟩
  have below := number_lt inside
  have owned : blockTables.owner? (first.toNat + number (valueCounts declared) tuple) = some b := by
    rw [BlockTables.owner?_iff resolved encoded, begins]
    exact Block.inItem_of_block resolved found (Nat.le_add_right _ _) (by omega)
  refine ⟨_, ⟨owned, ?_⟩, ?_⟩
  · obtain ⟨first', digits, first'_at, _, read, expresses⟩ := states _ owned
    cases first_at.symm.trans first'_at
    exact ⟨_, digits, read, (expresses.coordinates_eq_iff inside).mpr (by omega)⟩
  · rintro s ⟨owned', place, digits, read, same⟩
    obtain ⟨first', digits', first'_at, lower, read', expresses⟩ := states s owned'
    cases first_at.symm.trans first'_at
    cases read.symm.trans read'
    have stands := (expresses.coordinates_eq_iff inside).mp same
    omega

/-- In the sample every state of the door is read back, with a facing, a half and a light. -/
theorem readsBack_door : ∃ tables blocks blockTables declared,
    Registry.ofDefinitions PropertyTables.sample = .ok PropertyTables.sampleRegistry ∧
    PropertyTables.ofRegistry PropertyTables.sampleRegistry = .ok tables ∧
    Block.ofDefinitions BlockTables.sample PropertyTables.sampleRegistry = .ok blocks ∧
    BlockTables.ofBlocks blocks = .ok blockTables ∧ valueCounts declared = [3, 2, 2] ∧
    blockTables.ReadsBack PropertyTables.sample tables 2 declared := by
  have laid : PropertyTables.ofRegistry PropertyTables.sampleRegistry = .ok _ := rfl
  have resolved : Block.ofDefinitions BlockTables.sample PropertyTables.sampleRegistry = .ok _ := rfl
  obtain ⟨declared, names, defined, reads⟩ := readsBack_of_block PropertyTables.sample_checked laid
    resolved rfl (show BlockTables.sample.entries[2]? = some _ from rfl)
  have counts : valueCounts declared = [3, 2, 2] := by
    let count (name : String) : Option Nat :=
      (PropertyTables.sample.entries.lookup name).map (·.values.length)
    have known : ∀ entry ∈ PropertyTables.sample.entries,
        some entry.2.values.length = count entry.1 := by decide
    have counted : (valueCounts declared).map some = (declared.map (·.1)).map count := by
      rw [valueCounts, List.map_map, List.map_map]
      exact List.map_congr_left fun entry member => known entry (defined entry member)
    have listed : (declared.map (·.1)).map count = [3, 2, 2].map some := by
      rw [names]
      decide
    exact List.map_injective_iff.mpr (Option.some_injective _) (counted.trans listed)
  exact ⟨_, _, _, declared, PropertyTables.sample_checked, laid, resolved, rfl, counts,
    reads (by rw [counts]; rfl)⟩

end GameTables
