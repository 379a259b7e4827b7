import Mathlib.Data.List.Infix
import GameTables.Proofs.Block.Tables
import GameTables.Proofs.Document
import GameTables.Proofs.Property.Faults

/-!
# Entries at the end of the documents

Entries that are appended to the documents leave the ids and the tables of the entries before them as they
are. Each pass over a document or over what was made of it goes through a list in order, so what it makes of
a list begins with what it makes of the beginning.
-/

namespace GameTables

/-! ## Properties -/

/-- The tables go on where shorter ones end. -/
structure PropertyTables.Extends (tables shorter : PropertyTables) : Prop where
  words : shorter.words <+: tables.words
  names : shorter.names <+: tables.names
  keys : shorter.keys <+: tables.keys
  values : shorter.values <+: tables.values

/-- A registry of more properties has those of the shorter document first. -/
theorem Registry.ofDefinitions_of_isPrefix {definitions longer : Document PropertyDefinition}
    {registry : Registry} (begins : definitions.entries <+: longer.entries)
    (checked : ofDefinitions longer = .ok registry) :
    ∃ shorter, ofDefinitions definitions = .ok shorter ∧ shorter.properties <+: registry.properties := by
  obtain ⟨fits, entered⟩ := ofDefinitions_eq_ok_iff.mp checked
  obtain ⟨properties, made, begun⟩ := mapM_of_isPrefix (zipIdx_isPrefix begins) entered
  have fewer : definitions.size ≤ maxSize := Nat.le_trans begins.length_le fits
  exact ⟨⟨properties⟩, ofDefinitions_eq_ok_iff.mpr ⟨fewer, made⟩, begun⟩

theorem PropertyTables.ofRegistry_of_isPrefix {shorter registry : Registry} {tables : PropertyTables}
    (begins : shorter.properties <+: registry.properties) (laid : ofRegistry registry = .ok tables) :
    ∃ tables', ofRegistry shorter = .ok tables' ∧ tables.Extends tables' := by
  obtain ⟨names, keys, values, checked⟩ := ofRegistry_eq_ok laid
  obtain ⟨words, made, begun⟩ := mapM_of_isPrefix (zip_offsets_isPrefix begins) checked
  refine ⟨_, bind_eq_ok_iff.mpr ⟨words, made, rfl⟩, begun, ?_, ?_, ?_⟩
  · exact names ▸ begins.map (·.name)
  · exact keys ▸ begins.map (·.key)
  · exact values ▸ begins.flatMap (·.domain.names)

/-! ## Blocks -/

/-- The tables go on where shorter ones end. -/
structure BlockTables.Extends (tables shorter : BlockTables) : Prop where
  names : shorter.names <+: tables.names
  translationKeys : shorter.translationKeys <+: tables.translationKeys
  firstStateIds : shorter.firstStateIds <+: tables.firstStateIds
  defaultStateIds : shorter.defaultStateIds <+: tables.defaultStateIds
  words : shorter.words <+: tables.words
  propertyMap : shorter.propertyMap <+: tables.propertyMap
  stateBlocks : shorter.stateBlocks <+: tables.stateBlocks

theorem Block.ofDefinitions_of_isPrefix {definitions longer : Document BlockDefinition}
    {registry : Registry} {blocks : List Block} (begins : definitions.entries <+: longer.entries)
    (resolved : ofDefinitions longer registry = .ok blocks) :
    ∃ blocks', ofDefinitions definitions registry = .ok blocks' ∧ blocks' <+: blocks := by
  obtain ⟨fits, checked⟩ := ofDefinitions_eq_ok_iff.mp resolved
  obtain ⟨blocks', made, begun⟩ :=
    mapM_of_isPrefix (zipIdx_isPrefix (zip_offsets_isPrefix begins)) checked
  have fewer : definitions.size ≤ maxIds := Nat.le_trans begins.length_le fits
  exact ⟨blocks', ofDefinitions_eq_ok_iff.mpr ⟨fewer, made⟩, begun⟩

theorem BlockTables.ofBlocks_of_isPrefix {shorter blocks : List Block} {tables : BlockTables}
    (begins : shorter <+: blocks) (encoded : ofBlocks blocks = .ok tables) :
    ∃ tables', ofBlocks shorter = .ok tables' ∧ tables.Extends tables' := by
  obtain ⟨words, checked, same⟩ := bind_eq_ok_iff.mp encoded
  cases same
  obtain ⟨words', made, begun⟩ := mapM_of_isPrefix (zip_offsets_isPrefix begins) checked
  refine ⟨_, bind_eq_ok_iff.mpr ⟨words', made, rfl⟩, ?_⟩
  exact ⟨begins.map _, begins.map _, begins.map _, begins.map _, begun, begins.flatMap _,
    begins.flatMap _⟩

/-- Registries that find the same properties give the same block. -/
theorem Block.ofDefinition_congr {registry registry' : Registry} {definition : BlockDefinition}
    (agree : ∀ property ∈ definition.properties, registry.find? property = registry'.find? property)
    (name : String) (position first : Nat) :
    ofDefinition registry name definition position first =
      ofDefinition registry' name definition position first := by
  have same : definition.properties.mapM (propertyId registry name) =
      definition.properties.mapM (propertyId registry' name) :=
    mapM_congr fun property member => by rw [propertyId, propertyId, agree property member]
  rw [ofDefinition, ofDefinition, same]

theorem Block.ofDefinitions_congr {registry registry' : Registry} {definitions : Document BlockDefinition}
    (agree : ∀ entry ∈ definitions.entries, ∀ property ∈ entry.2.properties,
      registry.find? property = registry'.find? property) :
    ofDefinitions definitions registry = ofDefinitions definitions registry' := by
  have each : ∀ placed ∈ (definitions.entries.zip (offsets 0 (stateCounts definitions))).zipIdx,
      ofDefinition registry placed.1.1.1 placed.1.1.2 placed.2 placed.1.2 =
        ofDefinition registry' placed.1.1.1 placed.1.1.2 placed.2 placed.1.2 := by
    rintro ⟨⟨entry, first⟩, position⟩ member
    have here := (List.of_mem_zip (List.fst_mem_of_mem_zipIdx member)).1
    exact ofDefinition_congr (agree entry here) ..
  have same := mapM_congr each
  rw [ofDefinitions, ofDefinitions]
  simp only [stateCounts] at same
  rw [same]

/-! ## Both documents -/

/-- All properties that the blocks name are among the properties of a document. -/
def Block.NamesOnly (definitions : Document BlockDefinition) (properties : Document PropertyDefinition) :
    Prop :=
  ∀ entry ∈ definitions.entries, ∀ property ∈ entry.2.properties,
    property ∈ properties.entries.map Prod.fst

instance (definitions : Document BlockDefinition) (properties : Document PropertyDefinition) :
    Decidable (Block.NamesOnly definitions properties) :=
  inferInstanceAs (Decidable (∀ entry ∈ definitions.entries, ∀ property ∈ entry.2.properties,
    property ∈ properties.entries.map Prod.fst))

/-- A registry of more properties finds those of the shorter document as they were. -/
theorem Registry.find?_of_isPrefix {properties : Document PropertyDefinition} {shorter registry : Registry}
    (checked : ofDefinitions properties = .ok shorter)
    (begins : shorter.properties <+: registry.properties) {name : String}
    (known : name ∈ properties.entries.map Prod.fst) : shorter.find? name = registry.find? name := by
  rw [← names_of_ofDefinitions checked] at known
  obtain ⟨property, member, rfl⟩ := List.mem_map.mp known
  have found := find?_name_of_mem checked member
  rw [found]
  exact (begins.find?_eq_some found).symm

variable {properties otherProperties : Document PropertyDefinition} {registry : Registry}
  {tables : PropertyTables}

/-- Where the properties are accepted with more of them behind, they are accepted alone, and their tables
are what the longer ones begin with. The same holds of the blocks, whatever their registry; and as long as
they name properties of the shorter document only, the registry of that document resolves them as the
longer one does, to the same blocks, and so to the same tables, or to the same error. -/
theorem tables_of_append (apart : properties.Apart otherProperties)
    (checked : Registry.ofDefinitions (properties.append otherProperties apart) = .ok registry)
    (laid : PropertyTables.ofRegistry registry = .ok tables) :
    ∃ shorter shorterTables, Registry.ofDefinitions properties = .ok shorter ∧
      PropertyTables.ofRegistry shorter = .ok shorterTables ∧ tables.Extends shorterTables ∧
      (∀ (definitions others : Document BlockDefinition) (apart : definitions.Apart others)
        (blocks : List Block) (blockTables : BlockTables),
        Block.ofDefinitions (definitions.append others apart) registry = .ok blocks →
          BlockTables.ofBlocks blocks = .ok blockTables →
            ∃ fewer fewerTables, Block.ofDefinitions definitions registry = .ok fewer ∧
              BlockTables.ofBlocks fewer = .ok fewerTables ∧ blockTables.Extends fewerTables) ∧
      ∀ definitions : Document BlockDefinition, Block.NamesOnly definitions properties →
        Block.ofDefinitions definitions shorter = Block.ofDefinitions definitions registry := by
  have begins := Document.entries_isPrefix_append properties otherProperties apart
  obtain ⟨shorter, accepted, first⟩ := Registry.ofDefinitions_of_isPrefix begins checked
  obtain ⟨shorterTables, laid', extends_shorter⟩ := PropertyTables.ofRegistry_of_isPrefix first laid
  refine ⟨shorter, shorterTables, accepted, laid', extends_shorter, ?_, fun definitions named => ?_⟩
  · intro definitions others apart blocks blockTables resolved encoded
    have begins := Document.entries_isPrefix_append definitions others apart
    obtain ⟨fewer, resolved', first⟩ := Block.ofDefinitions_of_isPrefix begins resolved
    obtain ⟨fewerTables, encoded', extends_fewer⟩ := BlockTables.ofBlocks_of_isPrefix first encoded
    exact ⟨fewer, fewerTables, resolved', encoded', extends_fewer⟩
  · exact Block.ofDefinitions_congr fun entry here property member =>
      Registry.find?_of_isPrefix accepted first (named entry here property member)

/-- Two properties more than the sample has. -/
def PropertyTables.moreProperties : Document PropertyDefinition :=
  ⟨[("axis", ⟨"axis", .strings ["x", "y", "z"]⟩), ("open", ⟨"open", .booleans [true, false]⟩)], by decide⟩

/-- A block more than the sample has, with properties old and new. -/
def BlockTables.moreBlocks : Document BlockDefinition :=
  ⟨[("gate", ⟨3, "block.gate", 16, ["open", "lit"], [16, 17, 18, 19].map sampleState⟩)], by decide⟩

def PropertyTables.longerRegistry : Registry :=
  ⟨sampleRegistry.properties ++
    [⟨5, "axis", "axis", .named ["x", "y", "z"]⟩, ⟨6, "open", "open", .boolean⟩]⟩

theorem tables_of_append_sample :
    ∃ (apart : PropertyTables.sample.Apart PropertyTables.moreProperties)
      (apart' : BlockTables.sample.Apart BlockTables.moreBlocks) (tables shorterTables : PropertyTables)
      (blocks fewer : List Block) (blockTables fewerTables : BlockTables),
      Registry.ofDefinitions (PropertyTables.sample.append PropertyTables.moreProperties apart) =
        .ok PropertyTables.longerRegistry ∧
      PropertyTables.ofRegistry PropertyTables.longerRegistry = .ok tables ∧
      PropertyTables.ofRegistry PropertyTables.sampleRegistry = .ok shorterTables ∧
      tables.Extends shorterTables ∧
      Block.ofDefinitions (BlockTables.sample.append BlockTables.moreBlocks apart')
        PropertyTables.longerRegistry = .ok blocks ∧
      BlockTables.ofBlocks blocks = .ok blockTables ∧
      Block.NamesOnly BlockTables.sample PropertyTables.sample ∧
      Block.ofDefinitions BlockTables.sample PropertyTables.sampleRegistry = .ok fewer ∧
      BlockTables.ofBlocks fewer = .ok fewerTables ∧ blockTables.Extends fewerTables := by
  have apart : PropertyTables.sample.Apart PropertyTables.moreProperties := by decide
  have apart' : BlockTables.sample.Apart BlockTables.moreBlocks := by decide
  have named : Block.NamesOnly BlockTables.sample PropertyTables.sample := by decide
  have checked : Registry.ofDefinitions
      (PropertyTables.sample.append PropertyTables.moreProperties apart) =
        .ok PropertyTables.longerRegistry := rfl
  obtain ⟨tables, laid⟩ : ∃ tables, PropertyTables.ofRegistry PropertyTables.longerRegistry = .ok tables :=
    ⟨_, rfl⟩
  obtain ⟨blocks, blockTables, resolved, encoded⟩ : ∃ blocks blockTables,
      Block.ofDefinitions (BlockTables.sample.append BlockTables.moreBlocks apart')
        PropertyTables.longerRegistry = .ok blocks ∧ BlockTables.ofBlocks blocks = .ok blockTables :=
    ⟨_, _, rfl, rfl⟩
  obtain ⟨_, shorterTables, accepted, laid', longer, keep, alone⟩ := tables_of_append apart checked laid
  cases PropertyTables.sample_checked.symm.trans accepted
  obtain ⟨fewer, fewerTables, resolved', encoded', more⟩ := keep _ _ apart' _ _ resolved encoded
  rw [← alone _ named] at resolved'
  exact ⟨apart, apart', tables, shorterTables, blocks, fewer, blockTables, fewerTables, checked, laid, laid',
    longer, resolved, encoded, named, resolved', encoded', more⟩

end GameTables
