import GameTables.Proofs.Block.Acceptance
import GameTables.Proofs.Property.Acceptance
import GameTables.TableSource.Render

/-!
# Which pairs of documents are accepted

The generator makes a source exactly of a text that reads as a document of properties and a text that
reads as a document of blocks, if both documents keep their rules. What is wrong with the properties is
found before the blocks are looked at.
-/

namespace GameTables.TableSource

/-- A text reads as a document of properties that keeps the rules. -/
def ReadsProperties (text : String) (document : Document UntypedProperty) : Prop :=
  (∃ written, UntypedProperty.readEntries text = .ok written ∧ .ofEntries written = document) ∧
    PropertiesValid document

/-- A text reads as a document of blocks that keeps the rules, with the properties of another document. -/
def ReadsBlocks (properties : Document UntypedProperty) (text : String)
    (document : Document BlockDefinition) : Prop :=
  (∃ written, BlockDefinition.readEntries text = .ok written ∧ .ofEntries written = document) ∧
    BlocksValid (properties.entries.map Prod.fst) document

/-- The work on the text of properties, which comes first. -/
def layProperties (text : String) : Except TableError (Registry × PropertyTables) := do
  let definitions ← PropertyDefinition.readDocument text
  let registry ← Registry.ofDefinitions definitions
  return (registry, ← PropertyTables.ofRegistry registry)

/-- The work on the text of blocks. -/
def layBlocks (text : String) (registry : Registry) : Except TableError BlockTables := do
  let definitions ← BlockDefinition.readDocument text
  BlockTables.ofBlocks (← Block.ofDefinitions definitions registry)

theorem generate_eq (generator blocksText propertiesText : String) :
    generate generator blocksText propertiesText = do
      let (registry, properties) ← layProperties propertiesText
      return render generator properties (← layBlocks blocksText registry) := by
  simp [generate, layProperties, layBlocks]

theorem readDocument_properties_iff {text : String} {definitions : Document PropertyDefinition} :
    PropertyDefinition.readDocument text = .ok definitions ↔
      ∃ written, UntypedProperty.readEntries text = .ok written ∧
        (Document.ofEntries written).mapM UntypedProperty.typed = .ok definitions := by
  unfold PropertyDefinition.readDocument
  cases UntypedProperty.readEntries text with
  | error fault => simp
  | ok written => simp

theorem readDocument_blocks_iff {text : String} {document : Document BlockDefinition} :
    BlockDefinition.readDocument text = .ok document ↔
      ∃ written, BlockDefinition.readEntries text = .ok written ∧ .ofEntries written = document := by
  unfold BlockDefinition.readDocument
  cases BlockDefinition.readEntries text with
  | error fault => simp
  | ok written => simp

/-- The work on the text of properties succeeds exactly if the text reads as a document that keeps the
rules. -/
theorem exists_layProperties_iff {text : String} :
    (∃ laid, layProperties text = .ok laid) ↔ ∃ document, ReadsProperties text document := by
  constructor
  · rintro ⟨⟨registry, tables⟩, laid⟩
    obtain ⟨definitions, read, laid⟩ := bind_eq_ok_iff.mp laid
    obtain ⟨registry', checked, laid⟩ := bind_eq_ok_iff.mp laid
    obtain ⟨tables', laid, _⟩ := bind_eq_ok_iff.mp laid
    obtain ⟨written, read, typed⟩ := readDocument_properties_iff.mp read
    exact ⟨_, ⟨written, read, rfl⟩, propertiesValid_iff.mpr
      ⟨registry', ⟨definitions, typed, checked⟩, tables', laid⟩⟩
  · rintro ⟨_, ⟨written, read, rfl⟩, valid⟩
    obtain ⟨registry, ⟨definitions, typed, checked⟩, tables, laid⟩ := propertiesValid_iff.mp valid
    refine ⟨(registry, tables), bind_eq_ok_iff.mpr ⟨definitions, ?_, ?_⟩⟩
    · exact readDocument_properties_iff.mpr ⟨written, read, typed⟩
    · exact bind_eq_ok_iff.mpr ⟨registry, checked, bind_eq_ok_iff.mpr ⟨tables, laid, rfl⟩⟩

/-- The registry that the text of properties gives knows the names of the document. -/
theorem find?_of_layProperties {text : String} {registry : Registry} {tables : PropertyTables}
    (laid : layProperties text = .ok (registry, tables)) {document : Document UntypedProperty}
    (reads : ReadsProperties text document) (name : String) :
    (∃ property, registry.find? name = some property) ↔ name ∈ document.entries.map Prod.fst := by
  obtain ⟨definitions, read, laid⟩ := bind_eq_ok_iff.mp laid
  obtain ⟨registry', checked, laid⟩ := bind_eq_ok_iff.mp laid
  obtain ⟨tables', laid, same⟩ := bind_eq_ok_iff.mp laid
  cases same
  obtain ⟨written, read, typed⟩ := readDocument_properties_iff.mp read
  obtain ⟨⟨written', read', rfl⟩, _⟩ := reads
  cases read.symm.trans read'
  exact Registers.find?_iff ⟨definitions, typed, checked⟩

/-- With a registry that knows the names of a document, the work on the text of blocks succeeds exactly
if the text reads as a document that keeps the rules. -/
theorem exists_layBlocks_iff {text : String} {registry : Registry} {properties : Document UntypedProperty}
    (knows : ∀ name, (∃ property, registry.find? name = some property) ↔
      name ∈ properties.entries.map Prod.fst) :
    (∃ tables, layBlocks text registry = .ok tables) ↔
      ∃ document, ReadsBlocks properties text document := by
  constructor
  · rintro ⟨tables, laid⟩
    obtain ⟨document, read, laid⟩ := bind_eq_ok_iff.mp laid
    obtain ⟨blocks, resolved, encoded⟩ := bind_eq_ok_iff.mp laid
    exact ⟨document, readDocument_blocks_iff.mp read,
      (blocksValid_iff knows).mpr ⟨blocks, resolved, tables, encoded⟩⟩
  · rintro ⟨document, read, valid⟩
    obtain ⟨blocks, resolved, tables, encoded⟩ := (blocksValid_iff knows).mp valid
    refine ⟨tables, bind_eq_ok_iff.mpr ⟨document, readDocument_blocks_iff.mpr read, ?_⟩⟩
    exact bind_eq_ok_iff.mpr ⟨blocks, resolved, encoded⟩

/-- A source is made of exactly the pairs of texts that read as documents which keep the rules. A text
of properties that does not is refused with one error, whatever the text of blocks is. -/
theorem generate_ok_iff_valid (propertiesText : String) :
    (∀ generator blocksText,
      (∃ source, generate generator blocksText propertiesText = .ok source) ↔
        ∃ properties, ReadsProperties propertiesText properties ∧
          ∃ blocks, ReadsBlocks properties blocksText blocks) ∧
    ((¬ ∃ properties, ReadsProperties propertiesText properties) →
      ∃ error, ∀ generator blocksText,
        generate generator blocksText propertiesText = .error error) := by
  simp only [generate_eq, ← exists_layProperties_iff]
  cases laid : layProperties propertiesText with
  | error e =>
    have refused : ¬ ∃ properties, ReadsProperties propertiesText properties := by
      rw [← exists_layProperties_iff, laid]
      rintro ⟨_, passed⟩
      cases passed
    refine ⟨fun generator blocksText => ⟨?_, ?_⟩, fun _ => ⟨e, fun _ _ => rfl⟩⟩
    · rintro ⟨source, passed⟩
      cases passed
    · rintro ⟨properties, reads, _⟩
      exact absurd ⟨properties, reads⟩ refused
  | ok result =>
    obtain ⟨registry, tables⟩ := result
    refine ⟨fun generator blocksText => ?_, fun refused => absurd ⟨_, rfl⟩ refused⟩
    have passes : (∃ source, (do
        let (registry, properties) ← Except.ok (registry, tables)
        return render generator properties (← layBlocks blocksText registry)) = .ok source) ↔
        ∃ laid, layBlocks blocksText registry = .ok laid := exists_return_eq_ok_iff
    obtain ⟨properties, reads⟩ := exists_layProperties_iff.mp ⟨_, laid⟩
    rw [passes]
    constructor
    · intro made
      exact ⟨properties, reads, (exists_layBlocks_iff (find?_of_layProperties laid reads)).mp made⟩
    · rintro ⟨properties', reads', blocks⟩
      exact (exists_layBlocks_iff (find?_of_layProperties laid reads')).mpr blocks

end GameTables.TableSource
