import Mathlib.Data.List.Forall2
import GameTables.Proofs.Block.Resolution
import GameTables.Proofs.Document
import GameTables.Proofs.TableSource.Acceptance

/-!
# Blocks and the entries as written

The text of a document is a sequence of entries whose names may repeat, and of the entries with one name the
document keeps the last, at the place of the first. Ids that count the entries as they are written make up
for that: where a name repeats, an entry stands before the place that it declares, and is refused.
-/

namespace GameTables.Block

open BlockDefinition (readEntries readDocument)

/-- The entries declare the ids 0, 1, 2 and so on, in the order in which they are written. -/
def NumberedAsWritten (written : List (String × BlockDefinition)) : Prop :=
  written.map (·.2.id) = List.range written.length

/-- A block says what an entry says. -/
structure Restates (registry : Registry) (entry : String × BlockDefinition) (block : Block) : Prop where
  name : block.name = entry.1
  id : block.id.toNat = entry.2.id
  translationKey : block.translationKey = entry.2.translationKey
  defaultStateId : block.defaultStateId.toNat = entry.2.defaultStateId
  /-- The properties are registered, and these are their ids. -/
  properties : entry.2.properties.map (fun name => (registry.find? name).map (·.id)) =
    block.properties.map some
  states : block.states.map (fun state =>
      (state.id.toNat, state.properties, state.air, state.renderShape)) =
    entry.2.states.map fun state => (state.id, state.properties, state.air, state.renderShape)

variable {registry : Registry}

theorem ids_of_properties {block : String} {names : List String} {ids : List UInt8}
    (resolved : names.mapM (propertyId registry block) = .ok ids) :
    names.map (fun name => (registry.find? name).map (·.id)) = ids.map some := by
  refine map_eq_map_of_getElem? (length_of_mapM resolved).symm fun i name at_i => ?_
  obtain ⟨id, found, result⟩ := result_of_mapM resolved at_i
  obtain ⟨property, registered, rfl⟩ := propertyId_eq_ok_iff.mp result
  exact ⟨_, found, by rw [registered, Option.map_some]⟩

theorem restates_of_ofDefinition {name : String} {definition : BlockDefinition} {position first : Nat}
    {block : Block} (resolved : ofDefinition registry name definition position first = .ok block)
    (addressed : position < maxIds) : Restates registry (name, definition) block := by
  have numbers := matches_of_ofDefinition resolved addressed
  obtain ⟨_, _, properties, named, states, checked, _, _, rfl⟩ := ofDefinition_eq_ok_iff.mp resolved
  refine ⟨rfl, numbers.id.2.trans numbers.id.1.symm, rfl, numbers.default.1, ids_of_properties named, ?_⟩
  refine map_eq_map_of_getElem? numbers.same_count fun j state at_j => ?_
  obtain ⟨same, source, source_at, declared⟩ := numbers.states j state at_j
  obtain ⟨⟨source', expected⟩, indexed, result⟩ := source_of_mapM checked at_j
  rw [List.getElem?_zipIdx, source_at, Option.map_some] at indexed
  cases indexed
  obtain ⟨_, _, rfl⟩ := checkState_eq_ok_iff.mp result
  exact ⟨source, source_at, by rw [same, declared]⟩

variable {written : List (String × BlockDefinition)} {text : String} {blocks : List Block}

theorem id_of_numbered (numbered : NumberedAsWritten written) {j : Nat}
    {entry : String × BlockDefinition} (at_j : written[j]? = some entry) : entry.2.id = j := by
  obtain ⟨inside, _⟩ := List.getElem?_eq_some_iff.mp at_j
  have declared : (written.map (·.2.id))[j]? = some j := by
    rw [numbered, List.getElem?_range inside]
  rw [List.getElem?_map, at_j, Option.map_some, Option.some.injEq] at declared
  exact declared

/-- Where the entries of a document that is accepted were numbered as they were written, no name repeats. -/
theorem nodup_of_numbered (numbered : NumberedAsWritten written)
    (resolved : ofDefinitions (.ofEntries written) registry = .ok blocks) :
    (written.map Prod.fst).Nodup := by
  by_contra repeated
  -- An entry was written at `j` and moved up to `k`, and its id would have to be both.
  obtain ⟨k, j, entry, at_k, at_j, before⟩ := Document.exists_moved_of_repeated repeated
  obtain ⟨_, _, result⟩ := block_of_definition resolved at_k
  have declared : entry.2.id = k := (ofDefinition_eq_ok_iff.mp result).1
  have counted : entry.2.id = j := id_of_numbered numbered at_j
  omega

/-- There is a block for each entry of a document, in order, that says what the entry says. -/
theorem restates_of_ofDefinitions {definitions : Document BlockDefinition}
    (resolved : ofDefinitions definitions registry = .ok blocks) :
    List.Forall₂ (Restates registry) definitions.entries blocks := by
  have length : blocks.length = definitions.entries.length := length_of_ofDefinitions resolved
  obtain ⟨addressed, _⟩ := ofDefinitions_eq_ok_iff.mp resolved
  refine List.forall₂_iff_get.mpr ⟨length.symm, fun k inside _ => ?_⟩
  obtain ⟨block, found, result⟩ := block_of_definition resolved (List.getElem?_eq_getElem inside)
  obtain ⟨_, same⟩ := List.getElem?_eq_some_iff.mp found
  rw [List.get_eq_getElem, List.get_eq_getElem, same]
  exact restates_of_ofDefinition result (Nat.lt_of_lt_of_le inside addressed)

theorem readDocument_of_readEntries (parsed : readEntries text = .ok written) :
    readDocument text = .ok (.ofEntries written) :=
  TableSource.readDocument_blocks_iff.mpr ⟨written, parsed, rfl⟩

/-- Blocks that no registry resolves stop the generator, whatever the properties are. -/
theorem generate_refuses (parsed : readEntries text = .ok written)
    (refused : ∀ registry, ∃ e, ofDefinitions (.ofEntries written) registry = .error e)
    (generator propertiesText : String) :
    ∃ e, TableSource.generate generator text propertiesText = .error e := by
  rw [TableSource.generate_eq]
  cases TableSource.layProperties propertiesText with
  | error e => exact ⟨e, rfl⟩
  | ok laid =>
    obtain ⟨registry, properties⟩ := laid
    obtain ⟨e, refused⟩ := refused registry
    have stopped : TableSource.layBlocks text registry = .error e := by
      rw [TableSource.layBlocks, readDocument_of_readEntries parsed]
      simp only [bind, Except.bind, refused]
    exact ⟨e, return_eq_error_iff.mpr stopped⟩

/-- A text whose entries are numbered as they are written loses none of them: if it is accepted, no name
repeats and there is a block for each entry, in order, that says what the entry says. If a name repeats, it
still reads as a document, which no registry resolves; so it never comes to a source. -/
theorem numbered_entries_kept (parsed : readEntries text = .ok written)
    (numbered : NumberedAsWritten written) :
    (∀ registry definitions blocks, readDocument text = .ok definitions →
      ofDefinitions definitions registry = .ok blocks →
        (written.map Prod.fst).Nodup ∧ List.Forall₂ (Restates registry) written blocks) ∧
    (¬ (written.map Prod.fst).Nodup →
      (∃ definitions, readDocument text = .ok definitions ∧
        ∀ registry, ∃ e, ofDefinitions definitions registry = .error e) ∧
      ∀ generator propertiesText, ∃ e,
        TableSource.generate generator text propertiesText = .error e) := by
  have read := readDocument_of_readEntries parsed
  refine ⟨fun registry definitions blocks read' resolved => ?_, fun repeated => ?_⟩
  · cases read.symm.trans read'
    have distinct := nodup_of_numbered numbered resolved
    have restated := restates_of_ofDefinitions resolved
    rw [Document.entries_ofEntries_eq_iff.mpr distinct] at restated
    exact ⟨distinct, restated⟩
  · have refused (registry : Registry) :
        ∃ e, ofDefinitions (.ofEntries written) registry = .error e := by
      cases resolved : ofDefinitions (.ofEntries written) registry with
      | error e => exact ⟨e, rfl⟩
      | ok blocks => exact absurd (nodup_of_numbered numbered resolved) repeated
    exact ⟨⟨_, read, refused⟩, generate_refuses parsed refused⟩

/-- The entry of a block of one state that declares the same number for the block and the state. -/
def sampleEntry (name : String) (id : Nat) : String × BlockDefinition :=
  (name, ⟨id, name, id, [], [BlockTables.sampleState id]⟩)

/-- Two entries for two blocks. -/
def twoBlocks : String :=
  "\x7b\"air\": [0, \"air\", 0, [], [[0, \x7b\x7d, false, \"MODEL\"]]], " ++
  "\"stone\": [1, \"stone\", 1, [], [[1, \x7b\x7d, false, \"MODEL\"]]]\x7d"

/-- Three entries for two blocks. -/
def repeatedBlock : String :=
  "\x7b\"air\": [0, \"air\", 0, [], [[0, \x7b\x7d, false, \"MODEL\"]]], " ++
  "\"stone\": [1, \"stone\", 1, [], [[1, \x7b\x7d, false, \"MODEL\"]]], " ++
  "\"air\": [2, \"air\", 2, [], [[2, \x7b\x7d, false, \"MODEL\"]]]\x7d"

theorem numbered_entries_kept_sample :
    (∃ blocks, readEntries twoBlocks = .ok [sampleEntry "air" 0, sampleEntry "stone" 1] ∧
      NumberedAsWritten [sampleEntry "air" 0, sampleEntry "stone" 1] ∧
      ofDefinitions (.ofEntries [sampleEntry "air" 0, sampleEntry "stone" 1]) ⟨[]⟩ = .ok blocks ∧
      List.Forall₂ (Restates ⟨[]⟩) [sampleEntry "air" 0, sampleEntry "stone" 1] blocks) ∧
    readEntries repeatedBlock = .ok [sampleEntry "air" 0, sampleEntry "stone" 1, sampleEntry "air" 2] ∧
    NumberedAsWritten [sampleEntry "air" 0, sampleEntry "stone" 1, sampleEntry "air" 2] ∧
    ∀ generator propertiesText, ∃ e,
      TableSource.generate generator repeatedBlock propertiesText = .error e := by
  constructor
  · have parsed : readEntries twoBlocks = .ok [sampleEntry "air" 0, sampleEntry "stone" 1] :=
      eq_ok_of_toOption (by decide +kernel)
    have resolved : ofDefinitions (.ofEntries [sampleEntry "air" 0, sampleEntry "stone" 1]) ⟨[]⟩ =
        .ok [⟨"air", 0, "air", 0, [], [⟨0, .empty, false, "MODEL"⟩]⟩,
          ⟨"stone", 1, "stone", 1, [], [⟨1, .empty, false, "MODEL"⟩]⟩] :=
      eq_ok_of_toOption (by decide +kernel)
    obtain ⟨kept, _⟩ := numbered_entries_kept parsed rfl
    exact ⟨_, parsed, rfl, resolved, (kept _ _ _ (readDocument_of_readEntries parsed) resolved).2⟩
  · have parsed : readEntries repeatedBlock =
        .ok [sampleEntry "air" 0, sampleEntry "stone" 1, sampleEntry "air" 2] :=
      eq_ok_of_toOption (by decide +kernel)
    obtain ⟨_, refused⟩ := numbered_entries_kept parsed rfl
    exact ⟨parsed, rfl, (refused (by decide)).2⟩

end GameTables.Block
