import GameTables.Proofs.Property.Registry
import GameTables.Proofs.Tiling
import GameTables.Property.Tables

/-!
# Reading the property tables

The word of a property, with the list of all named values, gives back the values that the document
lists. The named values of all properties lie end to end.
-/

namespace GameTables

namespace PropertyWord

/-- The values that a word describes. Named ones are read from the list of all names. -/
def values? (names : List String) (word : PropertyWord) : Option ValueList :=
  match word.kind with
  | .named => do
    let offset ← word.offset?
    if offset.toNat + word.count.toNat ≤ names.length then
      return .strings ((names.drop offset.toNat).take word.count.toNat)
    else none
  | .boolean => some (.booleans [true, false])
  | .fromZero | .fromOne => do
    let first ← word.firstInteger?
    return .integers ((List.range word.count.toNat).map fun k => ((first.toNat + k : Nat) : Int))

/-- The place and the number of the named values of a word. -/
def slice? (word : PropertyWord) : Option (Nat × Nat) :=
  word.offset?.map fun offset => (offset.toNat, word.count.toNat)

theorem offset?_pack {kind : PropertyKind} (other : kind ≠ .named) (count offset : UInt8) :
    (pack kind count offset).offset? = none := by
  simp [offset?, other]

theorem toNat_count_pack_ofNat (kind : PropertyKind) {count : Nat} (small : count < 32)
    (offset : UInt8) : (pack kind (UInt8.ofNat count) offset).count.toNat = count := by
  rw [toNat_count_pack, UInt8.toNat_ofNat']
  omega

theorem slice?_pack_named {count offset : Nat} (small : count < 32) (in_byte : offset < 256) :
    (pack .named (UInt8.ofNat count) (UInt8.ofNat offset)).slice? = some (offset, count) := by
  rw [slice?, offset?_pack_named, Option.map_some, toNat_count_pack_ofNat _ small,
    UInt8.toNat_ofNat', Nat.mod_eq_of_lt in_byte]

theorem testBit_seven_pack (kind : PropertyKind) (count offset : UInt8) :
    (pack kind count offset).bits.toNat.testBit 7 = false := by
  have tag := kind.tag_lt
  rw [toNat_pack, Nat.testBit_eq_decide_div_mod_eq, decide_eq_false_iff_not]
  split <;> omega

theorem pack_lt {kind : PropertyKind} (other : kind ≠ .named) (count offset : UInt8) :
    (pack kind count offset).bits.toNat < 256 := by
  have tag := kind.tag_lt
  rw [toNat_pack, if_neg other]
  omega

/-- A word gives back the values of the domain that it was packed for. -/
theorem values?_pack {domain : PropertyDomain} (positive : 0 < domain.size) (small : domain.size < 32)
    {names : List String} {offset : Nat} (in_byte : offset < 256)
    (slice : domain.kind = .named → (names.drop offset).take domain.size = domain.names) :
    (pack domain.kind (UInt8.ofNat domain.size) (UInt8.ofNat offset)).values? names =
      some domain.toValues := by
  simp only [values?, toNat_count_pack_ofNat _ small, kind_pack]
  cases domain with
  | named values =>
    have kept : (UInt8.ofNat offset).toNat = offset := by
      rw [UInt8.toNat_ofNat', Nat.mod_eq_of_lt in_byte]
    have cut : (names.drop offset).take values.length = values := slice rfl
    have inside : offset + values.length ≤ names.length := by
      have length := congrArg List.length cut
      rw [List.length_take, List.length_drop] at length
      simp only [PropertyDomain.size] at positive
      omega
    simp [PropertyDomain.kind, PropertyDomain.size, PropertyDomain.toValues, offset?_pack_named, kept,
      inside, cut]
  | boolean => rfl
  | integers first count =>
    obtain rfl | rfl : first = 0 ∨ first = 1 := by omega
    · simp [PropertyDomain.kind, PropertyDomain.size, PropertyDomain.toValues, firstInteger?]
    · simp [PropertyDomain.kind, PropertyDomain.size, PropertyDomain.toValues, firstInteger?]

end PropertyWord

namespace PropertyTables

/-- How many named values each property has. -/
def nameCounts (properties : List Property) : List Nat :=
  properties.map (·.domain.names.length)

theorem word_eq_ok_iff {property : Property} {offset : Nat} {result : PropertyWord} :
    word property offset = .ok result ↔
      (property.domain.kind = .named → offset + property.domain.names.length ≤ maxValues) ∧
        PropertyWord.pack property.domain.kind (UInt8.ofNat property.domain.size)
          (UInt8.ofNat offset) = result := by
  unfold word
  by_cases too_many : property.domain.kind = .named ∧
      maxValues < offset + property.domain.names.length
  · obtain ⟨named, outside⟩ := too_many
    simp [named, outside, Nat.not_le.mpr outside]
  · rw [if_neg too_many, Except.ok.injEq]
    rw [not_and, Nat.not_lt] at too_many
    exact (and_iff_right too_many).symm

variable {registry : Registry} {tables : PropertyTables}

/-- The columns of the tables, and the check that makes the words. -/
theorem ofRegistry_eq_ok (laid : ofRegistry registry = .ok tables) :
    tables.names = registry.properties.map (·.name) ∧
      tables.keys = registry.properties.map (·.key) ∧
      tables.values = registry.properties.flatMap (·.domain.names) ∧
      ((registry.properties.zip (offsets 0 (nameCounts registry.properties))).mapM
        fun (property, offset) => word property offset) = .ok tables.words := by
  obtain ⟨words, checked, same⟩ := bind_eq_ok_iff.mp laid
  cases same
  exact ⟨rfl, rfl, rfl, checked⟩

theorem length_words (laid : ofRegistry registry = .ok tables) :
    tables.words.length = registry.size := by
  obtain ⟨_, _, _, checked⟩ := ofRegistry_eq_ok laid
  rw [length_of_mapM checked, List.length_zip, length_offsets, nameCounts, List.length_map,
    Nat.min_self]
  rfl

/-- The word of a property is made for the place where its named values begin. -/
theorem word_of_property (laid : ofRegistry registry = .ok tables) {i : Nat} {property : Property}
    (at_i : registry.properties[i]? = some property) :
    ∃ result, tables.words[i]? = some result ∧
      word property (beginOf (nameCounts registry.properties) i) = .ok result := by
  obtain ⟨_, _, _, checked⟩ := ofRegistry_eq_ok laid
  exact result_of_mapM checked (getElem?_zip_offsets at_i)

/-- Where the place is within the bounds, a word is refused exactly if its named values end outside. -/
theorem word_of_le {property : Property} {offset : Nat} (before : offset ≤ maxValues) :
    word property offset =
      if maxValues < offset + property.domain.names.length then
        .error (.tooManyEnumValues property.name (offset + property.domain.names.length))
      else
        .ok (.pack property.domain.kind (UInt8.ofNat property.domain.size) (UInt8.ofNat offset)) := by
  unfold word
  by_cases named : property.domain.kind = .named
  · simp only [named, true_and]
  · have unnamed : ¬ maxValues < offset + property.domain.names.length := by
      rw [PropertyDomain.names_eq_nil named]
      exact Nat.not_lt.mpr before
    rw [if_neg unnamed]
    exact if_neg fun both => named both.1

theorem getElem?_nameCounts {i : Nat} {property : Property}
    (at_i : registry.properties[i]? = some property) :
    (nameCounts registry.properties)[i]? = some property.domain.names.length := by
  simp [nameCounts, at_i]

/-- The words before a place can be made exactly if the named values before it fit. Properties with other
values do not move the place. -/
theorem words_iff_beginOf_le {i : Nat} (inside : i ≤ registry.size) :
    (∀ j < i, ∀ property, registry.properties[j]? = some property →
      ∃ result, word property (beginOf (nameCounts registry.properties) j) = .ok result) ↔
    beginOf (nameCounts registry.properties) i ≤ maxValues := by
  induction i with
  | zero => simp
  | succ i ih =>
    obtain ⟨property, at_i⟩ : ∃ property, registry.properties[i]? = some property :=
      ⟨_, List.getElem?_eq_getElem inside⟩
    have reached := ih (Nat.le_of_succ_le inside)
    rw [beginOf_succ (getElem?_nameCounts at_i)]
    constructor
    · intro made
      have before := reached.mp fun j earlier => made j (Nat.lt_succ_of_lt earlier)
      obtain ⟨_, made⟩ := made i (Nat.lt_succ_self i) property at_i
      rw [word_of_le before] at made
      refine Nat.le_of_not_lt fun outside => ?_
      rw [if_pos outside] at made
      cases made
    · intro fits j earlier property' at_j
      have before := Nat.le_trans (Nat.le_add_right _ _) fits
      rcases Nat.lt_succ_iff_lt_or_eq.mp earlier with earlier | rfl
      · exact reached.mpr before j earlier property' at_j
      · cases at_i.symm.trans at_j
        rw [word_of_le before, if_neg (Nat.not_lt.mpr fits)]
        exact ⟨_, rfl⟩

theorem beginOf_le_max (laid : ofRegistry registry = .ok tables) {i : Nat} (inside : i ≤ registry.size) :
    beginOf (nameCounts registry.properties) i ≤ maxValues := by
  refine (words_iff_beginOf_le inside).mp fun j _ property at_j => ?_
  obtain ⟨result, _, made⟩ := word_of_property laid at_j
  exact ⟨result, made⟩

/-- A registry is refused because of the first property whose named values end outside. -/
theorem ofRegistry_eq_error_iff {e : TableError} :
    ofRegistry registry = .error e ↔
      ∃ i property, registry.properties[i]? = some property ∧
        beginOf (nameCounts registry.properties) i ≤ maxValues ∧
        maxValues < beginOf (nameCounts registry.properties) (i + 1) ∧
        e = .tooManyEnumValues property.name (beginOf (nameCounts registry.properties) (i + 1)) := by
  refine return_eq_error_iff.trans (mapM_zip_offsets_eq_error_iff.trans ?_)
  refine exists_congr fun i => exists_congr fun property => and_congr_right fun at_i => ?_
  obtain ⟨inside, _⟩ := List.getElem?_eq_some_iff.mp at_i
  rw [beginOf_succ (getElem?_nameCounts at_i), and_comm]
  refine (and_congr_left' (words_iff_beginOf_le (Nat.le_of_lt inside))).trans ?_
  refine and_congr_right fun before => ?_
  change word property (beginOf (nameCounts registry.properties) i) = _ ↔ _
  rw [word_of_le before]
  by_cases outside :
      maxValues < beginOf (nameCounts registry.properties) i + property.domain.names.length
  · simp [outside, eq_comm]
  · simp [outside]

theorem length_values (laid : ofRegistry registry = .ok tables) :
    tables.values.length = (nameCounts registry.properties).sum := by
  obtain ⟨_, _, values, _⟩ := ofRegistry_eq_ok laid
  rw [values, List.length_flatMap]
  rfl

/-- The words of properties mark off their named values one after the other. -/
theorem tiles_words {properties : List Property} {start : Nat} {words : List PropertyWord}
    (small : ∀ property ∈ properties, property.domain.size < 32)
    (fits : start + (nameCounts properties).sum < 256)
    (made : ((properties.zip (offsets start (nameCounts properties))).mapM
      fun (property, offset) => word property offset) = .ok words) :
    Tiles start (start + (nameCounts properties).sum) (words.filterMap PropertyWord.slice?) := by
  induction properties generalizing start words with
  | nil =>
    cases made
    rfl
  | cons property rest ih =>
    have sum : (nameCounts (property :: rest)).sum =
        property.domain.names.length + (nameCounts rest).sum := by
      simp [nameCounts]
    rw [sum] at fits ⊢
    simp only [nameCounts, List.map_cons, offsets_cons, List.zip_cons_cons, List.mapM_cons] at made
    obtain ⟨first, head, made⟩ := bind_eq_ok_iff.mp made
    obtain ⟨others, tail, made⟩ := bind_eq_ok_iff.mp made
    cases made
    have later := ih (fun other member => small other (List.mem_cons_of_mem _ member))
      (show start + property.domain.names.length + (nameCounts rest).sum < 256 by omega) tail
    obtain ⟨_, rfl⟩ := word_eq_ok_iff.mp head
    have bound := small property List.mem_cons_self
    rw [← Nat.add_assoc, List.filterMap_cons]
    by_cases named : property.domain.kind = .named
    · rw [named, PropertyWord.slice?_pack_named bound (by omega)]
      rw [PropertyDomain.length_names named] at later ⊢
      exact ⟨rfl, later⟩
    · rw [PropertyWord.slice?, PropertyWord.offset?_pack named]
      rw [PropertyDomain.names_eq_nil named] at later ⊢
      exact later

/-! ## What the tables say -/

/-- Tables give back a document. -/
structure Describes (definitions : Document PropertyDefinition) (tables : PropertyTables) : Prop where
  /-- There is a word, a name and a key for each property. -/
  lengths : tables.words.length = definitions.size ∧ tables.names.length = definitions.size ∧
    tables.keys.length = definitions.size
  /-- Each stands at the position of its definition, and the word gives back the values. -/
  entries : ∀ (i : Nat) (name : String) (definition : PropertyDefinition),
    definitions.entries[i]? = some (name, definition) →
      tables.names[i]? = some name ∧ tables.keys[i]? = some definition.key ∧
        ∃ word, tables.words[i]? = some word ∧ word.values? tables.values = some definition.values ∧
          word.count.toNat = definition.values.length
  /-- Bit 7 is zero, and so are bits 8 to 15 of words for other than named values. -/
  zeros : ∀ word ∈ tables.words, word.bits.toNat.testBit 7 = false ∧
    (word.kind ≠ .named → ∀ bit, 8 ≤ bit → word.bits.toNat.testBit bit = false)
  /-- The named values of the properties lie end to end. -/
  tiling : Tiles 0 tables.values.length (tables.words.filterMap PropertyWord.slice?)

/-- The id of a property is its position, and the number of its values and the place where its names
begin do not change when they are put into a byte. -/
def FitsBytes (registry : Registry) : Prop :=
  ∀ (i : Nat) (property : Property), registry.properties[i]? = some property →
    property.id.toNat = i ∧
      (UInt8.ofNat property.domain.size).toNat = property.domain.size ∧
      ∃ offset, (offsets 0 (nameCounts registry.properties))[i]? = some offset ∧
        (UInt8.ofNat offset).toNat = offset

variable {definitions : Document PropertyDefinition}

/-- The word at the position of a definition. -/
theorem word_of_definition (checked : Registry.ofDefinitions definitions = .ok registry)
    (laid : ofRegistry registry = .ok tables) {i : Nat} {name : String}
    {definition : PropertyDefinition} (at_i : definitions.entries[i]? = some (name, definition)) :
    ∃ word, tables.words[i]? = some word ∧ word.values? tables.values = some definition.values ∧
      word.count.toNat = definition.values.length := by
  obtain ⟨property, found, enters⟩ := Registry.property_of_definition checked at_i
  obtain ⟨result, read, made⟩ := word_of_property laid found
  obtain ⟨_, rfl⟩ := word_eq_ok_iff.mp made
  obtain ⟨inside, _⟩ := List.getElem?_eq_some_iff.mp found
  obtain ⟨same_size, positive, bounded⟩ := PropertyDomain.size_of_ofValues enters.accepted
  obtain ⟨_, _, same_values⟩ := PropertyDomain.ofValues_eq_ok_iff.mp enters.accepted
  have small : property.domain.size < 32 := Nat.lt_succ_of_le bounded
  have in_byte := Nat.lt_succ_of_le (beginOf_le_max laid (Nat.le_of_lt inside))
  refine ⟨_, read, ?_, ?_⟩
  · rw [← same_values]
    apply PropertyWord.values?_pack positive small in_byte
    intro named
    obtain ⟨_, _, values, _⟩ := ofRegistry_eq_ok laid
    have cut := slice_flatMap (f := fun property : Property => property.domain.names) found
    rw [values, ← PropertyDomain.length_names named]
    exact cut
  · rw [PropertyWord.toNat_count_pack_ofNat _ small, same_size]

theorem fitsBytes_of_ofRegistry (checked : Registry.ofDefinitions definitions = .ok registry)
    (laid : ofRegistry registry = .ok tables) : FitsBytes registry := by
  intro i property at_i
  obtain ⟨inside, _⟩ := List.getElem?_eq_some_iff.mp at_i
  obtain ⟨_, _, _, enters⟩ := Registry.definition_of_property checked at_i
  obtain ⟨_, bounded⟩ := Registry.size_of_property checked (List.mem_of_getElem? at_i)
  have begun : (offsets 0 (nameCounts registry.properties))[i]? = _ :=
    getElem?_offsets 0 (by simpa [nameCounts] using inside)
  have in_byte := beginOf_le_max laid (Nat.le_of_lt inside)
  rw [Nat.zero_add] at begun
  refine ⟨enters.sameId, ?_, _, begun, ?_⟩
  · exact Nat.mod_eq_of_lt (Nat.lt_of_le_of_lt bounded (by decide))
  · exact Nat.mod_eq_of_lt (Nat.lt_of_le_of_lt in_byte (by decide))

/-- The bits that no part of a word takes up are zero. -/
theorem zeros_of_word (laid : ofRegistry registry = .ok tables) {word : PropertyWord}
    (member : word ∈ tables.words) : word.bits.toNat.testBit 7 = false ∧
      (word.kind ≠ .named → ∀ bit, 8 ≤ bit → word.bits.toNat.testBit bit = false) := by
  obtain ⟨_, _, _, made⟩ := ofRegistry_eq_ok laid
  obtain ⟨i, at_i⟩ := List.mem_iff_getElem?.mp member
  obtain ⟨⟨property, offset⟩, _, result⟩ := source_of_mapM made at_i
  obtain ⟨_, rfl⟩ := word_eq_ok_iff.mp result
  refine ⟨PropertyWord.testBit_seven_pack _ _ _, fun other bit high => ?_⟩
  rw [PropertyWord.kind_pack] at other
  apply Nat.testBit_lt_two_pow
  calc
    _ < 2 ^ 8 := PropertyWord.pack_lt other _ _
    _ ≤ 2 ^ bit := Nat.pow_le_pow_right (by decide) high

theorem tiles_values (checked : Registry.ofDefinitions definitions = .ok registry)
    (laid : ofRegistry registry = .ok tables) :
    Tiles 0 tables.values.length (tables.words.filterMap PropertyWord.slice?) := by
  obtain ⟨_, _, _, made⟩ := ofRegistry_eq_ok laid
  have total := beginOf_le_max laid (Nat.le_refl _)
  have length : registry.size = (nameCounts registry.properties).length := by
    simp [nameCounts, Registry.size]
  rw [length, beginOf_length] at total
  have small : ∀ property ∈ registry.properties, property.domain.size < 32 := by
    intro property member
    exact Nat.lt_succ_of_le (Registry.size_of_property checked member).2
  have fits : 0 + (nameCounts registry.properties).sum < 256 := by
    rw [Nat.zero_add]
    exact Nat.lt_succ_of_le total
  have tiles := tiles_words small fits made
  rwa [Nat.zero_add, ← length_values laid] at tiles

/-- The tables of a checked document give it back, and no number lost a bit on the way into them. -/
theorem describes_ofRegistry (checked : Registry.ofDefinitions definitions = .ok registry)
    (laid : ofRegistry registry = .ok tables) : Describes definitions tables ∧ FitsBytes registry := by
  obtain ⟨names, keys, _, _⟩ := ofRegistry_eq_ok laid
  have size := Registry.size_of_ofDefinitions checked
  refine ⟨⟨⟨?_, ?_, ?_⟩, ?_, fun word member => zeros_of_word laid member, tiles_values checked laid⟩,
    fitsBytes_of_ofRegistry checked laid⟩
  · rw [length_words laid, size]
  · rw [names, List.length_map]
    exact size
  · rw [keys, List.length_map]
    exact size
  · intro i name definition at_i
    obtain ⟨property, found, enters⟩ := Registry.property_of_definition checked at_i
    refine ⟨?_, ?_, word_of_definition checked laid at_i⟩
    · rw [names, List.getElem?_map, found, Option.map_some, enters.sameName]
    · rw [keys, List.getElem?_map, found, Option.map_some, enters.sameKey]

/-- A document with values of all four kinds, the names not next to each other. -/
def sample : Document PropertyDefinition :=
  ⟨[("facing", ⟨"facing", .strings ["north", "south", "west"]⟩),
    ("lit", ⟨"lit", .booleans [true, false]⟩),
    ("half", ⟨"half", .strings ["upper", "lower"]⟩),
    ("age", ⟨"age", .integers [0, 1, 2]⟩),
    ("layers", ⟨"layers", .integers [1, 2, 3, 4]⟩)], by decide⟩

def sampleRegistry : Registry :=
  ⟨[⟨0, "facing", "facing", .named ["north", "south", "west"]⟩, ⟨1, "lit", "lit", .boolean⟩,
    ⟨2, "half", "half", .named ["upper", "lower"]⟩, ⟨3, "age", "age", .integers ⟨0, Nat.zero_lt_two⟩ 3⟩,
    ⟨4, "layers", "layers", .integers ⟨1, Nat.one_lt_two⟩ 4⟩]⟩

theorem sample_checked : Registry.ofDefinitions sample = .ok sampleRegistry := rfl

theorem describes_sample : ∃ tables, Registry.ofDefinitions sample = .ok sampleRegistry ∧
    ofRegistry sampleRegistry = .ok tables ∧ tables.values.length = 5 ∧ Describes sample tables ∧
      FitsBytes sampleRegistry :=
  ⟨_, sample_checked, rfl, rfl, describes_ofRegistry sample_checked rfl⟩

end PropertyTables

end GameTables
