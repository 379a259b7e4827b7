import GameTables.Proofs.Property.Tables

/-!
# Which documents of properties are accepted

Four checks follow each other: the values of each property get a type, the type has to be one of the
three kinds of domains, the properties are counted, and so are their named values. Together they accept
exactly the documents that keep three rules, which are stated of the values as they are written.
-/

namespace GameTables

/-! ## Lists of values -/

namespace ValueList

theorem string?_eq_some_iff {value : Json.Value} {s : String} :
    string? value = some s ↔ value = .string s := by
  cases value <;> simp [string?]

theorem boolean?_eq_some_iff {value : Json.Value} {b : Bool} :
    boolean? value = some b ↔ value = .boolean b := by
  cases value <;> simp [boolean?]

theorem integer?_eq_some_iff {value : Json.Value} {n : Int} :
    integer? value = some n ↔ value = .number (.integer n) ∧ n ≤ Json.maxSigned64 := by
  cases value with
  | number number =>
    cases number with
    | integer m =>
      simp only [integer?, Option.ite_none_right_eq_some, Option.some.injEq, Json.Value.number.injEq,
        Json.Number.integer.injEq]
      constructor
      · rintro ⟨fits, rfl⟩
        exact ⟨rfl, fits⟩
      · rintro ⟨rfl, fits⟩
        exact ⟨fits, rfl⟩
    | float f => simp [integer?]
  | null => simp [integer?]
  | boolean b => simp [integer?]
  | string s => simp [integer?]
  | array elements => simp [integer?]
  | object entries => simp [integer?]

/-- Elements that all have a type are the values of that type. -/
theorem mapM_eq_some_iff {α : Type} {read : Json.Value → Option α} {write : α → Json.Value}
    (allowed : α → Prop) (reads : ∀ value a, read value = some a ↔ value = write a ∧ allowed a)
    {elements : List Json.Value} {values : List α} :
    elements.mapM read = some values ↔ elements = values.map write ∧ ∀ a ∈ values, allowed a := by
  induction elements generalizing values with
  | nil =>
    cases values with
    | nil => simp
    | cons a rest => simp
  | cons value rest ih =>
    simp only [List.mapM_cons, Option.bind_eq_bind, Option.bind_eq_some_iff, reads, ih]
    constructor
    · rintro ⟨a, ⟨rfl, first⟩, others, ⟨rfl, later⟩, same⟩
      cases same
      exact ⟨rfl, List.forall_mem_cons.mpr ⟨first, later⟩⟩
    · rintro ⟨same, all⟩
      obtain ⟨a, others, rfl, rfl, rfl⟩ := List.map_eq_cons_iff.mp same.symm
      obtain ⟨first, later⟩ := List.forall_mem_cons.mp all
      exact ⟨a, ⟨rfl, first⟩, others, ⟨rfl, later⟩, rfl⟩

theorem mapM_string?_iff {elements : List Json.Value} {names : List String} :
    elements.mapM string? = some names ↔ elements = names.map .string := by
  simpa using mapM_eq_some_iff (fun _ => True) (fun value s => by
    rw [string?_eq_some_iff, and_true])

theorem mapM_boolean?_iff {elements : List Json.Value} {values : List Bool} :
    elements.mapM boolean? = some values ↔ elements = values.map .boolean := by
  simpa using mapM_eq_some_iff (fun _ => True) (fun value b => by
    rw [boolean?_eq_some_iff, and_true])

theorem mapM_integer?_iff {elements : List Json.Value} {values : List Int} :
    elements.mapM integer? = some values ↔
      elements = values.map (fun n => .number (.integer n)) ∧ ∀ n ∈ values, n ≤ Json.maxSigned64 :=
  mapM_eq_some_iff (· ≤ (Json.maxSigned64 : Int)) fun _ _ => integer?_eq_some_iff

/-- The first of the three types that fits is the type of a list, and at most one fits a list that is
not empty. -/
theorem ofValue?_eq_some_iff {elements : List Json.Value} (some_element : elements ≠ [])
    {values : ValueList} :
    ofValue? (.array elements) = some values ↔
      match values with
      | strings names => elements = names.map .string
      | booleans values => elements = values.map .boolean
      | integers values =>
        elements = values.map (fun n => .number (.integer n)) ∧ ∀ n ∈ values, n ≤ Json.maxSigned64 := by
  have typed : ofValue? (.array elements) = some values ↔
      (∃ names, elements.mapM string? = some names ∧ strings names = values) ∨
      (elements.mapM string? = none ∧ ∃ bs, elements.mapM boolean? = some bs ∧ booleans bs = values) ∨
      (elements.mapM string? = none ∧ elements.mapM boolean? = none ∧
        ∃ ns, elements.mapM integer? = some ns ∧ integers ns = values) := by
    cases as_strings : elements.mapM string? with
    | some names => simp [ofValue?, as_strings]
    | none =>
      cases as_booleans : elements.mapM boolean? with
      | some bs => simp [ofValue?, as_strings, as_booleans]
      | none => simp [ofValue?, as_strings, as_booleans]
  obtain ⟨first, rest, rfl⟩ := List.exists_cons_of_ne_nil some_element
  rw [typed]
  cases values with
  | strings names =>
    simp only [reduceCtorEq, and_false, exists_false, or_false, strings.injEq, exists_eq_right,
      mapM_string?_iff]
  | booleans bs =>
    simp only [reduceCtorEq, and_false, exists_false, false_or, or_false, booleans.injEq,
      exists_eq_right, mapM_boolean?_iff, and_iff_right_iff_imp]
    intro same
    obtain ⟨b, others, rfl, rfl, rfl⟩ := List.map_eq_cons_iff.mp same.symm
    simp [string?]
  | integers ns =>
    simp only [reduceCtorEq, and_false, exists_false, false_or, integers.injEq, exists_eq_right,
      mapM_integer?_iff]
    constructor
    · rintro ⟨_, _, same⟩
      exact same
    · rintro ⟨same, bounded⟩
      obtain ⟨n, others, rfl, rfl, rfl⟩ := List.map_eq_cons_iff.mp same.symm
      exact ⟨by simp [string?], by simp [boolean?], rfl, bounded⟩

end ValueList

/-- An array lists a domain: one to 31 elements, which are all strings, or `true` and `false`, or the
integers that follow each other from 0 or from 1 on. -/
def ListsDomain (values : Json.Value) : Prop :=
  ∃ elements : List Json.Value, values = .array elements ∧ 1 ≤ elements.length ∧ elements.length ≤ 31 ∧
    ((∃ names : List String, elements = names.map .string) ∨
      elements = [.boolean true, .boolean false] ∨
      ∃ first : Nat, first ≤ 1 ∧ elements =
        (List.range elements.length).map fun k => .number (.integer ((first + k : Nat) : Int)))

/-- The number of strings in an array. -/
def nameCount : Json.Value → Nat
  | .array elements => (elements.filterMap ValueList.string?).length
  | _ => 0

/-- A list that has a type and values is written as an array with elements. -/
theorem array_of_ofValue? {values : Json.Value} {list : ValueList}
    (typed : ValueList.ofValue? values = some list) (some_value : list.length ≠ 0) :
    ∃ elements, values = .array elements ∧ elements ≠ [] := by
  cases values with
  | array elements =>
    refine ⟨elements, rfl, ?_⟩
    rintro rfl
    cases typed
    exact some_value rfl
  | null => cases typed
  | boolean b => cases typed
  | number n => cases typed
  | string s => cases typed
  | object entries => cases typed

/-- The values of a domain of integers as they are written. -/
theorem toValues_integers_written {first : Fin 2} {count : Nat} {values : List Int}
    (listed : (PropertyDomain.integers first count).toValues = .integers values) :
    values.map (fun n => Json.Value.number (.integer n)) =
      (List.range values.length).map fun k => .number (.integer ((first.val + k : Nat) : Int)) := by
  cases listed
  simp

/-- The type of a list and the shape of its domain together are what it takes to list a domain. -/
theorem listsDomain_iff (property : String) {values : Json.Value} :
    ListsDomain values ↔ ∃ list, ValueList.ofValue? values = some list ∧
      ∃ domain, PropertyDomain.ofValues property list = .ok domain := by
  simp only [PropertyDomain.ofValues_eq_ok_iff]
  constructor
  · rintro ⟨elements, rfl, some_element, bounded, listed⟩
    have nonempty : elements ≠ [] := List.length_pos_iff.mp some_element
    obtain ⟨names, rfl⟩ | rfl | ⟨first, small, run⟩ := listed
    · rw [List.length_map] at some_element bounded
      exact ⟨.strings names, (ValueList.ofValue?_eq_some_iff nonempty).mpr rfl, .named names,
        Nat.ne_of_gt some_element, bounded, rfl⟩
    · exact ⟨.booleans [true, false], rfl, .boolean, by decide, by decide, rfl⟩
    · let domain : PropertyDomain := .integers ⟨first, Nat.lt_succ_of_le small⟩ elements.length
      have length : domain.toValues.length = elements.length := PropertyDomain.length_toValues domain
      refine ⟨domain.toValues, (ValueList.ofValue?_eq_some_iff nonempty).mpr ⟨?_, ?_⟩, domain, ?_, ?_, rfl⟩
      · rw [List.map_map]
        exact run
      · intro n member
        obtain ⟨k, inside, rfl⟩ := List.mem_map.mp member
        have below := List.mem_range.mp inside
        simp only [Json.maxSigned64]
        omega
      · rw [length]
        exact Nat.ne_of_gt some_element
      · rw [length]
        exact bounded
  · rintro ⟨list, typed, domain, some_value, bounded, listed⟩
    obtain ⟨elements, rfl, nonempty⟩ := array_of_ofValue? typed some_value
    have written := (ValueList.ofValue?_eq_some_iff nonempty).mp typed
    refine ⟨elements, rfl, List.length_pos_iff.mpr nonempty, ?_⟩
    cases list with
    | strings names =>
      rw [written, List.length_map]
      exact ⟨bounded, .inl ⟨names, rfl⟩⟩
    | booleans bs =>
      rw [written, List.length_map]
      cases domain with
      | boolean =>
        cases listed
        exact ⟨bounded, .inr (.inl rfl)⟩
      | named names => cases listed
      | integers first count => cases listed
    | integers ns =>
      rw [written.1, List.length_map]
      cases domain with
      | integers first count =>
        exact ⟨bounded, .inr (.inr ⟨first, Nat.le_of_lt_succ first.isLt,
          toValues_integers_written listed⟩)⟩
      | named names => cases listed
      | boolean => cases listed

/-- The names of a domain are the strings that its list is written with. -/
theorem length_names_eq_nameCount {property : String} {values : Json.Value} {list : ValueList}
    {domain : PropertyDomain} (typed : ValueList.ofValue? values = some list)
    (accepted : PropertyDomain.ofValues property list = .ok domain) :
    domain.names.length = nameCount values := by
  obtain ⟨some_value, _, rfl⟩ := PropertyDomain.ofValues_eq_ok_iff.mp accepted
  obtain ⟨elements, rfl, nonempty⟩ := array_of_ofValue? typed some_value
  have written := (ValueList.ofValue?_eq_some_iff nonempty).mp typed
  cases domain with
  | named names =>
    simp only [PropertyDomain.toValues] at written
    have read : (names.map Json.Value.string).filterMap ValueList.string? = names := by
      rw [List.filterMap_map]
      exact List.filterMap_some
    rw [nameCount, written, read]
    rfl
  | boolean =>
    simp only [PropertyDomain.toValues] at written
    rw [written]
    rfl
  | integers first count =>
    simp only [PropertyDomain.toValues] at written
    have unread : elements.filterMap ValueList.string? = [] := by
      rw [written.1, List.map_map, List.filterMap_map, List.filterMap_eq_nil_iff]
      intro k _
      rfl
    rw [nameCount, unread]
    rfl

/-! ## Documents -/

theorem Document.mapM_eq_ok_iff {α β ε : Type} {f : String → α → Except ε β} {d : Document α}
    {d' : Document β} :
    d.mapM f = .ok d' ↔
      d.entries.mapM (fun entry => do return (entry.1, ← f entry.1 entry.2)) = .ok d'.entries := by
  unfold Document.mapM
  split
  · next e failed =>
    constructor
    · intro passed
      cases passed
    · intro passed
      cases failed.symm.trans passed
  · next l made =>
    constructor
    · intro same
      cases same
      exact made
    · intro passed
      obtain ⟨l', _⟩ := d'
      cases made.symm.trans passed
      rfl

/-- The first entry that fails is what a document fails for. -/
theorem Document.mapM_eq_error_iff {α β ε : Type} {f : String → α → Except ε β} {d : Document α} {e : ε} :
    d.mapM f = .error e ↔
      ∃ (i : Nat) (name : String) (a : α), d.entries[i]? = some (name, a) ∧ f name a = .error e ∧
        ∀ j < i, ∀ name' a', d.entries[j]? = some (name', a') → ∃ b, f name' a' = .ok b := by
  have stops : d.mapM f = .error e ↔
      d.entries.mapM (fun entry => do return (entry.1, ← f entry.1 entry.2)) = .error e := by
    unfold Document.mapM
    split
    · next e' failed => rw [failed, Except.error.injEq, Except.error.injEq]
    · next l made => exact ⟨nofun, fun failed => nomatch made.symm.trans failed⟩
  rw [stops, GameTables.mapM_eq_error_iff]
  simp only [return_eq_error_iff, exists_return_eq_ok_iff, Prod.exists, Prod.forall]

/-- Every entry of a document has its result under its name, at its own place. -/
theorem Document.result_of_mapM {α β ε : Type} {f : String → α → Except ε β} {d : Document α}
    {d' : Document β} (passed : d.mapM f = .ok d') {i : Nat} {name : String} {a : α}
    (at_i : d.entries[i]? = some (name, a)) :
    ∃ b, d'.entries[i]? = some (name, b) ∧ f name a = .ok b := by
  obtain ⟨entry, found, result⟩ := GameTables.result_of_mapM (mapM_eq_ok_iff.mp passed) at_i
  obtain ⟨b, made, same⟩ := bind_eq_ok_iff.mp result
  cases same
  exact ⟨b, found, made⟩

/-- Every result of a document comes from the entry at its place. -/
theorem Document.source_of_mapM {α β ε : Type} {f : String → α → Except ε β} {d : Document α}
    {d' : Document β} (passed : d.mapM f = .ok d') {i : Nat} {name : String} {b : β}
    (at_i : d'.entries[i]? = some (name, b)) :
    ∃ a, d.entries[i]? = some (name, a) ∧ f name a = .ok b := by
  obtain ⟨⟨name', a⟩, found, result⟩ := GameTables.source_of_mapM (mapM_eq_ok_iff.mp passed) at_i
  obtain ⟨b', made, same⟩ := bind_eq_ok_iff.mp result
  cases same
  exact ⟨a, found, made⟩

/-- All entries pass exactly if each of them does. -/
theorem Document.exists_mapM_eq_ok_iff {α β ε : Type} {f : String → α → Except ε β} {d : Document α} :
    (∃ d', d.mapM f = .ok d') ↔ ∀ entry ∈ d.entries, ∃ b, f entry.1 entry.2 = .ok b := by
  constructor
  · rintro ⟨d', passed⟩ entry member
    obtain ⟨_, result⟩ := GameTables.exists_mapM_eq_ok_iff.mp ⟨_, mapM_eq_ok_iff.mp passed⟩ entry member
    exact exists_return_eq_ok_iff.mp ⟨_, result⟩
  · intro all
    have each : ∀ entry ∈ d.entries,
        ∃ pair, (do return (entry.1, ← f entry.1 entry.2)) = Except.ok pair :=
      fun entry member => exists_return_eq_ok_iff.mpr (all entry member)
    obtain ⟨l, passed⟩ := GameTables.exists_mapM_eq_ok_iff.mpr each
    exact ⟨⟨l, by rw [names_of_mapM_eq_ok passed]; exact d.distinct⟩, mapM_eq_ok_iff.mpr passed⟩

theorem Registry.exists_ofDefinitions_iff {definitions : Document PropertyDefinition} :
    (∃ registry, Registry.ofDefinitions definitions = .ok registry) ↔
      definitions.size ≤ Registry.maxSize ∧ ∀ entry ∈ definitions.entries,
        ∃ domain, PropertyDomain.ofValues entry.1 entry.2.values = .ok domain := by
  constructor
  · rintro ⟨registry, checked⟩
    refine ⟨(ofDefinitions_eq_ok_iff.mp checked).1, fun entry member => ?_⟩
    obtain ⟨i, at_i⟩ := List.mem_iff_getElem?.mp member
    obtain ⟨property, _, enters⟩ := property_of_definition checked at_i
    exact ⟨property.domain, enters.accepted⟩
  · rintro ⟨fits, all⟩
    simp only [ofDefinitions, throw_or_eq_ok_iff, Nat.not_lt, fits, true_and, exists_return_eq_ok_iff,
      exists_mapM_eq_ok_iff]
    rintro ⟨⟨name, definition⟩, position⟩ member
    exact all _ (List.mem_of_getElem? (List.mem_zipIdx_iff_getElem?.mp member))

/-- The tables have room for the named values exactly if all together are not too many. -/
theorem PropertyTables.exists_ofRegistry_iff {registry : Registry} :
    (∃ tables, PropertyTables.ofRegistry registry = .ok tables) ↔
      (PropertyTables.nameCounts registry.properties).sum ≤ PropertyTables.maxValues := by
  have size : registry.size = (nameCounts registry.properties).length := by
    simp [nameCounts, Registry.size]
  rw [← beginOf_length, ← size, ← words_iff_beginOf_le (Nat.le_refl _)]
  simp only [ofRegistry, exists_return_eq_ok_iff, exists_mapM_eq_ok_iff, forall_mem_zip_offsets]
  constructor
  · intro all i _ property at_i
    exact all i property at_i
  · intro all i property at_i
    obtain ⟨inside, _⟩ := List.getElem?_eq_some_iff.mp at_i
    exact all i inside property at_i

/-- The rules for a document of properties. -/
structure PropertiesValid (document : Document UntypedProperty) : Prop where
  /-- A byte numbers all properties. -/
  size : document.size ≤ 256
  values : ∀ entry ∈ document.entries, ListsDomain entry.2.values
  /-- The named values of all properties together can be addressed by a byte. -/
  names : (document.entries.map fun entry => nameCount entry.2.values).sum ≤ 255

/-- A registry is the one that a document as it was read gives. -/
def Registers (document : Document UntypedProperty) (registry : Registry) : Prop :=
  ∃ definitions, document.mapM UntypedProperty.typed = .ok definitions ∧
    Registry.ofDefinitions definitions = .ok registry

theorem UntypedProperty.typed_eq_ok_iff {name : String} {property : UntypedProperty}
    {definition : PropertyDefinition} :
    property.typed name = .ok definition ↔
      ∃ values, ValueList.ofValue? property.values = some values ∧
        ⟨property.key, values⟩ = definition := by
  unfold typed
  cases ValueList.ofValue? property.values with
  | none => simp
  | some values => simp

theorem UntypedProperty.typed_eq_error_iff {name : String} {property : UntypedProperty}
    {e : TableError} :
    property.typed name = .error e ↔
      ValueList.ofValue? property.values = none ∧ e = .valueTypes name := by
  unfold typed
  cases ValueList.ofValue? property.values with
  | none => simp [eq_comm]
  | some values => simp

variable {document : Document UntypedProperty} {registry : Registry}

/-- A checked document has a property for each entry, with the domain that its values list. -/
theorem Registers.property_of_entry (registers : Registers document registry)
    {i : Nat} {name : String} {untyped : UntypedProperty}
    (at_i : document.entries[i]? = some (name, untyped)) :
    ∃ property, registry.properties[i]? = some property ∧ property.name = name ∧
      ListsDomain untyped.values ∧ property.domain.names.length = nameCount untyped.values := by
  obtain ⟨definitions, typed, checked⟩ := registers
  obtain ⟨definition, defined, has_type⟩ := Document.result_of_mapM typed at_i
  obtain ⟨property, found, enters⟩ := Registry.property_of_definition checked defined
  obtain ⟨_, values, rfl⟩ := UntypedProperty.typed_eq_ok_iff.mp has_type
  exact ⟨property, found, enters.sameName, (listsDomain_iff name).mpr ⟨_, values, _, enters.accepted⟩,
    length_names_eq_nameCount values enters.accepted⟩

theorem Registers.size_eq (registers : Registers document registry) :
    registry.properties.length = document.entries.length := by
  obtain ⟨definitions, typed, checked⟩ := registers
  have counted : registry.properties.length = definitions.entries.length :=
    Registry.size_of_ofDefinitions checked
  rw [counted, length_of_mapM (Document.mapM_eq_ok_iff.mp typed)]

theorem Registers.nameCounts_eq (registers : Registers document registry) :
    PropertyTables.nameCounts registry.properties =
      document.entries.map fun entry => nameCount entry.2.values := by
  refine (map_eq_map_of_getElem? registers.size_eq.symm fun i entry at_i => ?_).symm
  obtain ⟨property, found, _, _, counted⟩ := registers.property_of_entry at_i
  exact ⟨property, found, counted.symm⟩

/-- The registry knows the names of the document. -/
theorem Registers.find?_iff (registers : Registers document registry)
    {name : String} :
    (∃ property, registry.find? name = some property) ↔ name ∈ document.entries.map Prod.fst := by
  constructor
  · rintro ⟨property, found⟩
    obtain ⟨member, rfl⟩ := Registry.mem_of_find? found
    obtain ⟨i, at_i⟩ := List.mem_iff_getElem?.mp member
    obtain ⟨inside, _⟩ := List.getElem?_eq_some_iff.mp at_i
    rw [registers.size_eq] at inside
    obtain ⟨property', found', same, _⟩ :=
      registers.property_of_entry (List.getElem?_eq_getElem inside)
    cases at_i.symm.trans found'
    rw [same]
    exact List.mem_map_of_mem (List.getElem_mem inside)
  · intro member
    obtain ⟨⟨_, untyped⟩, defined, rfl⟩ := List.mem_map.mp member
    obtain ⟨i, at_i⟩ := List.mem_iff_getElem?.mp defined
    obtain ⟨property, found, same, _⟩ := registers.property_of_entry at_i
    have registered : property ∈ registry.properties := List.mem_of_getElem? found
    rw [Registry.find?, ← Option.isSome_iff_exists, List.find?_isSome]
    exact ⟨property, registered, by simpa using same⟩

/-- There is a registry exactly if the properties are not too many and each lists a domain. -/
theorem exists_registers_iff :
    (∃ registry, Registers document registry) ↔
      document.size ≤ Registry.maxSize ∧ ∀ entry ∈ document.entries, ListsDomain entry.2.values := by
  constructor
  · rintro ⟨registry, registers⟩
    refine ⟨?_, fun entry member => ?_⟩
    · obtain ⟨definitions, typed, checked⟩ := registers
      have fits := (Registry.exists_ofDefinitions_iff.mp ⟨registry, checked⟩).1
      rwa [Document.size, length_of_mapM (Document.mapM_eq_ok_iff.mp typed)] at fits
    · obtain ⟨i, at_i⟩ := List.mem_iff_getElem?.mp member
      obtain ⟨_, _, _, lists, _⟩ := registers.property_of_entry at_i
      exact lists
  · rintro ⟨fits, lists⟩
    have has_type : ∀ entry ∈ document.entries,
        ∃ definition, entry.2.typed entry.1 = .ok definition := by
      intro entry member
      obtain ⟨values, has_type, _⟩ := (listsDomain_iff entry.1).mp (lists entry member)
      exact ⟨_, UntypedProperty.typed_eq_ok_iff.mpr ⟨values, has_type, rfl⟩⟩
    obtain ⟨definitions, typed⟩ := Document.exists_mapM_eq_ok_iff.mpr has_type
    have all : ∀ entry ∈ definitions.entries,
        ∃ domain, PropertyDomain.ofValues entry.1 entry.2.values = .ok domain := by
      rintro ⟨name, definition⟩ member
      obtain ⟨i, at_i⟩ := List.mem_iff_getElem?.mp member
      obtain ⟨untyped, defined, result⟩ := Document.source_of_mapM typed at_i
      obtain ⟨values, has_type, rfl⟩ := UntypedProperty.typed_eq_ok_iff.mp result
      obtain ⟨values', has_type', accepted⟩ :=
        (listsDomain_iff name).mp (lists _ (List.mem_of_getElem? defined))
      cases has_type.symm.trans has_type'
      exact accepted
    rw [Document.size, ← length_of_mapM (Document.mapM_eq_ok_iff.mp typed)] at fits
    obtain ⟨registry, checked⟩ := Registry.exists_ofDefinitions_iff.mpr ⟨fits, all⟩
    exact ⟨registry, definitions, typed, checked⟩

/-- The checks of properties pass exactly if the document keeps the rules. -/
theorem propertiesValid_iff :
    PropertiesValid document ↔ ∃ registry, Registers document registry ∧
      ∃ tables, PropertyTables.ofRegistry registry = .ok tables := by
  simp only [PropertyTables.exists_ofRegistry_iff]
  constructor
  · rintro ⟨size, values, names⟩
    obtain ⟨registry, registers⟩ := exists_registers_iff.mpr ⟨size, values⟩
    exact ⟨registry, registers, by rw [registers.nameCounts_eq]; exact names⟩
  · rintro ⟨registry, registers, names⟩
    obtain ⟨size, values⟩ := exists_registers_iff.mp ⟨registry, registers⟩
    rw [registers.nameCounts_eq] at names
    exact ⟨size, values, names⟩

end GameTables
