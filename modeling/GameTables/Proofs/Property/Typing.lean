import GameTables.Proofs.Document
import GameTables.Proofs.Json.Gives
import GameTables.Proofs.Property.Acceptance
import GameTables.Proofs.Property.Faults

/-!
# Types of the lists in a document of properties

What a text is read as, told of its entries as they are written. The entries are taken in the order in
which their names are written first, each with what is written for its name last, and the first of them
whose values have no type is what the text is refused for.
-/

namespace GameTables

/-! ## Lists of values -/

namespace Json.Value

/-- A JSON value is an array that lists values of one type. An empty array lists strings. -/
inductive Lists : Value → ValueList → Prop where
  | strings (values : List String) : Lists (.array (values.map .string)) (.strings values)
  | booleans {values : List Bool} (some_value : values ≠ []) :
    Lists (.array (values.map .boolean)) (.booleans values)
  /-- The integers fit 64 bits with a sign. -/
  | integers {values : List Int} (some_value : values ≠ [])
      (bounded : ∀ n ∈ values, -(maxSigned64 + 1 : Int) ≤ n ∧ n ≤ maxSigned64) :
    Lists (.array (values.map fun n => .number (.integer n))) (.integers values)

/-- The integers of an array that was read are bounded below. -/
theorem le_of_fits {ns : List Int}
    (fits : (array (ns.map fun n => .number (.integer n))).Fits) :
    ∀ n ∈ ns, -(maxSigned64 + 1 : Int) ≤ n := by
  intro n member
  cases fits with
  | array fits =>
    cases fits _ (List.mem_map_of_mem member) with
    | number fits => exact fits.1

/-- A value that was read lists values exactly if it is found to have their type. -/
theorem lists_iff {value : Value} (fits : value.Fits) {values : ValueList} :
    value.Lists values ↔ ValueList.ofValue? value = some values := by
  constructor
  · rintro (strings | some_value | ⟨some_value, bounded⟩)
    · cases strings with
      | nil => rfl
      | cons first rest => exact (ValueList.ofValue?_eq_some_iff (by simp)).mpr rfl
    · exact (ValueList.ofValue?_eq_some_iff (by simpa using some_value)).mpr rfl
    · refine (ValueList.ofValue?_eq_some_iff (by simpa using some_value)).mpr ⟨rfl, fun n member => ?_⟩
      exact (bounded n member).2
  · intro typed
    cases value with
    | array elements =>
      by_cases empty : elements = []
      · subst empty
        cases typed
        exact .strings []
      · have written := (ValueList.ofValue?_eq_some_iff empty).mp typed
        cases values with
        | strings names =>
          subst written
          exact .strings names
        | booleans bs =>
          subst written
          exact .booleans (by simpa using empty)
        | integers ns =>
          obtain ⟨rfl, bounded⟩ := written
          exact .integers (by simpa using empty) fun n member =>
            ⟨le_of_fits fits n member, bounded n member⟩
    | null => cases typed
    | boolean b => cases typed
    | number n => cases typed
    | string s => cases typed
    | object entries => cases typed

end Json.Value

/-! ## Entries -/

namespace PropertyDefinition

open UntypedProperty (readEntries)
open Document (lastWritten? ofEntries)
open Json.Value (lists_iff)

variable {text : String} {written : List (String × UntypedProperty)}

/-- The values that are read for a property fit, whatever else the text has. -/
theorem fits_of_readEntries (parsed : readEntries text = .ok written) :
    ∀ entry ∈ written, entry.2.values.Fits := by
  have shape (room : Nat) : Json.Gives (UntypedProperty.shape.decoder room) (·.values.Fits) := by
    refine Json.Gives.decoder (fun field member => ?_) .null room
    simp only [UntypedProperty.shape, List.mem_cons, List.not_mem_nil, or_false] at member
    obtain rfl | rfl := member
    · have anything (room : Nat) : Json.Gives (Json.string room) fun _ => True := fun _ _ _ _ => trivial
      exact Json.Gives.must anything fun _ _ fits _ => fits
    · exact Json.Gives.must Json.Gives.value fun _ _ _ fits => fits
  exact Json.Gives.run (Json.Gives.entries shape) parsed

/-- What is written last for a name has no type. -/
def LeftUntyped (written : List (String × UntypedProperty)) (name : String) : Prop :=
  ∃ property, lastWritten? written name = some property ∧ ∀ values, ¬ property.values.Lists values

/-- Of the names in the order in which they are written first, this is the first that is left without a
type. -/
def FirstUntyped (written : List (String × UntypedProperty)) (name : String) : Prop :=
  ∃ i : Nat, (written.map Prod.fst).eraseDups[i]? = some name ∧ LeftUntyped written name ∧
    ∀ (j : Nat) (earlier : String), j < i → (written.map Prod.fst).eraseDups[j]? = some earlier →
      ¬ LeftUntyped written earlier

/-- Definitions are what is written. -/
structure TypesOf (written : List (String × UntypedProperty))
    (definitions : Document PropertyDefinition) : Prop where
  /-- The names are in the order in which they are written first. -/
  names : definitions.entries.map Prod.fst = (written.map Prod.fst).eraseDups
  /-- The key and the values are those that are written last. -/
  last : ∀ name definition, (name, definition) ∈ definitions.entries →
    ∃ property, lastWritten? written name = some property ∧ definition.key = property.key ∧
      property.values.Lists definition.values

theorem readDocument_of_readEntries (parsed : readEntries text = .ok written) :
    readDocument text = (ofEntries written).mapM UntypedProperty.typed := by
  rw [readDocument, parsed]

section

variable (parsed : readEntries text = .ok written)

include parsed

theorem fits_of_lastWritten? {name : String} {property : UntypedProperty}
    (last : lastWritten? written name = some property) : property.values.Fits := by
  obtain ⟨_, at_j, _⟩ := Document.exists_of_lastWritten? last
  exact fits_of_readEntries parsed _ (List.mem_of_getElem? at_j)

theorem leftUntyped_iff {name : String} {property : UntypedProperty}
    (last : lastWritten? written name = some property) :
    LeftUntyped written name ↔ ValueList.ofValue? property.values = none := by
  have fits := fits_of_lastWritten? parsed last
  simp only [LeftUntyped, last, Option.some.injEq, exists_eq_left', lists_iff fits,
    Option.eq_none_iff_forall_ne_some, ne_eq]

/-- An entry of the document passes exactly if its name is not left without a type. -/
theorem exists_typed_iff {name : String} {property : UntypedProperty}
    (last : lastWritten? written name = some property) :
    (∃ definition, property.typed name = .ok definition) ↔ ¬ LeftUntyped written name := by
  rw [leftUntyped_iff parsed last, ← ne_eq, Option.ne_none_iff_exists']
  simp only [UntypedProperty.typed_eq_ok_iff]
  constructor
  · rintro ⟨_, values, typed, _⟩
    exact ⟨values, typed⟩
  · rintro ⟨values, typed⟩
    exact ⟨_, values, typed, rfl⟩

theorem readDocument_eq_ok_iff {definitions : Document PropertyDefinition} :
    readDocument text = .ok definitions ↔ TypesOf written definitions := by
  rw [readDocument_of_readEntries parsed]
  constructor
  · intro typed
    refine ⟨?_, fun name definition member => ?_⟩
    · rw [Document.names_of_mapM_eq_ok (Document.mapM_eq_ok_iff.mp typed), Document.names_ofEntries]
    · obtain ⟨i, at_i⟩ := List.mem_iff_getElem?.mp member
      obtain ⟨property, here, result⟩ := Document.source_of_mapM typed at_i
      obtain ⟨_, last⟩ := Document.getElem?_entries_ofEntries_iff.mp here
      obtain ⟨values, has_type, rfl⟩ := UntypedProperty.typed_eq_ok_iff.mp result
      exact ⟨property, last, rfl, (lists_iff (fits_of_lastWritten? parsed last)).mpr has_type⟩
  · rintro ⟨names, values⟩
    rw [← Document.names_ofEntries] at names
    refine Document.mapM_eq_ok_iff.mpr (mapM_eq_ok_iff.mpr ?_)
    have length : (ofEntries written).entries.length = definitions.entries.length := by
      simpa using congrArg List.length names.symm
    refine map_eq_map_of_getElem? length fun i entry at_i => ?_
    obtain ⟨name, property⟩ := entry
    have named : (definitions.entries.map Prod.fst)[i]? = some name := by
      rw [names, List.getElem?_map, at_i, Option.map_some]
    rw [List.getElem?_map, Option.map_eq_some_iff] at named
    obtain ⟨⟨name', definition⟩, defined, same⟩ := named
    cases same
    obtain ⟨property', last, key, lists⟩ := values _ _ (List.mem_of_getElem? defined)
    cases (Document.getElem?_entries_ofEntries_iff.mp at_i).2.symm.trans last
    have has_type := (lists_iff (fits_of_lastWritten? parsed last)).mp lists
    have passed : property.typed name' = .ok definition :=
      UntypedProperty.typed_eq_ok_iff.mpr ⟨_, has_type, by rw [← key]⟩
    exact ⟨_, defined, by rw [passed]; rfl⟩

theorem readDocument_eq_error_iff {e : TableError} :
    readDocument text = .error e ↔ ∃ name, FirstUntyped written name ∧ e = .valueTypes name := by
  rw [readDocument_of_readEntries parsed, Document.mapM_eq_error_iff]
  simp only [Document.getElem?_entries_ofEntries_iff, UntypedProperty.typed_eq_error_iff]
  constructor
  · rintro ⟨i, name, property, ⟨at_i, last⟩, ⟨none, rfl⟩, before⟩
    refine ⟨name, ⟨i, at_i, (leftUntyped_iff parsed last).mpr none, ?_⟩, rfl⟩
    rintro j earlier less at_j ⟨property', last', lists⟩
    have passed := before j less earlier property' ⟨at_j, last'⟩
    exact (exists_typed_iff parsed last').mp passed ⟨property', last', lists⟩
  · rintro ⟨name, ⟨i, at_i, ⟨property, last, lists⟩, before⟩, rfl⟩
    refine ⟨i, name, property, ⟨at_i, last⟩, ⟨?_, rfl⟩, ?_⟩
    · exact (leftUntyped_iff parsed last).mp ⟨property, last, lists⟩
    · rintro j less earlier property' ⟨at_j, last'⟩
      exact (exists_typed_iff parsed last').mpr (before j earlier less at_j)

theorem exists_readDocument (all : ∀ name, ¬ LeftUntyped written name) :
    ∃ definitions, readDocument text = .ok definitions := by
  rw [readDocument_of_readEntries parsed]
  refine Document.exists_mapM_eq_ok_iff.mpr fun entry member => ?_
  exact (exists_typed_iff parsed (Document.mem_entries_ofEntries_iff.mp member)).mpr (all _)

/-- An entry that is written again later has no say in what the text is read as. -/
theorem readDocument_overwritten {before behind : List (String × UntypedProperty)} {name : String}
    {overwritten other : UntypedProperty} (same : written = before ++ (name, overwritten) :: behind)
    (again : name ∈ behind.map Prod.fst) {text' : String}
    (parsed' : readEntries text' = .ok (before ++ (name, other) :: behind)) :
    readDocument text' = readDocument text := by
  rw [readDocument_of_readEntries parsed, readDocument_of_readEntries parsed', same,
    Document.ofEntries_overwritten again overwritten other]

/-- The id of a property is the place of its name among the names in the order in which they are written
first. -/
theorem id_of_readDocument {definitions : Document PropertyDefinition} {registry : Registry}
    (read : readDocument text = .ok definitions)
    (checked : Registry.ofDefinitions definitions = .ok registry) (name : String) (i : Nat) :
    (∃ property, registry.find? name = some property ∧ property.id.toNat = i) ↔
      (written.map Prod.fst).eraseDups[i]? = some name := by
  have names : registry.properties.map (·.name) = (written.map Prod.fst).eraseDups := by
    rw [← ((readDocument_eq_ok_iff parsed).mp read).names]
    exact Registry.names_of_ofDefinitions checked
  rw [← names, List.getElem?_map, Option.map_eq_some_iff]
  constructor
  · rintro ⟨property, found, rfl⟩
    obtain ⟨member, named⟩ := Registry.mem_of_find? found
    exact ⟨property, Registry.findId?_of_mem checked member, named⟩
  · rintro ⟨property, at_i, rfl⟩
    obtain ⟨_, _, _, enters⟩ := Registry.definition_of_property checked at_i
    exact ⟨property, Registry.find?_name_of_mem checked (List.mem_of_getElem? at_i), enters.sameId⟩

end

/-- A text of properties is read as its entries, those with one name put together: at the place of the
first, with the key and the values of the last. It is refused exactly if the values of one of them have no
type, for the first such name; what an entry says that is written again later does not matter. The ids of
the properties are the places of their names. -/
theorem readDocument_types (parsed : readEntries text = .ok written) :
    (∀ definitions, readDocument text = .ok definitions ↔ TypesOf written definitions) ∧
    ((∀ name, ¬ LeftUntyped written name) → ∃ definitions, readDocument text = .ok definitions) ∧
    (∀ e, readDocument text = .error e ↔ ∃ name, FirstUntyped written name ∧ e = .valueTypes name) ∧
    (∀ before name overwritten behind, written = before ++ (name, overwritten) :: behind →
      name ∈ behind.map Prod.fst →
        ∀ other text', readEntries text' = .ok (before ++ (name, other) :: behind) →
          readDocument text' = readDocument text) ∧
    (∀ definitions registry, readDocument text = .ok definitions →
      Registry.ofDefinitions definitions = .ok registry →
        ∀ name i, (∃ property, registry.find? name = some property ∧ property.id.toNat = i) ↔
          (written.map Prod.fst).eraseDups[i]? = some name) :=
  ⟨fun _ => readDocument_eq_ok_iff parsed, exists_readDocument parsed,
    fun _ => readDocument_eq_error_iff parsed,
    fun _ _ _ _ same again _ _ parsed' => readDocument_overwritten parsed same again parsed',
    fun _ _ read checked => id_of_readDocument parsed read checked⟩

/-- A text that writes a property twice, first with a list of mixed values. -/
def overwrittenProperty : String :=
  "\x7b\"lit\": \x7b\"key\": \"lit\", \"values\": [true, 1]\x7d, " ++
  "\"age\": [\"age\", [0, 1, 2]], \"lit\": [\"on\", [true, false]]\x7d"

def overwrittenEntries : List (String × UntypedProperty) :=
  [("lit", ⟨"lit", .array [.boolean true, .number (.integer 1)]⟩),
    ("age", ⟨"age", .array [.number (.integer 0), .number (.integer 1), .number (.integer 2)]⟩),
    ("lit", ⟨"on", .array [.boolean true, .boolean false]⟩)]

def overwrittenDocument : Document PropertyDefinition :=
  ⟨[("lit", ⟨"on", .booleans [true, false]⟩), ("age", ⟨"age", .integers [0, 1, 2]⟩)], by decide⟩

theorem readDocument_types_sample :
    readEntries overwrittenProperty = .ok overwrittenEntries ∧
      readDocument overwrittenProperty = .ok overwrittenDocument ∧
      TypesOf overwrittenEntries overwrittenDocument := by
  have parsed : readEntries overwrittenProperty = .ok overwrittenEntries := rfl
  have read : readDocument overwrittenProperty = .ok overwrittenDocument :=
    eq_ok_of_toOption (by decide +kernel)
  obtain ⟨types, _⟩ := readDocument_types parsed
  exact ⟨parsed, read, (types _).mp read⟩

end PropertyDefinition

end GameTables
