import Mathlib.Data.List.Nodup
import GameTables.Proofs.FirstFault
import GameTables.Proofs.Property.Acceptance

/-!
# What is wrong with properties

Properties are counted, and then the values of each are checked in order. A registry has all properties
of the document, each under its name and under its id. It has tables if a byte addresses the named values
of all properties together; else the first property is named whose values go beyond that.
-/

namespace GameTables

/-! ## Lists of values -/

namespace ValueList

/-- How many names a list holds. -/
def nameCount : ValueList → Nat
  | strings values => values.length
  | booleans _ => 0
  | integers _ => 0

end ValueList

namespace PropertyDomain

variable {property : String} {values : ValueList}

/-- Integers that follow each other from the given one on. -/
def Run (first : Nat) (values : List Int) : Prop :=
  values = (List.range values.length).map fun k => ((first + k : Nat) : Int)

instance (first : Nat) (values : List Int) : Decidable (Run first values) :=
  inferInstanceAs (Decidable (_ = _))

/-- Truth values have to be `true` and `false` in this order, and integers follow each other from 0 or
from 1 on. -/
def elementFaults (property : String) : ValueList → List TableError
  | .strings _ => []
  | .booleans values => if values = [true, false] then [] else [.booleanValues property]
  | .integers values => if Run 0 values ∨ Run 1 values then [] else [.integerRange property]

/-- All that is wrong with a list of values, in the order of the rules. -/
def faults (property : String) (values : ValueList) : List TableError :=
  (if values.length = 0 then [.emptyValues property] else []) ++
  (if 31 < values.length then [.tooManyValues property values.length] else []) ++
  elementFaults property values

/-- The domain that a list without a fault lists. -/
def listed : ValueList → PropertyDomain
  | .strings values => named values
  | .booleans _ => boolean
  | .integers values =>
    integers (if Run 0 values then ⟨0, Nat.zero_lt_two⟩ else ⟨1, Nat.one_lt_two⟩) values.length

/-- A list of values is refused because of the first thing that is wrong with it. -/
theorem ofValues_eq_firstFault :
    ofValues property values = firstFault (faults property values) (listed values) := by
  unfold ofValues faults maxSize
  by_cases empty : values.length = 0
  · rw [if_pos empty, if_pos empty]
    rfl
  by_cases long : 31 < values.length
  · rw [if_neg empty, if_pos long, if_neg empty, if_pos long]
    rfl
  rw [if_neg empty, if_neg long, if_neg empty, if_neg long]
  cases values with
  | strings names => rfl
  | booleans bs =>
    by_cases both : bs = [true, false]
    · simp [both, elementFaults, listed, firstFault]
    · simp [both, elementFaults, firstFault]
  | integers ns =>
    have from_zero : runsFrom 0 ns = true ↔ Run 0 ns := runsFrom_iff
    have from_one : runsFrom 1 ns = true ↔ Run 1 ns := runsFrom_iff
    simp only [from_zero, from_one]
    by_cases zero : Run 0 ns
    · simp [zero, elementFaults, listed, firstFault]
    by_cases one : Run 1 ns
    · simp [zero, one, elementFaults, listed, firstFault]
    · simp [zero, one, elementFaults, firstFault]

theorem length_names_toValues (domain : PropertyDomain) :
    domain.names.length = domain.toValues.nameCount := by
  cases domain <;> rfl

end PropertyDomain

namespace Registry

variable {definitions : Document PropertyDefinition} {registry : Registry}

/-! ## Documents -/

/-- All that is wrong with the definition at a position of a document. -/
def faultsAt (definitions : Document PropertyDefinition) : Nat → List TableError :=
  GameTables.faultsAt (fun _ entry => PropertyDomain.faults entry.1 entry.2.values) definitions.entries

/-- Documents whose properties a byte numbers are refused because of the first thing that is wrong with
the first property whose values break a rule. -/
theorem ofDefinitions_eq_error_iff (numbered : definitions.size ≤ maxSize) {e : TableError} :
    ofDefinitions definitions = .error e ↔
      ∃ i, (faultsAt definitions i).head? = some e ∧ ∀ j < i, faultsAt definitions j = [] := by
  have at_place (i : Nat) :
      definitions.entries.zipIdx[i]? = definitions.entries[i]?.map fun entry => (entry, i) := by
    rw [List.getElem?_zipIdx, Nat.zero_add]
  rw [ofDefinitions, if_neg (Nat.not_lt.mpr numbered)]
  simp only [PropertyDomain.ofValues_eq_firstFault]
  refine return_eq_error_iff.trans ?_
  exact mapM_eq_error_iff_faultsAt at_place fun _ _ => firstFault_bind_return

/-! ## Lookups -/

/-- A registry has the properties of a document in order, each with its position as its id. The lookups by
name and by id go back and forth between the two. -/
structure Indexes (definitions : Document PropertyDefinition) (registry : Registry) : Prop where
  size : registry.size = definitions.size
  properties : ∀ (i : Nat) (name : String) (definition : PropertyDefinition),
    definitions.entries[i]? = some (name, definition) →
      ∃ property, registry.properties[i]? = some property ∧ property.id.toNat = i ∧
        property.name = name ∧ property.key = definition.key ∧
        property.domain.toValues = definition.values
  lookups : ∀ (name : String) (property : Property), registry.find? name = some property ↔
    registry.findId? property.id = some property ∧ property.name = name
  outside : ∀ id : UInt8, definitions.size ≤ id.toNat → registry.findId? id = none

/-- A registered property is the one found under its name. -/
theorem find?_name_of_mem (checked : ofDefinitions definitions = .ok registry) {property : Property}
    (member : property ∈ registry.properties) : registry.find? property.name = some property := by
  have distinct : (registry.properties.map (·.name)).Nodup :=
    names_of_ofDefinitions checked ▸ definitions.distinct
  obtain ⟨found, at_name⟩ : ∃ found, registry.find? property.name = some found := by
    rw [find?, ← Option.isSome_iff_exists, List.find?_isSome]
    exact ⟨property, member, beq_self_eq_true _⟩
  obtain ⟨registered, same⟩ := mem_of_find? at_name
  rw [at_name, List.inj_on_of_nodup_map distinct registered member same]

theorem indexes_of_ofDefinitions (checked : ofDefinitions definitions = .ok registry) :
    Indexes definitions registry := by
  have size := size_of_ofDefinitions checked
  refine ⟨size, fun i name definition at_i => ?_, fun name property => ?_, fun id outside => ?_⟩
  · obtain ⟨property, found, enters⟩ := property_of_definition checked at_i
    obtain ⟨_, _, lists⟩ := PropertyDomain.ofValues_eq_ok_iff.mp enters.accepted
    exact ⟨property, found, enters.sameId, enters.sameName, enters.sameKey, lists⟩
  · constructor
    · intro found
      obtain ⟨member, same⟩ := mem_of_find? found
      exact ⟨findId?_of_mem checked member, same⟩
    · rintro ⟨at_id, rfl⟩
      exact find?_name_of_mem checked (List.mem_of_getElem? at_id)
  · rw [← size] at outside
    exact List.getElem?_eq_none outside

end Registry

/-! ## Tables -/

namespace PropertyTables

variable {definitions : Document PropertyDefinition} {registry : Registry}

/-- How many names each definition lists. -/
def listedCounts (definitions : Document PropertyDefinition) : List Nat :=
  definitions.entries.map (·.2.values.nameCount)

theorem nameCounts_eq_listedCounts (checked : Registry.ofDefinitions definitions = .ok registry) :
    nameCounts registry.properties = listedCounts definitions := by
  refine Registry.map_properties_eq checked fun enters => ?_
  obtain ⟨_, _, lists⟩ := PropertyDomain.ofValues_eq_ok_iff.mp enters.accepted
  rw [PropertyDomain.length_names_toValues, lists]

/-- The named values of the properties before a position are not too many, and with those of the property
there they are. -/
def GoesBeyond (definitions : Document PropertyDefinition) (name : String) (total : Nat) : Prop :=
  ∃ (i : Nat) (definition : PropertyDefinition), definitions.entries[i]? = some (name, definition) ∧
    beginOf (listedCounts definitions) i ≤ 255 ∧
    total = beginOf (listedCounts definitions) (i + 1) ∧ 255 < total

/-- A registry has tables if the named values of all properties are not too many, and else it is refused
because of the first property that goes beyond. -/
structure Bounds (definitions : Document PropertyDefinition) (registry : Registry) : Prop where
  fits : (∃ tables, ofRegistry registry = .ok tables) ↔ (listedCounts definitions).sum ≤ 255
  refuses : ∀ e, ofRegistry registry = .error e ↔
    ∃ name total, GoesBeyond definitions name total ∧ e = .tooManyEnumValues name total

theorem bounds_of_ofDefinitions (checked : Registry.ofDefinitions definitions = .ok registry) :
    Bounds definitions registry := by
  have counts := nameCounts_eq_listedCounts checked
  refine ⟨counts ▸ exists_ofRegistry_iff, fun e => ofRegistry_eq_error_iff.trans ?_⟩
  rw [counts]
  constructor
  · rintro ⟨i, property, at_i, before, beyond, rfl⟩
    obtain ⟨name, definition, defined, enters⟩ := Registry.definition_of_property checked at_i
    exact ⟨name, _, ⟨i, definition, defined, before, rfl, beyond⟩, by rw [enters.sameName]⟩
  · rintro ⟨name, _, ⟨i, definition, defined, before, rfl, beyond⟩, rfl⟩
    obtain ⟨property, at_i, enters⟩ := Registry.property_of_definition checked defined
    exact ⟨i, property, at_i, before, beyond, by rw [enters.sameName]⟩

end PropertyTables

/-! ## The rules together -/

/-- A document of properties is refused because of the number of its properties, or else because of the
first thing that is wrong with the first property whose values break a rule. If none does, there is a
registry with all properties, and the number of the named values decides whether it has tables. -/
theorem Registry.ofDefinitions_refuses_first (definitions : Document PropertyDefinition) :
    (256 < definitions.size →
      ofDefinitions definitions = .error (.tooManyProperties definitions.size)) ∧
    (definitions.size ≤ 256 →
      (∀ e, ofDefinitions definitions = .error e ↔
        ∃ i, (faultsAt definitions i).head? = some e ∧ ∀ j < i, faultsAt definitions j = []) ∧
      ((∀ i, faultsAt definitions i = []) →
        ∃ registry, ofDefinitions definitions = .ok registry ∧ Indexes definitions registry ∧
          PropertyTables.Bounds definitions registry)) := by
  refine ⟨fun outside => ?_, fun numbered => ⟨fun _ => ofDefinitions_eq_error_iff numbered, ?_⟩⟩
  · rw [ofDefinitions, maxSize, if_pos outside]
    rfl
  · intro faultless
    obtain ⟨registry, checked⟩ :=
      exists_ok_of_faultless (fun _ => ofDefinitions_eq_error_iff numbered) faultless
    exact ⟨registry, checked, indexes_of_ofDefinitions checked,
      PropertyTables.bounds_of_ofDefinitions checked⟩

/-- A document whose second property lists the truth values in the other order, and whose third one lists
nothing. -/
def Registry.misordered : Document PropertyDefinition :=
  ⟨[("age", ⟨"age", .integers [0, 1]⟩), ("lit", ⟨"lit", .booleans [false, true]⟩),
    ("half", ⟨"half", .strings []⟩)], by decide⟩

theorem Registry.ofDefinitions_refuses_first_sample :
    ofDefinitions misordered = .error (.booleanValues "lit") ∧
    ∃ registry, ofDefinitions PropertyTables.sample = .ok registry ∧
      Indexes PropertyTables.sample registry ∧ PropertyTables.Bounds PropertyTables.sample registry := by
  constructor
  · obtain ⟨_, reports⟩ := ofDefinitions_refuses_first misordered
    refine ((reports (by decide)).1 _).mpr ⟨1, rfl, fun j earlier => ?_⟩
    obtain rfl := Nat.lt_one_iff.mp earlier
    rfl
  · obtain ⟨_, reports⟩ := ofDefinitions_refuses_first PropertyTables.sample
    refine (reports (by decide)).2 fun i => ?_
    match i with
    | 0 => rfl
    | 1 => rfl
    | 2 => rfl
    | 3 => rfl
    | 4 => rfl
    | _ + 5 => rfl

end GameTables
