import GameTables.Proofs.Traversal
import GameTables.Property.Registry

/-!
# The registry against the document

A domain lists its values the way the document does, and a list of values is accepted exactly if some
domain lists it. The registry holds one property for each definition, in order.
-/

namespace GameTables

namespace PropertyDomain

/-- The values of a domain as a document lists them. -/
def toValues : PropertyDomain → ValueList
  | named values => .strings values
  | boolean => .booleans [true, false]
  | integers first count => .integers ((List.range count).map fun k => ((first.val + k : Nat) : Int))

theorem length_toValues (domain : PropertyDomain) : domain.toValues.length = domain.size := by
  cases domain with
  | named values => rfl
  | boolean => rfl
  | integers first count => simp [toValues, ValueList.length, size]

theorem length_names {domain : PropertyDomain} (named : domain.kind = .named) :
    domain.names.length = domain.size := by
  cases domain with
  | named values => rfl
  | boolean => cases named
  | integers first count =>
    by_cases zero : first = 0 <;> simp [kind, zero] at named

theorem names_eq_nil {domain : PropertyDomain} (other : domain.kind ≠ .named) : domain.names = [] := by
  cases domain with
  | named values => exact absurd rfl other
  | boolean => rfl
  | integers first count => rfl

theorem runsFrom_iff {next : Nat} {values : List Int} :
    runsFrom next values = true ↔
      values = (List.range values.length).map fun k => ((next + k : Nat) : Int) := by
  induction values generalizing next with
  | nil => simp [runsFrom]
  | cons n rest ih =>
    have tail : runsFrom ((next + 1 : Nat) : Int) rest = true ↔ _ := ih
    push_cast at tail
    simp only [runsFrom, Bool.and_eq_true, beq_iff_eq, tail, List.length_cons, List.range_succ_eq_map,
      List.map_cons, List.map_map, List.cons.injEq]
    simp [Function.comp_def, Int.add_assoc, Int.add_comm 1]

theorem toValues_integers_iff {first : Fin 2} {count : Nat} {values : List Int} :
    (integers first count).toValues = .integers values ↔
      count = values.length ∧ runsFrom first.val values = true := by
  rw [runsFrom_iff]
  constructor
  · intro listed
    cases listed
    simp
  · rintro ⟨rfl, run⟩
    exact congrArg ValueList.integers run.symm

/-- The first value tells the two kinds of integers apart. -/
theorem not_runsFrom_one {values : List Int} (some_value : values ≠ [])
    (run : runsFrom 0 values = true) : ¬ runsFrom 1 values = true := by
  cases values with
  | nil => exact absurd rfl some_value
  | cons n rest =>
    simp only [runsFrom, Bool.and_eq_true, beq_iff_eq] at run ⊢
    omega

theorem accepts_integers_iff {property : String} {values : List Int} (some_value : values ≠ [])
    {domain : PropertyDomain} :
    (if runsFrom 0 values then .ok (integers 0 values.length)
      else if runsFrom 1 values then .ok (integers 1 values.length)
      else .error (.integerRange property) : Except TableError PropertyDomain) = .ok domain ↔
      domain.toValues = .integers values := by
  constructor
  · intro accepted
    split at accepted
    · next run =>
      cases accepted
      exact toValues_integers_iff.mpr ⟨rfl, run⟩
    · split at accepted
      · next run =>
        cases accepted
        exact toValues_integers_iff.mpr ⟨rfl, run⟩
      · cases accepted
  · intro listed
    cases domain with
    | named names => cases listed
    | boolean => cases listed
    | integers first count =>
      obtain ⟨rfl, run⟩ := toValues_integers_iff.mp listed
      match first with
      | 0 => exact if_pos run
      | 1 =>
        have other : ¬ runsFrom 0 values = true := fun zero => not_runsFrom_one some_value zero run
        rw [if_neg other]
        exact if_pos run

/-- A list of values is accepted exactly if it is neither empty nor too long and a domain lists it. -/
theorem ofValues_eq_ok_iff {property : String} {values : ValueList} {domain : PropertyDomain} :
    ofValues property values = .ok domain ↔
      values.length ≠ 0 ∧ values.length ≤ maxSize ∧ domain.toValues = values := by
  unfold ofValues
  by_cases empty : values.length = 0
  · simp [empty]
  by_cases long : maxSize < values.length
  · simp [empty, long, Nat.not_le.mpr long]
  rw [if_neg empty, if_neg long]
  have bounded : values.length ≤ maxSize := Nat.not_lt.mp long
  simp only [ne_eq, empty, not_false_eq_true, bounded, true_and]
  cases values with
  | strings values =>
    cases domain <;> simp [toValues, eq_comm]
  | booleans values =>
    by_cases both : values = [true, false]
    · cases domain <;> simp [toValues, both]
    · cases domain <;> simp [toValues, both, eq_comm]
  | integers values =>
    exact accepts_integers_iff fun none => empty (by simp [ValueList.length, none])

/-- What a domain takes over from the list of values it was found for. -/
theorem size_of_ofValues {property : String} {values : ValueList} {domain : PropertyDomain}
    (accepted : ofValues property values = .ok domain) :
    domain.size = values.length ∧ 0 < domain.size ∧ domain.size ≤ maxSize := by
  obtain ⟨some_value, bounded, rfl⟩ := ofValues_eq_ok_iff.mp accepted
  rw [length_toValues] at some_value bounded ⊢
  exact ⟨rfl, Nat.pos_of_ne_zero some_value, bounded⟩

end PropertyDomain

namespace Registry

/-- A property is the one that a definition at a position gives. -/
structure Enters (position : Nat) (name : String) (definition : PropertyDefinition)
    (property : Property) : Prop where
  sameId : property.id.toNat = position
  sameName : property.name = name
  sameKey : property.key = definition.key
  accepted : PropertyDomain.ofValues name definition.values = .ok property.domain

variable {definitions : Document PropertyDefinition} {registry : Registry}

theorem ofDefinitions_eq_ok_iff :
    ofDefinitions definitions = .ok registry ↔ definitions.size ≤ maxSize ∧
      (definitions.entries.zipIdx.mapM fun ((name, definition), position) => do
        let domain ← PropertyDomain.ofValues name definition.values
        return ({ id := UInt8.ofNat position, name, key := definition.key, domain } : Property)) =
        .ok registry.properties := by
  unfold ofDefinitions
  refine throw_or_eq_ok_iff.trans (and_congr Nat.not_lt (bind_eq_ok_iff.trans ?_))
  constructor
  · rintro ⟨properties, entered, same⟩
    cases same
    exact entered
  · intro entered
    exact ⟨_, entered, rfl⟩

theorem size_of_ofDefinitions (checked : ofDefinitions definitions = .ok registry) :
    registry.size = definitions.size := by
  obtain ⟨_, entered⟩ := ofDefinitions_eq_ok_iff.mp checked
  rw [size, length_of_mapM entered, List.length_zipIdx]
  rfl

/-- Every definition has its property at its own position. -/
theorem property_of_definition (checked : ofDefinitions definitions = .ok registry) {i : Nat}
    {name : String} {definition : PropertyDefinition}
    (at_i : definitions.entries[i]? = some (name, definition)) :
    ∃ property, registry.properties[i]? = some property ∧ Enters i name definition property := by
  obtain ⟨fits, entered⟩ := ofDefinitions_eq_ok_iff.mp checked
  obtain ⟨inside, _⟩ := List.getElem?_eq_some_iff.mp at_i
  have indexed : definitions.entries.zipIdx[i]? = some ((name, definition), i) := by
    simp [List.getElem?_zipIdx, at_i]
  obtain ⟨property, found, result⟩ := result_of_mapM entered indexed
  obtain ⟨domain, accepted, same⟩ := bind_eq_ok_iff.mp result
  cases same
  have small : i < 256 := Nat.lt_of_lt_of_le inside fits
  exact ⟨_, found, by simp [Nat.mod_eq_of_lt small], rfl, rfl, accepted⟩

/-- Every property comes from the definition at its position. -/
theorem definition_of_property (checked : ofDefinitions definitions = .ok registry) {i : Nat}
    {property : Property} (at_i : registry.properties[i]? = some property) :
    ∃ name definition, definitions.entries[i]? = some (name, definition) ∧
      Enters i name definition property := by
  obtain ⟨inside, _⟩ := List.getElem?_eq_some_iff.mp at_i
  have same : registry.properties.length = definitions.entries.length :=
    size_of_ofDefinitions checked
  rw [same] at inside
  obtain ⟨⟨name, definition⟩, defined⟩ : ∃ entry, definitions.entries[i]? = some entry :=
    ⟨_, List.getElem?_eq_getElem inside⟩
  obtain ⟨entered, found, enters⟩ := property_of_definition checked defined
  rw [at_i, Option.some.injEq] at found
  exact ⟨name, definition, defined, found ▸ enters⟩

/-- What properties take over from their definitions stands in the order of the document. -/
theorem map_properties_eq {β : Type} (checked : ofDefinitions definitions = .ok registry)
    {f : Property → β} {g : String × PropertyDefinition → β}
    (taken : ∀ {i name definition property}, Enters i name definition property →
      f property = g (name, definition)) :
    registry.properties.map f = definitions.entries.map g := by
  refine map_eq_map_of_getElem? (size_of_ofDefinitions checked) fun i property at_i => ?_
  obtain ⟨name, definition, defined, enters⟩ := definition_of_property checked at_i
  exact ⟨_, defined, taken enters⟩

theorem names_of_ofDefinitions (checked : ofDefinitions definitions = .ok registry) :
    registry.properties.map (·.name) = definitions.entries.map Prod.fst :=
  map_properties_eq checked fun enters => enters.sameName

theorem mem_of_find? {name : String} {property : Property}
    (found : registry.find? name = some property) :
    property ∈ registry.properties ∧ property.name = name :=
  ⟨List.mem_of_find?_eq_some found, by simpa using List.find?_some found⟩

/-- A property is found at its id. -/
theorem findId?_of_mem (checked : ofDefinitions definitions = .ok registry) {property : Property}
    (member : property ∈ registry.properties) : registry.findId? property.id = some property := by
  obtain ⟨i, at_i⟩ := List.mem_iff_getElem?.mp member
  obtain ⟨_, _, _, enters⟩ := definition_of_property checked at_i
  rw [findId?, enters.sameId]
  exact at_i

theorem size_of_property (checked : ofDefinitions definitions = .ok registry) {property : Property}
    (member : property ∈ registry.properties) :
    0 < property.domain.size ∧ property.domain.size ≤ PropertyDomain.maxSize := by
  obtain ⟨i, at_i⟩ := List.mem_iff_getElem?.mp member
  obtain ⟨_, _, _, enters⟩ := definition_of_property checked at_i
  exact (PropertyDomain.size_of_ofValues enters.accepted).2

end Registry

end GameTables
