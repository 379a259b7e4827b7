import Mathlib.Data.List.Nodup
import GameTables.Proofs.Document
import GameTables.Proofs.Name.Canonical
import GameTables.Proofs.PacketSource.RoundTrip

/-!
# Names in the generated modules

Which item each bare name of the sources stands for. A module of a state sees its own items, then those
of the module around it through a glob import, and then the prelude. Names are the same if their canonical
forms are. The names of modules, packet types and variants come from the document. They differ from each
other as texts, but nothing keeps their canonical forms apart, and nothing keeps them apart from the names
that the sources themselves use.
-/

namespace GameTables.PacketSource

open Unicode (canonical canonical_of_plain eq_of_canonical_eq PlainName)

/-! ## Scopes -/

/-- What a name is declared as. -/
inductive Kind where
  | type
  | module
  | value
  deriving DecidableEq, Repr

/-- Types and modules share one space of names. -/
inductive Space where
  | types
  | values
  deriving DecidableEq, Repr

def Kind.space : Kind → Space
  | .type => .types
  | .module => .types
  | .value => .values

/-- Where the item that a name stands for is declared. -/
inductive Place where
  | own
  | outer
  | prelude
  deriving DecidableEq, Repr

/-- The names of a module, and those of the module whose names it imports with a glob. -/
structure Scope where
  own : List (String × Kind)
  outer : List (String × Kind)

/-- The names of the prelude that the sources use. -/
def preludeNames : List (String × Kind) := [("Option", .type), ("Some", .value), ("None", .value)]

def declared? (names : List (String × Kind)) (space : Space) (name : String) : Option Kind :=
  (names.find? fun declared =>
    canonical declared.1 == canonical name && declared.2.space == space).map Prod.snd

/-- The item that a bare name stands for. Items of the module hide those that are imported with a glob,
and these hide the prelude. -/
def Scope.resolve (scope : Scope) (space : Space) (name : String) : Option (Place × Kind) :=
  ((declared? scope.own space name).map (Place.own, ·)).or
    (((declared? scope.outer space name).map (Place.outer, ·)).or
      ((declared? preludeNames space name).map (Place.prelude, ·)))

/-- What a bare name in a source is meant to be. -/
inductive Use where
  | item (name : String) (kind : Kind) (place : Place)
  /-- A type of the language. No module hides it. -/
  | primitive (name : String)
  /-- The name of a parameter, which would stand for a value of the same name. -/
  | parameter (name : String)
  deriving DecidableEq, Repr

/-- A bare name is what it is meant to be. -/
def Scope.Serves (scope : Scope) : Use → Prop
  | .item name kind place => scope.resolve kind.space name = some (place, kind)
  | .primitive name => ∀ place, scope.resolve .types name ≠ some (place, .type)
  | .parameter name => scope.resolve .values name = none

/-- No two items of a module have the same name, and every bare name is what it is meant to be. -/
structure Scope.Clear (scope : Scope) (uses : List Use) : Prop where
  distinct : (scope.own.map fun declared => (canonical declared.1, declared.2.space)).Nodup
  serves : ∀ use ∈ uses, scope.Serves use

/-! ## The scopes of the sources -/

/-- What the source of a direction imports by name. -/
def importedTypes : List String := ["ConnectionState", "Packet", "PacketDirection"]

def directionNames (items : DirectionItems) : List (String × Kind) :=
  importedTypes.map (·, .type) ++ items.modules.map (·.name, .module) ++ [("packet_name", .value)]

def directionScope (items : DirectionItems) : Scope := ⟨directionNames items, []⟩

/-- The bare names of the source of a direction outside of its modules. -/
def directionUses (items : DirectionItems) : List Use :=
  [.item "ConnectionState" .type .own, .primitive "i32", .item "Option" .type .prelude, .primitive "str",
    .parameter "state", .parameter "id"]
  ++ items.arms.map fun arm => .item arm.2 .module .own

def typeNames (module : StateModule) : List String := module.packets.map (·.typeName)

/-- The names of the module of a state. The type of a packet is a value as well. -/
def moduleNames (module : StateModule) : List (String × Kind) :=
  (typeNames module).map (·, .type) ++ (typeNames module ++ ["PACKETS", "packet_name"]).map (·, .value)

def moduleScope (items : DirectionItems) (module : StateModule) : Scope :=
  ⟨moduleNames module, directionNames items⟩

/-- The bare names of a packet type and its constants. The traits that it derives are named as macros,
which no type hides. -/
def packetUses (item : PacketItem) : List Use :=
  [.item "Packet" .type .outer, .item item.typeName .type .own, .primitive "i32", .primitive "str",
    .item "PacketDirection" .type .outer, .item "ConnectionState" .type .outer]

/-- The bare names of the module of a state. -/
def moduleUses (module : StateModule) : List Use :=
  module.packets.flatMap packetUses
  ++ [.primitive "i32", .primitive "str", .item "Option" .type .prelude, .parameter "id"]
  ++ module.arms.map (fun _ => .item "Some" .value .prelude)
  ++ [.item "None" .value .prelude]

/-- The names of the enumeration of states: its variants, and what is declared beside them. -/
def variantNames (items : StateItems) : List String :=
  items.variants.map Prod.fst ++ ["ALL", "id", "from_id"]

/-- No two items of a module have the same name, and every bare name is what the sources mean by it. -/
structure NamesClear (sources : Sources) : Prop where
  modules : ∀ direction, ∀ module ∈ (sources.direction direction).modules,
    (moduleScope (sources.direction direction) module).Clear (moduleUses module)
  directions : ∀ direction,
    (directionScope (sources.direction direction)).Clear (directionUses (sources.direction direction))
  variants : ((variantNames sources.states).map canonical).Nodup

/-- The names that the module of a state uses, and that the type of a packet can have. -/
def takenNames : List String :=
  ["PACKETS", "Packet", "PacketDirection", "ConnectionState", "Option", "Some", "None"]

/-- The names that come from the document are not those that the sources use, and the modules of the states,
the packet types of a module and the variants have different names. -/
structure NamesFree (document : Document ConnectionDefinition) : Prop where
  untaken : ∀ entry ∈ document.entries, ∀ direction, ∀ packet ∈ entry.2.packets direction,
    ∀ taken ∈ takenNames, canonical (Protocol.structName direction packet.name) ≠ canonical taken
  packets : ∀ entry ∈ document.entries, ∀ direction,
    ((entry.2.packets direction).map (canonical <| Protocol.structName direction ·.name)).Nodup
  modules : (document.entries.map (canonical <| Name.snakeCase ·.1)).Nodup
  variants : (document.entries.map (canonical <| Name.camelCase ·.1)).Nodup
  notAll : ∀ entry ∈ document.entries, Name.camelCase entry.1 ≠ "ALL"

/-! ## Looking names up -/

section Lookup

variable {names : List (String × Kind)} {space : Space} {name : String} {kind : Kind}

theorem mem_of_declared? (found : declared? names space name = some kind) :
    ∃ other, canonical other = canonical name ∧ (other, kind) ∈ names ∧ kind.space = space := by
  obtain ⟨⟨other, kind⟩, listed, rfl⟩ := Option.map_eq_some_iff.mp found
  have same := List.find?_some listed
  simp only [Bool.and_eq_true, beq_iff_eq] at same
  exact ⟨other, same.1, List.mem_of_find?_eq_some listed, same.2⟩

theorem declared?_eq_none_iff :
    declared? names space name = none ↔
      ∀ other kind, canonical other = canonical name → (other, kind) ∈ names → kind.space ≠ space := by
  rw [declared?, Option.map_eq_none_iff, List.find?_eq_none]
  constructor
  · intro apart other kind same here
    simpa [same] using apart (other, kind) here
  · rintro apart ⟨other, kind⟩ here
    simp only [Bool.and_eq_true, beq_iff_eq, not_and]
    exact fun same => apart other kind same here

/-- A name stands for the only kind it is declared as. -/
theorem declared?_of_mem (here : (name, kind) ∈ names)
    (only : ∀ other kind', canonical other = canonical name → (other, kind') ∈ names →
      kind'.space = kind.space → kind' = kind) :
    declared? names kind.space name = some kind := by
  cases found : declared? names kind.space name with
  | none => exact absurd rfl (declared?_eq_none_iff.mp found name kind rfl here)
  | some kind' =>
    obtain ⟨other, same, there, in_space⟩ := mem_of_declared? found
    rw [only other kind' same there in_space]

/-- No other name has the canonical form of a plain one. -/
theorem declared?_of_plain (plain : PlainName name) (here : (name, kind) ∈ names)
    (only : ∀ kind', (name, kind') ∈ names → kind'.space = kind.space → kind' = kind) :
    declared? names kind.space name = some kind := by
  refine declared?_of_mem here fun other kind' same there in_space => ?_
  rw [eq_of_canonical_eq plain same] at there
  exact only kind' there in_space

theorem declared?_plain_none (plain : PlainName name)
    (apart : ∀ kind, (name, kind) ∈ names → kind.space ≠ space) : declared? names space name = none := by
  refine declared?_eq_none_iff.mpr fun other kind same here => ?_
  rw [eq_of_canonical_eq plain same] at here
  exact apart kind here

variable {scope : Scope}

theorem resolve_of_own (found : declared? scope.own space name = some kind) :
    scope.resolve space name = some (.own, kind) := by
  simp [Scope.resolve, found]

theorem resolve_of_outer (hidden : declared? scope.own space name = none)
    (found : declared? scope.outer space name = some kind) :
    scope.resolve space name = some (.outer, kind) := by
  simp [Scope.resolve, hidden, found]

theorem mem_of_resolve {place : Place} (plain : PlainName name)
    (found : scope.resolve space name = some (place, kind)) :
    (name, kind) ∈ scope.own ∨ (name, kind) ∈ scope.outer ∨ (name, kind) ∈ preludeNames := by
  have declared {names : List (String × Kind)} (found : declared? names space name = some kind) :
      (name, kind) ∈ names := by
    obtain ⟨other, same, here, _⟩ := mem_of_declared? found
    rwa [eq_of_canonical_eq plain same] at here
  simp only [Scope.resolve, Option.or_eq_some_iff, Option.map_eq_some_iff, Prod.mk.injEq] at found
  rcases found with ⟨_, own, _, rfl⟩ | ⟨_, ⟨_, outer, _, rfl⟩ | ⟨_, _, prelude, _, rfl⟩⟩
  · exact .inl (declared own)
  · exact .inr (.inl (declared outer))
  · exact .inr (.inr (declared prelude))

theorem resolve_of_prelude (own : declared? scope.own space name = none)
    (outer : declared? scope.outer space name = none) :
    scope.resolve space name = (declared? preludeNames space name).map (Place.prelude, ·) := by
  simp [Scope.resolve, own, outer]

/-- A name of the prelude that nothing hides is what it is in the prelude. -/
theorem serves_prelude (listed : (name, kind) ∈ preludeNames)
    (own : declared? scope.own kind.space name = none) (outer : declared? scope.outer kind.space name = none) :
    scope.Serves (.item name kind .prelude) := by
  have plain : ∀ entry ∈ preludeNames, PlainName entry.1 := by decide
  have only : ∀ entry ∈ preludeNames, ∀ other ∈ preludeNames, other.1 = entry.1 → other.2 = entry.2 := by decide
  have declared := declared?_of_plain (plain _ listed) listed fun other there _ => only _ listed _ there rfl
  rw [Scope.Serves, resolve_of_prelude own outer, declared]
  rfl

/-- A parameter is no value of the prelude. -/
theorem serves_parameter (plain : PlainName name) (own : declared? scope.own .values name = none)
    (outer : declared? scope.outer .values name = none) (other : name ≠ "Some" ∧ name ≠ "None") :
    scope.Serves (.parameter name) := by
  have prelude : declared? preludeNames .values name = none := by
    refine declared?_plain_none plain fun kind here => ?_
    simp only [preludeNames, List.mem_cons, Prod.mk.injEq, List.not_mem_nil, or_false] at here
    rcases here with ⟨_, rfl⟩ | ⟨same, _⟩ | ⟨same, _⟩
    · exact Space.noConfusion
    · exact absurd same other.1
    · exact absurd same other.2
  rw [Scope.Serves, resolve_of_prelude own outer, prelude]
  rfl

/-- Only a type hides a type of the language. -/
theorem serves_primitive (plain : PlainName name) (own : (name, .type) ∉ scope.own)
    (outer : (name, .type) ∉ scope.outer) (prelude : (name, .type) ∉ preludeNames) :
    scope.Serves (.primitive name) := by
  intro place found
  rcases mem_of_resolve plain found with here | here | here
  · exact own here
  · exact outer here
  · exact prelude here

/-- Plain names have different canonical forms. -/
theorem nodup_map_canonical {names : List String} (distinct : names.Nodup)
    (plain : ∀ name ∈ names, PlainName name) : (names.map canonical).Nodup :=
  distinct.map_on fun _ _ other there same => eq_of_canonical_eq (plain other there) same

/-- Names of different spaces are apart. -/
theorem disjoint_spaces {α : Type} (types values : List α) :
    List.Disjoint (types.map (·, Space.types)) (values.map (·, Space.values)) := by
  intro entry first second
  obtain ⟨_, _, rfl⟩ := List.mem_map.mp first
  obtain ⟨_, _, same⟩ := List.mem_map.mp second
  exact Space.noConfusion (Prod.mk.inj same).2

end Lookup

/-! ## The names of a direction -/

/-- A name begins with a small letter. -/
def BeginsSmall (name : String) : Prop := name.toList.head?.any Char.isLower

instance (name : String) : Decidable (BeginsSmall name) := inferInstanceAs (Decidable (_ = true))

/-- A name has a capital. -/
def HasCapital (name : String) : Prop := name.toList.any Char.isUpper

instance (name : String) : Decidable (HasCapital name) := inferInstanceAs (Decidable (_ = true))

theorem hasCapital_of_imported : ∀ name ∈ importedTypes, HasCapital name := by decide

theorem plain_of_imported : ∀ name ∈ importedTypes, PlainName name := by decide

theorem not_beginsSmall_of_prelude : ∀ declared ∈ preludeNames, ¬ BeginsSmall declared.1 := by decide

/-- No name of a type or variant begins with a small letter. -/
theorem not_beginsSmall_camelCase (name : String) : ¬ BeginsSmall (Name.camelCase name) := by
  intro small
  obtain ⟨c, first, lower⟩ := (Option.any_eq_true _ _).mp small
  rw [Name.isLower_of_head_camelCase first] at lower
  cases lower

/-- What the names of a direction are like in the sources of a protocol. -/
structure Derived (items : DirectionItems) : Prop where
  modules : ∀ module ∈ items.modules, ¬ HasCapital module.name
  types : ∀ module ∈ items.modules, ∀ name ∈ typeNames module, ¬ BeginsSmall name
  arms : ∀ arm ∈ items.arms, arm.2 ∈ items.modules.map (·.name)
  used : ∀ module ∈ items.modules, module.arms = [] → module.packets = []

variable {items : DirectionItems} {module : StateModule}

theorem mem_directionNames {name : String} {kind : Kind} :
    (name, kind) ∈ directionNames items ↔
      (kind = .type ∧ name ∈ importedTypes) ∨
        (kind = .module ∧ name ∈ items.modules.map (·.name)) ∨
          (kind = .value ∧ name = "packet_name") := by
  simp only [directionNames, List.mem_append, List.mem_map, Prod.mk.injEq, List.mem_singleton]
  constructor
  · rintro ((⟨_, imported, rfl, rfl⟩ | ⟨module, here, rfl, rfl⟩) | ⟨rfl, rfl⟩)
    · exact .inl ⟨rfl, imported⟩
    · exact .inr (.inl ⟨rfl, module, here, rfl⟩)
    · exact .inr (.inr ⟨rfl, rfl⟩)
  · rintro (⟨rfl, imported⟩ | ⟨rfl, module, here, rfl⟩ | ⟨rfl, rfl⟩)
    · exact .inl (.inl ⟨name, imported, rfl, rfl⟩)
    · exact .inl (.inr ⟨module, here, rfl, rfl⟩)
    · exact .inr ⟨rfl, rfl⟩

theorem not_hasCapital (derived : Derived items) {name : String}
    (here : name ∈ items.modules.map (·.name)) : ¬ HasCapital name := by
  obtain ⟨module, listed, rfl⟩ := List.mem_map.mp here
  exact derived.modules module listed

theorem declared?_imported (derived : Derived items) {name : String} (imported : name ∈ importedTypes) :
    declared? (directionNames items) .types name = some .type := by
  refine declared?_of_plain (plain_of_imported name imported)
    (mem_directionNames.mpr (.inl ⟨rfl, imported⟩)) fun other there in_space => ?_
  rcases mem_directionNames.mp there with ⟨rfl, _⟩ | ⟨rfl, named⟩ | ⟨rfl, _⟩
  · rfl
  · exact absurd (hasCapital_of_imported name imported) (not_hasCapital derived named)
  · cases in_space

theorem declared?_directionModule (derived : Derived items) {name : String}
    (listed : name ∈ items.modules.map (·.name)) :
    declared? (directionNames items) .types name = some .module := by
  have here := mem_directionNames.mpr (.inr (.inl ⟨rfl, listed⟩))
  refine declared?_of_mem here fun other kind same there in_space => ?_
  rcases mem_directionNames.mp there with ⟨rfl, imported⟩ | ⟨rfl, _⟩ | ⟨rfl, _⟩
  · obtain rfl := eq_of_canonical_eq (plain_of_imported other imported) same.symm
    exact absurd (hasCapital_of_imported name imported) (not_hasCapital derived listed)
  · rfl
  · cases in_space

/-- Of the names with a capital a direction has only those that are imported. -/
theorem declared?_direction_capital (derived : Derived items) {name : String} (plain : PlainName name)
    (capital : HasCapital name) (other : name ∉ importedTypes) (space : Space) :
    declared? (directionNames items) space name = none := by
  refine declared?_plain_none plain fun kind here => ?_
  rcases mem_directionNames.mp here with ⟨_, imported⟩ | ⟨_, named⟩ | ⟨_, rfl⟩
  · exact absurd imported other
  · exact absurd capital (not_hasCapital derived named)
  · exact absurd capital (by decide)

theorem declared?_direction_value {name : String} (plain : PlainName name) (other : name ≠ "packet_name") :
    declared? (directionNames items) .values name = none := by
  refine declared?_plain_none plain fun kind here => ?_
  rcases mem_directionNames.mp here with ⟨rfl, _⟩ | ⟨rfl, _⟩ | ⟨_, same⟩
  · exact Space.noConfusion
  · exact Space.noConfusion
  · exact absurd same other

/-- No type of a direction has a small name. -/
theorem not_mem_directionNames_of_small {name : String} (small : BeginsSmall name) :
    (name, .type) ∉ directionNames items := by
  intro here
  rcases mem_directionNames.mp here with ⟨_, imported⟩ | ⟨same, _⟩ | ⟨same, _⟩
  · have capitals : ∀ name ∈ importedTypes, ¬ BeginsSmall name := by decide
    exact capitals name imported small
  · cases same
  · cases same

/-- The names of a direction, each with its space. -/
theorem map_directionNames (items : DirectionItems) :
    (directionNames items).map (fun declared => (canonical declared.1, declared.2.space)) =
      ((importedTypes ++ items.modules.map (·.name)).map canonical).map (·, Space.types) ++
        [(canonical "packet_name", Space.values)] := by
  simp only [directionNames, List.map_append, List.map_map, Function.comp_def]
  rfl

/-- Names are told apart with their spaces as they are without. -/
theorem nodup_map_space_iff {names : List (List Char)} (space : Space) :
    (names.map (·, space)).Nodup ↔ names.Nodup :=
  List.nodup_map_iff fun _ _ same => (Prod.mk.inj same).1

theorem nodup_directionNames_iff (derived : Derived items) :
    ((directionNames items).map fun declared => (canonical declared.1, declared.2.space)).Nodup ↔
      (items.modules.map (canonical ·.name)).Nodup := by
  have modules_eq : items.modules.map (canonical ·.name) = (items.modules.map (·.name)).map canonical := by
    rw [List.map_map]
    rfl
  rw [map_directionNames, List.nodup_append', nodup_map_space_iff, List.map_append, List.nodup_append',
    modules_eq]
  constructor
  · rintro ⟨⟨_, modules, _⟩, _⟩
    exact modules
  · intro modules
    refine ⟨⟨nodup_map_canonical (by decide) plain_of_imported, modules, ?_⟩, List.nodup_singleton _,
      disjoint_spaces _ [canonical "packet_name"]⟩
    intro form here there
    obtain ⟨name, imported, rfl⟩ := List.mem_map.mp here
    obtain ⟨other, named, same⟩ := List.mem_map.mp there
    obtain rfl := eq_of_canonical_eq (plain_of_imported name imported) same
    exact not_hasCapital derived named (hasCapital_of_imported _ imported)

theorem clear_directionScope_iff (derived : Derived items) :
    (directionScope items).Clear (directionUses items) ↔ (items.modules.map (canonical ·.name)).Nodup := by
  refine ⟨fun clear => (nodup_directionNames_iff derived).mp clear.distinct, fun distinct => ?_⟩
  refine ⟨(nodup_directionNames_iff derived).mpr distinct, fun use here => ?_⟩
  have primitive {name : String} (plain : PlainName name) (small : BeginsSmall name) :
      (directionScope items).Serves (.primitive name) :=
    serves_primitive plain (not_mem_directionNames_of_small small) List.not_mem_nil
      fun there => not_beginsSmall_of_prelude _ there small
  simp only [directionUses, List.mem_append, List.mem_cons, List.not_mem_nil, or_false,
    List.mem_map] at here
  rcases here with (rfl | rfl | rfl | rfl | rfl | rfl) | ⟨arm, listed, rfl⟩
  · exact resolve_of_own (declared?_imported derived (by decide))
  · exact primitive (by decide) (by decide)
  · exact serves_prelude (by decide)
      (declared?_direction_capital derived (by decide) (by decide) (by decide) _) rfl
  · exact primitive (by decide) (by decide)
  · exact serves_parameter (by decide) (declared?_direction_value (by decide) (by decide)) rfl (by decide)
  · exact serves_parameter (by decide) (declared?_direction_value (by decide) (by decide)) rfl (by decide)
  · exact resolve_of_own (declared?_directionModule derived (derived.arms arm listed))

/-! ## The names of a module -/

theorem mem_moduleNames {name : String} {kind : Kind} :
    (name, kind) ∈ moduleNames module ↔
      (kind = .type ∧ name ∈ typeNames module) ∨
        (kind = .value ∧ (name ∈ typeNames module ∨ name = "PACKETS" ∨ name = "packet_name")) := by
  simp only [moduleNames, List.mem_append, List.mem_map, Prod.mk.injEq, List.mem_cons,
    List.not_mem_nil, or_false]
  constructor
  · rintro (⟨_, here, rfl, rfl⟩ | ⟨_, here, rfl, rfl⟩)
    · exact .inl ⟨rfl, here⟩
    · exact .inr ⟨rfl, here⟩
  · rintro (⟨rfl, here⟩ | ⟨rfl, here⟩)
    · exact .inl ⟨name, here, rfl, rfl⟩
    · exact .inr ⟨name, here, rfl, rfl⟩

theorem declared?_type {name : String} (here : name ∈ typeNames module) :
    declared? (moduleNames module) .types name = some .type := by
  refine declared?_of_mem (mem_moduleNames.mpr (.inl ⟨rfl, here⟩)) fun other kind _ there in_space => ?_
  rcases mem_moduleNames.mp there with ⟨rfl, _⟩ | ⟨rfl, _⟩
  · rfl
  · cases in_space

theorem declared?_value {name : String} (here : name ∈ typeNames module) :
    declared? (moduleNames module) .values name = some .value := by
  refine declared?_of_mem (mem_moduleNames.mpr (.inr ⟨rfl, .inl here⟩)) fun other kind _ there in_space => ?_
  rcases mem_moduleNames.mp there with ⟨rfl, _⟩ | ⟨rfl, _⟩
  · cases in_space
  · rfl

theorem declared?_module_none {name : String} {space : Space} (plain : PlainName name)
    (other : name ∉ typeNames module) (apart : space = .types ∨ name ≠ "PACKETS" ∧ name ≠ "packet_name") :
    declared? (moduleNames module) space name = none := by
  refine declared?_plain_none plain fun kind here => ?_
  rcases mem_moduleNames.mp here with ⟨_, listed⟩ | ⟨rfl, listed | same⟩
  · exact absurd listed other
  · exact absurd listed other
  · rcases apart with rfl | apart
    · exact Space.noConfusion
    · exact absurd same (not_or.mpr apart)

/-- The names of a module, each with its space. -/
theorem map_moduleNames (module : StateModule) :
    (moduleNames module).map (fun declared => (canonical declared.1, declared.2.space)) =
      ((typeNames module).map canonical).map (·, Space.types) ++
        ((typeNames module).map canonical ++ [canonical "PACKETS", canonical "packet_name"]).map
          (·, Space.values) := by
  simp only [moduleNames, List.map_append, List.map_map, Function.comp_def]
  rfl

/-- The names of a module differ if those of its types do and none of them is that of the list. -/
theorem nodup_moduleNames_iff (capital : ∀ name ∈ typeNames module, ¬ BeginsSmall name) :
    ((moduleNames module).map fun declared => (canonical declared.1, declared.2.space)).Nodup ↔
      ((typeNames module).map canonical).Nodup ∧
        ∀ name ∈ typeNames module, canonical name ≠ canonical "PACKETS" := by
  rw [map_moduleNames, List.nodup_append', nodup_map_space_iff, nodup_map_space_iff]
  constructor
  · rintro ⟨types, values, _⟩
    refine ⟨types, fun name listed same => ?_⟩
    exact (List.nodup_append'.mp values).2.2 (List.mem_map_of_mem listed) (by simp [same])
  · rintro ⟨types, fresh⟩
    have apart : canonical "PACKETS" ≠ canonical "packet_name" :=
      fun same => absurd (eq_of_canonical_eq (by decide) same) (by decide)
    refine ⟨types, types.append (by simpa using apart) fun form here there => ?_, disjoint_spaces _ _⟩
    obtain ⟨name, listed, rfl⟩ := List.mem_map.mp here
    rcases List.mem_pair.mp there with same | same
    · exact fresh name listed same
    · obtain rfl := eq_of_canonical_eq (by decide) same
      exact capital _ listed (by decide)

/-- An item of the module hides what a use of its name elsewhere means. -/
theorem hidden_of_own {scope : Scope} {name : String} {kind own : Kind} {place : Place}
    (elsewhere : place ≠ .own) (serves : scope.Serves (.item name kind place)) :
    declared? scope.own kind.space name ≠ some own := by
  intro declared
  rw [Scope.Serves, resolve_of_own declared] at serves
  exact elsewhere (Prod.mk.inj (Option.some.inj serves)).1.symm

/-- A packet type whose name the module uses breaks the scope of the module. -/
theorem not_taken_of_clear (derived : Derived items) (here : module ∈ items.modules)
    (clear : (moduleScope items module).Clear (moduleUses module)) :
    ∀ name ∈ typeNames module, ∀ taken ∈ takenNames, canonical name ≠ canonical taken := by
  intro name listed taken is_taken same
  obtain ⟨item, item_at, _⟩ := List.mem_map.mp listed
  have arm : module.arms ≠ [] := by
    intro none
    rw [derived.used module here none] at item_at
    cases item_at
  have ofPacket {use : Use} (used : use ∈ packetUses item) : use ∈ moduleUses module := by
    simpa [moduleUses] using .inl ⟨item, item_at, used⟩
  have type (place : Place) (elsewhere : place ≠ .own) :
      Use.item name .type place ∉ moduleUses module :=
    fun used => hidden_of_own elsewhere (clear.serves _ used) (declared?_type listed)
  have value (place : Place) (elsewhere : place ≠ .own) :
      Use.item name .value place ∉ moduleUses module :=
    fun used => hidden_of_own elsewhere (clear.serves _ used) (declared?_value listed)
  have fresh := ((nodup_moduleNames_iff (derived.types module here)).mp clear.distinct).2
  -- Only the name of the list of all packets has a letter for which another character stands.
  by_cases list : taken = "PACKETS"
  · exact fresh name listed (list ▸ same)
  have plain : ∀ taken ∈ takenNames, taken ≠ "PACKETS" → PlainName taken := by decide
  obtain rfl := eq_of_canonical_eq (plain taken is_taken list) same
  simp only [takenNames, List.mem_cons, List.not_mem_nil, or_false] at is_taken
  rcases is_taken with rfl | rfl | rfl | rfl | rfl | rfl | rfl
  · exact list rfl
  · exact type .outer (by decide) (ofPacket (by simp [packetUses]))
  · exact type .outer (by decide) (ofPacket (by simp [packetUses]))
  · exact type .outer (by decide) (ofPacket (by simp [packetUses]))
  · exact type .prelude (by decide) (by simp [moduleUses])
  · exact value .prelude (by decide) (by simp [moduleUses, arm])
  · exact value .prelude (by decide) (by simp [moduleUses])

theorem clear_of_not_taken (derived : Derived items) (here : module ∈ items.modules)
    (distinct : ((typeNames module).map canonical).Nodup)
    (free : ∀ name ∈ typeNames module, ∀ taken ∈ takenNames, canonical name ≠ canonical taken) :
    (moduleScope items module).Clear (moduleUses module) := by
  have capital := derived.types module here
  have untaken {name : String} (taken : name ∈ takenNames) : name ∉ typeNames module :=
    fun listed => free name listed name taken rfl
  have outer {name : String} (imported : name ∈ importedTypes) (taken : name ∈ takenNames) :
      (moduleScope items module).Serves (.item name .type .outer) :=
    resolve_of_outer (declared?_module_none (plain_of_imported name imported) (untaken taken) (.inl rfl))
      (declared?_imported derived imported)
  have primitive {name : String} (plain : PlainName name) (small : BeginsSmall name) :
      (moduleScope items module).Serves (.primitive name) := by
    refine serves_primitive plain (fun there => ?_) (not_mem_directionNames_of_small small)
      fun there => not_beginsSmall_of_prelude _ there small
    rcases mem_moduleNames.mp there with ⟨_, listed⟩ | ⟨same, _⟩
    · exact capital name listed small
    · cases same
  have names := (nodup_moduleNames_iff capital).mpr
    ⟨distinct, fun name listed => free name listed "PACKETS" (by decide)⟩
  refine ⟨names, fun use used => ?_⟩
  simp only [moduleUses, List.mem_append, List.mem_flatMap, List.mem_cons, List.not_mem_nil, or_false,
    List.mem_map] at used
  rcases used with ((⟨item, listed, used⟩ | used) | ⟨arm, _, rfl⟩) | rfl
  · simp only [packetUses, List.mem_cons, List.not_mem_nil, or_false] at used
    rcases used with rfl | rfl | rfl | rfl | rfl | rfl
    · exact outer (by decide) (by decide)
    · exact resolve_of_own (declared?_type (List.mem_map_of_mem listed))
    · exact primitive (by decide) (by decide)
    · exact primitive (by decide) (by decide)
    · exact outer (by decide) (by decide)
    · exact outer (by decide) (by decide)
  · rcases used with rfl | rfl | rfl | rfl
    · exact primitive (by decide) (by decide)
    · exact primitive (by decide) (by decide)
    · exact serves_prelude (by decide) (declared?_module_none (by decide) (untaken (by decide)) (.inl rfl))
        (declared?_direction_capital derived (by decide) (by decide) (by decide) _)
    · have fresh : "id" ∉ typeNames module := fun listed => capital _ listed (by decide)
      exact serves_parameter (by decide) (declared?_module_none (by decide) fresh (.inr (by decide)))
        (declared?_direction_value (by decide) (by decide)) (by decide)
  · exact serves_prelude (by decide) (declared?_module_none (by decide) (untaken (by decide)) (.inr (by decide)))
      (declared?_direction_value (by decide) (by decide))
  · exact serves_prelude (by decide) (declared?_module_none (by decide) (untaken (by decide)) (.inr (by decide)))
      (declared?_direction_value (by decide) (by decide))

theorem clear_moduleScope_iff (derived : Derived items) (here : module ∈ items.modules) :
    (moduleScope items module).Clear (moduleUses module) ↔
      ((typeNames module).map canonical).Nodup ∧
        ∀ name ∈ typeNames module, ∀ taken ∈ takenNames, canonical name ≠ canonical taken := by
  constructor
  · intro clear
    exact ⟨((nodup_moduleNames_iff (derived.types module here)).mp clear.distinct).1,
      not_taken_of_clear derived here clear⟩
  · rintro ⟨distinct, free⟩
    exact clear_of_not_taken derived here distinct free

/-! ## The names of the sources -/

variable {document : Document ConnectionDefinition}

theorem typeNames_ofState (direction : Direction) (entry : String × ConnectionDefinition) :
    typeNames (.ofState direction (Protocol.state entry)) =
      (entry.2.packets direction).map (Protocol.structName direction ·.name) := by
  simp only [typeNames, StateModule.ofState, Protocol.packets_state, List.map_map]
  rfl

theorem derived_ofProtocol (document : Document ConnectionDefinition) (direction : Direction) :
    Derived (.ofProtocol (protocolOf document) direction) := by
  constructor
  case modules =>
    rw [modules_ofProtocol]
    refine List.forall_mem_map.mpr fun entry _ capital => ?_
    obtain ⟨c, here, upper⟩ := List.any_eq_true.mp capital
    rw [Name.isUpper_of_mem_snakeCase here] at upper
    cases upper
  case types =>
    rw [modules_ofProtocol]
    refine List.forall_mem_map.mpr fun entry _ => ?_
    rw [typeNames_ofState]
    exact List.forall_mem_map.mpr fun packet _ => not_beginsSmall_camelCase _
  case arms =>
    rw [modules_ofProtocol, List.map_map]
    refine List.forall_mem_map.mpr (List.forall_mem_map.mpr fun entry here => ?_)
    exact List.mem_map.mpr ⟨entry, here, rfl⟩
  case used =>
    rw [modules_ofProtocol]
    refine List.forall_mem_map.mpr fun entry _ none => ?_
    simp only [StateModule.ofState, List.map_eq_nil_iff] at none ⊢
    exact none

theorem nodup_variantNames_iff (document : Document ConnectionDefinition) :
    ((variantNames (.ofProtocol (protocolOf document))).map canonical).Nodup ↔
      (document.entries.map (canonical <| Name.camelCase ·.1)).Nodup ∧
        ∀ entry ∈ document.entries, Name.camelCase entry.1 ≠ "ALL" := by
  have variants_eq : (document.entries.map (Name.camelCase ·.1)).map canonical =
      document.entries.map (canonical <| Name.camelCase ·.1) := List.map_map
  rw [variantNames, variants_ofProtocol, List.map_append, variants_eq, List.nodup_append']
  constructor
  · rintro ⟨variants, _, apart⟩
    exact ⟨variants, fun entry here same => apart (List.mem_map_of_mem here) (by simp [same])⟩
  · rintro ⟨variants, other⟩
    have plain : ∀ name ∈ ["ALL", "id", "from_id"], PlainName name := by decide
    refine ⟨variants, nodup_map_canonical (by decide) plain, fun form here there => ?_⟩
    obtain ⟨entry, listed, rfl⟩ := List.mem_map.mp here
    obtain ⟨name, own, same⟩ := List.mem_map.mp there
    have same := eq_of_canonical_eq (plain name own) same.symm
    simp only [List.mem_cons, List.not_mem_nil, or_false] at own
    rcases own with rfl | rfl | rfl
    · exact other entry listed same
    · exact not_beginsSmall_camelCase entry.1 (same ▸ by decide)
    · exact not_beginsSmall_camelCase entry.1 (same ▸ by decide)

/-- The module of a state is clear if its packet types have different names, of which none is taken. -/
theorem clear_ofState_iff (direction : Direction) {entry : String × ConnectionDefinition}
    (here : entry ∈ document.entries) :
    (moduleScope (.ofProtocol (protocolOf document) direction)
        (.ofState direction (Protocol.state entry))).Clear
        (moduleUses (.ofState direction (Protocol.state entry))) ↔
      ((entry.2.packets direction).map (canonical <| Protocol.structName direction ·.name)).Nodup ∧
        ∀ packet ∈ entry.2.packets direction, ∀ taken ∈ takenNames,
          canonical (Protocol.structName direction packet.name) ≠ canonical taken := by
  have listed : StateModule.ofState direction (Protocol.state entry) ∈
      (DirectionItems.ofProtocol (protocolOf document) direction).modules := by
    rw [modules_ofProtocol]
    exact List.mem_map_of_mem here
  rw [clear_moduleScope_iff (derived_ofProtocol document direction) listed, typeNames_ofState, List.map_map]
  exact and_congr_right fun _ => List.forall_mem_map

theorem clear_direction_iff (document : Document ConnectionDefinition) (direction : Direction) :
    (directionScope (.ofProtocol (protocolOf document) direction)).Clear
        (directionUses (.ofProtocol (protocolOf document) direction)) ↔
      (document.entries.map (canonical <| Name.snakeCase ·.1)).Nodup := by
  rw [clear_directionScope_iff (derived_ofProtocol document direction), modules_ofProtocol, List.map_map]
  rfl

theorem namesClear_ofProtocol_iff (document : Document ConnectionDefinition) :
    NamesClear (.ofProtocol (protocolOf document)) ↔ NamesFree document := by
  constructor
  · rintro ⟨modules, directions, variants⟩
    have clear (direction : Direction) : ∀ entry ∈ document.entries, _ := fun entry here => by
      have clear := modules direction
      rw [direction_ofProtocol, modules_ofProtocol] at clear
      exact (clear_ofState_iff direction here).mp (clear _ (List.mem_map_of_mem here))
    have lowers := directions .serverbound
    rw [direction_ofProtocol, clear_direction_iff] at lowers
    obtain ⟨variants, notAll⟩ := (nodup_variantNames_iff document).mp variants
    exact ⟨fun entry here direction => (clear direction entry here).2,
      fun entry here direction => (clear direction entry here).1, lowers, variants, notAll⟩
  · rintro ⟨untaken, packets, modules, variants, notAll⟩
    refine ⟨fun direction => ?_, fun direction => ?_, (nodup_variantNames_iff document).mpr ⟨variants, notAll⟩⟩
    · rw [direction_ofProtocol, modules_ofProtocol]
      exact List.forall_mem_map.mpr fun entry here =>
        (clear_ofState_iff direction here).mpr ⟨packets entry here direction, untaken entry here direction⟩
    · rw [direction_ofProtocol, clear_direction_iff]
      exact modules

/-- The names in the sources of a text are clear exactly if the names of the document make different ones, of
which none is one that the sources use. -/
theorem namesClear_iff_free (generator text : String) (made : List GeneratedFile)
    (generated : generate generator text = .ok made) :
    ∃ document sources, ConnectionDefinition.readDocument text = .ok document ∧
      FilesHold generator made sources ∧ (NamesClear sources ↔ NamesFree document) := by
  obtain ⟨document, parsed, _, holds⟩ := exists_of_generate generated
  exact ⟨document, _, parsed, holds, namesClear_ofProtocol_iff document⟩

/-- A state and packets whose names come close to those that the sources use. -/
def clearSample : String :=
  "\x7b\"ALL\": \x7b\"id\": 0, \"SERVERBOUND\": [\x7b\"name\": \"ServerboundPackets\", \"id\": 0\x7d]\x7d\x7d"

/-- A packet whose name less its direction is that of the trait of all packets. -/
def hidingSample : String :=
  "\x7b\"PLAY\":\x7b\"id\":0,\"SERVERBOUND\":[\x7b\"name\":\"ServerboundPacket\",\"id\":0\x7d]\x7d\x7d"

theorem entries_of_readDocument {text : String} {written : List (String × ConnectionDefinition)}
    (parsed : ConnectionDefinition.readEntries text = .ok written)
    (distinct : (written.map Prod.fst).Nodup)
    (reads : ConnectionDefinition.readDocument text = .ok document) : document.entries = written := by
  rw [ConnectionDefinition.readDocument, parsed] at reads
  cases reads
  exact Document.entries_ofEntries_eq_iff.mpr distinct

theorem namesClear_iff_free_sample :
    ∃ made, generate "generator" clearSample = .ok made ∧
      ∃ sources, FilesHold "generator" made sources ∧ NamesClear sources := by
  have accepted : Protocol.read clearSample =
      .ok ⟨[⟨"ALL", "all", "All", 0, [⟨"ServerboundPackets", "Packets", 0⟩], []⟩]⟩ :=
    eq_ok_of_toOption (by decide +kernel)
  have parsed : ConnectionDefinition.readEntries clearSample =
      .ok [("ALL", ⟨0, [⟨"ServerboundPackets", 0⟩], []⟩)] := eq_ok_of_toOption (by decide +kernel)
  have generated : generate "generator" clearSample = .ok (files "generator" _) :=
    bind_eq_ok_iff.mpr ⟨_, accepted, rfl⟩
  obtain ⟨document, sources, reads, holds, clear⟩ :=
    namesClear_iff_free "generator" clearSample _ generated
  refine ⟨_, generated, sources, holds, clear.mpr ?_⟩
  have entries := entries_of_readDocument parsed (by decide) reads
  refine ⟨?_, ?_, ?_, ?_, ?_⟩
  · rw [entries]
    intro entry here direction packet listed
    rw [List.mem_singleton.mp here] at listed
    cases direction with
    | serverbound =>
      rw [List.mem_singleton.mp listed]
      decide +kernel
    | clientbound => cases listed
  · rw [entries]
    intro entry here direction
    rw [List.mem_singleton.mp here]
    cases direction with
    | serverbound => exact List.nodup_singleton _
    | clientbound => exact List.nodup_nil
  · rw [entries]
    exact List.nodup_singleton _
  · rw [entries]
    exact List.nodup_singleton _
  · rw [entries]
    intro entry here
    rw [List.mem_singleton.mp here]
    decide +kernel

/-- A packet type can hide the trait that it implements. -/
theorem packet_type_hides_trait :
    ¬ ∀ generator text made sources, generate generator text = .ok made →
      FilesHold generator made sources → NamesClear sources := by
  intro every
  have accepted : Protocol.read hidingSample =
      .ok ⟨[⟨"PLAY", "play", "Play", 0, [⟨"ServerboundPacket", "Packet", 0⟩], []⟩]⟩ :=
    eq_ok_of_toOption (by decide +kernel)
  have parsed : ConnectionDefinition.readEntries hidingSample =
      .ok [("PLAY", ⟨0, [⟨"ServerboundPacket", 0⟩], []⟩)] := eq_ok_of_toOption (by decide +kernel)
  have generated : generate "generator" hidingSample = .ok (files "generator" _) :=
    bind_eq_ok_iff.mpr ⟨_, accepted, rfl⟩
  obtain ⟨document, reads, _, holds⟩ := exists_of_generate generated
  have entries := entries_of_readDocument parsed (by decide) reads
  have untaken := ((namesClear_ofProtocol_iff document).mp (every _ _ _ _ generated holds)).untaken
  rw [entries] at untaken
  have taken : Protocol.structName .serverbound "ServerboundPacket" ∈ takenNames := by decide +kernel
  exact untaken _ List.mem_cons_self .serverbound _ List.mem_cons_self _ taken rfl

end GameTables.PacketSource
