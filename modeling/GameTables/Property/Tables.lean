import GameTables.Offsets
import GameTables.Property.Registry

/-!
# Property tables

The registry as flat tables: a word, a name and a key for each property, and one list of all named
values, in which the word of a property says where its own begin.
-/

namespace GameTables

structure PropertyTables where
  words : List PropertyWord
  names : List String
  keys : List String
  /-- The values of all properties with named values, in the order of the ids. -/
  values : List String
  deriving DecidableEq, Repr

namespace PropertyTables

def empty : PropertyTables := ⟨[], [], [], []⟩

/-- The largest number of named values of all properties together. -/
def maxValues : Nat := 255

/-- The word of a property whose named values begin at an offset, if they fit. -/
def word (property : Property) (offset : Nat) : Except TableError PropertyWord :=
  let total := offset + property.domain.names.length
  if property.domain.kind = .named ∧ maxValues < total then
    .error (.tooManyEnumValues property.name total)
  else
    .ok (.pack property.domain.kind (UInt8.ofNat property.domain.size) (UInt8.ofNat offset))

/-- Lays out the tables of a registry. -/
def ofRegistry (registry : Registry) : Except TableError PropertyTables := do
  let properties := registry.properties
  let begins := offsets 0 (properties.map (·.domain.names.length))
  let words ← (properties.zip begins).mapM fun (property, offset) => word property offset
  return {
    words
    names := properties.map (·.name)
    keys := properties.map (·.key)
    values := properties.flatMap (·.domain.names) }

end PropertyTables

end GameTables
