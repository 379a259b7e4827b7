import GameTables.Property.Definition
import GameTables.Property.Word

/-!
# Registry of properties

A checked property has a domain of one of three shapes, and an id, which is its position in the
document. The registry finds properties by name and by id.
-/

namespace GameTables

/-- The values a property can take. -/
inductive PropertyDomain where
  | named (values : List String)
  /-- The value `true` and then `false`. -/
  | boolean
  /-- The `count` integers from `first` on, which is 0 or 1. -/
  | integers (first : Fin 2) (count : Nat)
  deriving DecidableEq, Repr

namespace PropertyDomain

def kind : PropertyDomain → PropertyKind
  | named _ => .named
  | boolean => .boolean
  | integers first _ => if first = 0 then .fromZero else .fromOne

def size : PropertyDomain → Nat
  | named values => values.length
  | boolean => 2
  | integers _ count => count

/-- The names of the values, for named values. -/
def names : PropertyDomain → List String
  | named values => values
  | _ => []

/-- The largest number of values. -/
def maxSize : Nat := 31

/-- Whether integers follow each other from the given one on. -/
def runsFrom (next : Int) : List Int → Bool
  | [] => true
  | n :: rest => n == next && runsFrom (next + 1) rest

/-- Checks a list of values and finds the domain it lists. -/
def ofValues (property : String) (values : ValueList) : Except TableError PropertyDomain :=
  if values.length = 0 then .error (.emptyValues property)
  else if maxSize < values.length then .error (.tooManyValues property values.length)
  else
    match values with
    | .strings values => .ok (.named values)
    | .booleans values =>
      if values = [true, false] then .ok .boolean else .error (.booleanValues property)
    | .integers values =>
      if runsFrom 0 values then .ok (.integers 0 values.length)
      else if runsFrom 1 values then .ok (.integers 1 values.length)
      else .error (.integerRange property)

end PropertyDomain

structure Property where
  id : UInt8
  /-- The internal name, under which the document defines the property. -/
  name : String
  /-- The name used by the protocol. -/
  key : String
  domain : PropertyDomain
  deriving DecidableEq, Repr

/-- Properties in the order of their ids. -/
structure Registry where
  properties : List Property

namespace Registry

/-- The largest number of properties. -/
def maxSize : Nat := 256

/-- Checks all definitions and gives ids in the order of the document. -/
def ofDefinitions (definitions : Document PropertyDefinition) : Except TableError Registry := do
  if maxSize < definitions.size then throw (.tooManyProperties definitions.size)
  let properties ← definitions.entries.zipIdx.mapM fun ((name, definition), position) => do
    let domain ← PropertyDomain.ofValues name definition.values
    return { id := UInt8.ofNat position, name, key := definition.key, domain }
  return ⟨properties⟩

def size (registry : Registry) : Nat := registry.properties.length

def find? (registry : Registry) (name : String) : Option Property :=
  registry.properties.find? (·.name == name)

def findId? (registry : Registry) (id : UInt8) : Option Property :=
  registry.properties[id.toNat]?

end Registry

end GameTables
