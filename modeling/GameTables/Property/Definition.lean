import GameTables.Document
import GameTables.Json.Value
import GameTables.TableError

/-!
# Property definitions

The document of properties: for each internal name the name used by the protocol and the list of
values. A list of values has one type, which is settled for each property on its own after the whole
text was read.
-/

namespace GameTables

/-- The values of a property as the document lists them. -/
inductive ValueList where
  | strings (values : List String)
  | booleans (values : List Bool)
  | integers (values : List Int)
  deriving DecidableEq, Repr

namespace ValueList

def length : ValueList → Nat
  | strings values => values.length
  | booleans values => values.length
  | integers values => values.length

def string? : Json.Value → Option String
  | .string s => some s
  | _ => none

def boolean? : Json.Value → Option Bool
  | .boolean b => some b
  | _ => none

/-- An integer of 64 bits with a sign. Numbers with a fraction or an exponent are none. -/
def integer? : Json.Value → Option Int
  | .number (.integer n) => if n ≤ Json.maxSigned64 then some n else none
  | _ => none

/-- The list of values that an array stands for: of strings if all elements are, also when there
are none, else of booleans or of integers. -/
def ofValue? : Json.Value → Option ValueList
  | .array elements =>
    match elements.mapM string? with
    | some values => some (.strings values)
    | none =>
      match elements.mapM boolean? with
      | some values => some (.booleans values)
      | none => (elements.mapM integer?).map .integers
  | _ => none

end ValueList

/-- A property as the document defines it. -/
structure PropertyDefinition where
  /-- The name used by the protocol. -/
  key : String
  values : ValueList
  deriving DecidableEq, Repr

/-- A property whose list of values has no type yet. -/
structure UntypedProperty where
  key : String
  values : Json.Value

namespace UntypedProperty

def shape : Json.Shape UntypedProperty where
  name := "UntypedPropertyDef"
  blank := ⟨"", .null⟩
  fields := [
    .must "key" Json.string fun property key => { property with key },
    .must "values" Json.value fun property values => { property with values }]

/-- The entries of a text, in the order they are written. -/
def readEntries (text : String) : Except Json.Fault (List (String × UntypedProperty)) :=
  (Json.entries shape.decoder).run text

/-- Settles the type of the values. -/
def typed (name : String) (property : UntypedProperty) : Except TableError PropertyDefinition :=
  match ValueList.ofValue? property.values with
  | some values => .ok ⟨property.key, values⟩
  | none => .error (.valueTypes name)

end UntypedProperty

/-- Reads the document of properties. -/
def PropertyDefinition.readDocument (text : String) :
    Except TableError (Document PropertyDefinition) :=
  match UntypedProperty.readEntries text with
  | .error fault => .error (.json .properties fault)
  | .ok written => (Document.ofEntries written).mapM UntypedProperty.typed

end GameTables
