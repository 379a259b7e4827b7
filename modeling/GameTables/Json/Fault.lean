import GameTables.Decimal.Shortest
import GameTables.Text.Quote

/-!
# Faults of a document

Why a JSON text was refused, and where. Reading goes through the text once, so a document has one
fault: the first in the order of the text, whether the text is no JSON or its content is not what
the reader expects. Columns count bytes.
-/

namespace GameTables.Json

/-- What was found where something else was expected. -/
inductive Found where
  | boolean (b : Bool)
  | integer (n : Int)
  | float (f : Float)
  | string (s : String)
  | null
  | sequence
  | map

inductive Reason where
  | endOfString
  | endOfValue
  | endOfList
  | endOfObject
  | expectedValue
  | expectedColon
  | expectedListCommaOrEnd
  | expectedObjectCommaOrEnd
  | expectedWord
  | keyNotString
  | trailingComma
  | trailingCharacters
  | invalidNumber
  | numberOutOfRange
  | invalidEscape
  | loneSurrogate
  | unfinishedSurrogate
  | controlCharacter
  | nestedTooDeeply
  /-- A value of another type than the one expected. -/
  | wrongType (found : Found) (expected : String)
  /-- An integer beyond the limits of the type expected. -/
  | wrongValue (n : Int) (expected : String)
  | missingField (name : String)
  | repeatedField (name : String)
  /-- An array in the place of a record ends before the field with this index. -/
  | tooFewFields (index : Nat) (record : String) (fields : Nat)
  /-- A value that is none of the alternatives of a choice. -/
  | noAlternative (choice : String)

/-- A reason with the line and the column it was found at. -/
structure Fault where
  reason : Reason
  line : Nat
  column : Nat

def Found.describe : Found → String
  | .boolean b => s!"boolean `{b}`"
  | .integer n => s!"integer `{n}`"
  | .float f => "floating point `" ++ Decimal.render f ++ "`"
  | .string s => "string " ++ Text.shown s
  | .null => "null"
  | .sequence => "sequence"
  | .map => "map"

def Reason.describe : Reason → String
  | .endOfString => "EOF while parsing a string"
  | .endOfValue => "EOF while parsing a value"
  | .endOfList => "EOF while parsing a list"
  | .endOfObject => "EOF while parsing an object"
  | .expectedValue => "expected value"
  | .expectedColon => "expected `:`"
  | .expectedListCommaOrEnd => "expected `,` or `]`"
  | .expectedObjectCommaOrEnd => "expected `,` or `\x7d`"
  | .expectedWord => "expected ident"
  | .keyNotString => "key must be a string"
  | .trailingComma => "trailing comma"
  | .trailingCharacters => "trailing characters"
  | .invalidNumber => "invalid number"
  | .numberOutOfRange => "number out of range"
  | .invalidEscape => "invalid escape"
  | .loneSurrogate => "lone leading surrogate in hex escape"
  | .unfinishedSurrogate => "unexpected end of hex escape"
  | .controlCharacter => "control character (\\u0000-\\u001F) found while parsing a string"
  | .nestedTooDeeply => "recursion limit exceeded"
  | .wrongType found expected => s!"invalid type: {found.describe}, expected {expected}"
  | .wrongValue n expected => s!"invalid value: integer `{n}`, expected {expected}"
  | .missingField name => s!"missing field `{name}`"
  | .repeatedField name => s!"duplicate field `{name}`"
  | .tooFewFields index record fields =>
    s!"invalid length {index}, expected struct {record} with {fields} "
      ++ (if fields = 1 then "element" else "elements")
  | .noAlternative choice => s!"data did not match any variant of untagged enum {choice}"

def Fault.message (fault : Fault) : String :=
  s!"{fault.reason.describe} at line {fault.line} column {fault.column}"

end GameTables.Json
