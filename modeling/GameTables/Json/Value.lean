import GameTables.Json.Decode

/-!
# JSON values

A value of any type, for the places of a document that may hold more than one.
-/

namespace GameTables.Json

inductive Value where
  | null
  | boolean (b : Bool)
  | number (n : Number)
  | string (s : String)
  | array (elements : List Value)
  /-- The entries as they are written: names may repeat. -/
  | object (entries : List (String × Value))

/-- Reads a value, given a reader for the values inside brackets if brackets may be opened. -/
def valueWith (inside : Option (ReadM Value)) : ReadM Value := do
  match ← peekValue with
  | 'n' => advance; finishWord ['u', 'l', 'l']; return .null
  | 't' => advance; finishWord ['r', 'u', 'e']; return .boolean true
  | 'f' => advance; finishWord ['a', 'l', 's', 'e']; return .boolean false
  | '"' => return .string (← quotedString)
  | '[' =>
    match inside with
    | none => failNext .nestedTooDeeply
    | some element =>
      advance
      return .array (← elementsFrom element [] (← get).rest)
  | '{' =>
    match inside with
    | none => failNext .nestedTooDeeply
    | some element =>
      advance
      return .object (← entriesFrom element [] (← get).rest)
  | c =>
    if c = '-' ∨ c.isDigit then return .number (← number) else failNext .expectedValue

/-- Reads a value of any type. -/
def value : Decoder Value
  | 0 => valueWith none
  | room + 1 => valueWith (some (value room))

end GameTables.Json
