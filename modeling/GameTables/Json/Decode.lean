import GameTables.Json.Skip

/-!
# Decoders

A `Decoder α` reads a value of type `α` from a text. It is told how many brackets may still be
opened inside each other. Decoders for sequences, maps and records are built from decoders for what
they hold; all of them stop at the first fault in the order of the text.
-/

namespace GameTables.Json

abbrev Decoder (α : Type) := Nat → ReadM α

/-- How many brackets may be open inside each other. -/
def maxNesting : Nat := 127

/-- Refuses a value of a type that was not expected. A scalar is read first, so that a scalar that
is no JSON is reported as such. -/
def unexpected {α : Type} (expected : String) : ReadM α := do
  let refuse (found : Found) : ReadM α := failHere (.wrongType found expected)
  match ← peekValue with
  | 'n' => advance; finishWord ['u', 'l', 'l']; refuse .null
  | 't' => advance; finishWord ['r', 'u', 'e']; refuse (.boolean true)
  | 'f' => advance; finishWord ['a', 'l', 's', 'e']; refuse (.boolean false)
  | '"' => refuse (.string (← quotedString))
  | '[' => refuse .sequence
  | '{' => refuse .map
  | c =>
    if c = '-' ∨ c.isDigit then
      match ← number with
      | .integer n => refuse (.integer n)
      | .float f => refuse (.float f)
    else failNext .expectedValue

/-! ## Scalars -/

def string : Decoder String := fun _ => do
  if (← peekValue) = '"' then quotedString else unexpected "a string"

def boolean : Decoder Bool := fun _ => do
  match ← peekValue with
  | 't' => advance; finishWord ['r', 'u', 'e']; return true
  | 'f' => advance; finishWord ['a', 'l', 's', 'e']; return false
  | _ => unexpected "a boolean"

/-- Reads an integer between two limits. -/
def integerBetween (low high : Int) (expected : String) : Decoder Int := fun _ => do
  let c ← peekValue
  if c = '-' ∨ c.isDigit then
    match ← number with
    | .integer n =>
      if low ≤ n ∧ n ≤ high then return n else failHere (.wrongValue n expected)
    | .float f => failHere (.wrongType (.float f) expected)
  else unexpected expected

/-- An unsigned integer of 64 bits. -/
def natural64 : Decoder Nat := fun room => do
  return (← integerBetween 0 maxUnsigned64 "u64" room).toNat

/-- A signed integer of 32 bits. -/
def integer32 : Decoder Int :=
  integerBetween (-maxSigned32 - 1) maxSigned32 "i32"

/-! ## Sequences and maps -/

/-- Opens a bracket and hands the remaining room to the reader of what is inside. -/
def enter {α : Type} (room : Nat) (inside : Nat → ReadM α) : ReadM α := do
  match room with
  | 0 => failNext .nestedTooDeeply
  | inner + 1 =>
    advance
    inside inner

/-- Whether another element follows in an array; the comma before it is passed. -/
def nextElement (first : Bool) : ReadM Bool := do
  match ← peekToken with
  | none => failNext .endOfList
  | some c =>
    if c = ']' then return false
    else if first then return true
    else if c = ',' then
      advance
      match ← peekToken with
      | some ']' => failNext .trailingComma
      | some _ => return true
      | none => failNext .endOfValue
    else failNext .expectedListCommaOrEnd

/-- Whether another key follows in an object; the comma before it is passed. -/
def nextKey (first : Bool) : ReadM Bool := do
  match ← peekToken with
  | none => failNext .endOfObject
  | some c =>
    if c = '}' then return false
    else if first then
      if c = '"' then return true else failNext .keyNotString
    else if c = ',' then
      advance
      match ← peekToken with
      | some '"' => return true
      | some '}' => failNext .trailingComma
      | some _ => failNext .keyNotString
      | none => failNext .endOfValue
    else failNext .expectedObjectCommaOrEnd

/-- Passes the colon behind a key. -/
def colon : ReadM Unit := do
  match ← peekToken with
  | some ':' => advance
  | some _ => failNext .expectedColon
  | none => failNext .endOfObject

/-- Reads the elements of an array and its closing bracket, `read` being the elements read so far,
last one first. The list bounds the recursion: every element passes a character of the text. -/
def elementsFrom {α : Type} (element : ReadM α) (read : List α) : List Char → ReadM (List α)
  | [] => failNext .endOfList
  | _ :: bound => do
    if ← nextElement read.isEmpty then
      let a ← element
      elementsFrom element (a :: read) bound
    else
      advance
      return read.reverse

/-- Reads the entries of an object and its closing bracket, in the same way. -/
def entriesFrom {α : Type} (element : ReadM α) (read : List (String × α)) :
    List Char → ReadM (List (String × α))
  | [] => failNext .endOfObject
  | _ :: bound => do
    if ← nextKey read.isEmpty then
      let key ← quotedString
      colon
      let a ← element
      entriesFrom element ((key, a) :: read) bound
    else
      advance
      return read.reverse

def sequence {α : Type} (element : Decoder α) : Decoder (List α) := fun room => do
  if (← peekValue) = '[' then
    enter room fun inner => do elementsFrom (element inner) [] (← get).rest
  else unexpected "a sequence"

/-- The entries of an object as they are written: names may repeat. -/
def entries {α : Type} (element : Decoder α) : Decoder (List (String × α)) := fun room => do
  if (← peekValue) = '{' then
    enter room fun inner => do entriesFrom (element inner) [] (← get).rest
  else unexpected "a map"

/-! ## Faults found inside brackets -/

/-- Stops inside an object whose content is at fault. The fault is placed after the closing bracket
when that comes next. -/
def failInObject {α : Type} (reason : Reason) : ReadM α := do
  if (← peekToken) = some '}' then advance
  failHere reason

/-- Stops inside an array whose content is at fault, in the same way. -/
def failInArray {α : Type} (reason : Reason) : ReadM α := do
  if (← peekToken) = some ']' then advance
  failHere reason

/-! ## Records -/

/-- A field of a record of type `ρ`. Reading it fills it in. -/
structure Field (ρ : Type) where
  name : String
  required : Bool
  read : ρ → Decoder ρ

/-- Shape of a record: the fields in order, and the record before any field is filled in. -/
structure Shape (ρ : Type) where
  name : String
  blank : ρ
  fields : List (Field ρ)

/-- A field that has to be there. -/
def Field.must {ρ α : Type} (name : String) (decoder : Decoder α) (put : ρ → α → ρ) : Field ρ :=
  ⟨name, true, fun record room => do return put record (← decoder room)⟩

/-- A field that may be left out. -/
def Field.may {ρ α : Type} (name : String) (decoder : Decoder α) (put : ρ → α → ρ) : Field ρ :=
  ⟨name, false, fun record room => do return put record (← decoder room)⟩

/-- Reads the fields of a record from an object, `seen` being the names of the fields read so far.
The list bounds the recursion: every field passes a character of the text. -/
def Shape.fromObject {ρ : Type} (shape : Shape ρ) (inner : Nat) (first : Bool) (seen : List String)
    (record : ρ) : List Char → ReadM ρ
  | [] => failNext .endOfObject
  | _ :: bound => do
    if ← nextKey first then
      let key ← quotedString
      match shape.fields.find? (·.name == key) with
      | none =>
        colon
        skipValue
        shape.fromObject inner false seen record bound
      | some field =>
        if seen.contains key then failInObject (.repeatedField key)
        else
          colon
          let filled ← field.read record inner
          shape.fromObject inner false (key :: seen) filled bound
    else
      match shape.fields.find? fun field => field.required && !seen.contains field.name with
      | some field => failInObject (.missingField field.name)
      | none =>
        advance
        return record

/-- Reads the fields of a record from an array that lists them in order. -/
def Shape.fromArray {ρ : Type} (shape : Shape ρ) (inner : Nat) (index : Nat) (record : ρ) :
    List (Field ρ) → ReadM ρ
  | [] => return record
  | field :: rest => do
    if ← nextElement (index == 0) then
      let filled ← field.read record inner
      shape.fromArray inner (index + 1) filled rest
    else if field.required then
      failInArray (.tooFewFields index shape.name shape.fields.length)
    else shape.fromArray inner (index + 1) record rest

/-- Passes the bracket behind an array that may hold nothing more. -/
def closeArray : ReadM Unit := do
  match ← peekToken with
  | some ']' => advance
  | some ',' =>
    advance
    if (← peekToken) = some ']' then failNext .trailingComma else failNext .trailingCharacters
  | some _ => failNext .trailingCharacters
  | none => failNext .endOfList

/-- Reads a record, from an object or from an array of its fields. -/
def Shape.decoder {ρ : Type} (shape : Shape ρ) : Decoder ρ := fun room => do
  match ← peekValue with
  | '{' => enter room fun inner => do shape.fromObject inner true [] shape.blank (← get).rest
  | '[' => enter room fun inner => do
    let record ← shape.fromArray inner 0 shape.blank shape.fields
    closeArray
    return record
  | _ => unexpected ("struct " ++ shape.name)

/-! ## Documents -/

/-- Reads a text that holds one value and blanks around it. -/
def Decoder.run {α : Type} (decoder : Decoder α) (text : String) : Except Fault α := do
  let (a, cursor) ← (decoder maxNesting).run (Cursor.start text)
  let cursor := cursor.skipBlanks
  if cursor.rest = [] then return a else .error (cursor.faultNext .trailingCharacters)

end GameTables.Json
