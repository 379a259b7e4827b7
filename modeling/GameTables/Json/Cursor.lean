import GameTables.Json.Fault

/-!
# Reading position

A `Cursor` is the text that is still to be read together with the place it begins at. A reader
`ReadM α` takes a cursor to a value and a later cursor, or stops with a fault.
-/

namespace GameTables.Json

/-- The rest of a text, with the line it begins on and the number of bytes before it on that line. -/
structure Cursor where
  rest : List Char
  line : Nat
  column : Nat

abbrev ReadM := StateT Cursor (Except Fault)

namespace Cursor

def start (text : String) : Cursor := ⟨text.toList, 1, 0⟩

/-- Passes one character. -/
def advance (cursor : Cursor) : Cursor :=
  match cursor.rest with
  | [] => cursor
  | c :: rest =>
    if c = '\n' then ⟨rest, cursor.line + 1, 0⟩ else ⟨rest, cursor.line, cursor.column + c.utf8Size⟩

/-- The fault with a reason at the cursor. -/
def faultHere (cursor : Cursor) (reason : Reason) : Fault :=
  ⟨reason, cursor.line, cursor.column⟩

/-- The fault with a reason one byte after the cursor, or at the cursor when the text ends there. -/
def faultNext (cursor : Cursor) (reason : Reason) : Fault :=
  match cursor.rest with
  | [] => cursor.faultHere reason
  | c :: _ => if c = '\n' then ⟨reason, cursor.line + 1, 0⟩ else ⟨reason, cursor.line, cursor.column + 1⟩

/-- Passes a number of bytes, which may end inside a character; `none` if the text is shorter. -/
def skipBytes (cursor : Cursor) (bytes : Nat) : Option Cursor :=
  go cursor.rest bytes cursor
where
  go : List Char → Nat → Cursor → Option Cursor
    | _, 0, cursor => some cursor
    | [], _ + 1, _ => none
    | c :: rest, n + 1, cursor =>
      if c.utf8Size ≤ n + 1 then go rest (n + 1 - c.utf8Size) cursor.advance
      else some { cursor with column := cursor.column + (n + 1) }

/-- The end of the text. -/
def toEnd (cursor : Cursor) : Cursor :=
  cursor.rest.foldl (fun cursor _ => cursor.advance) cursor

def isBlank (c : Char) : Bool :=
  c == ' ' || c == '\n' || c == '\t' || c == '\r'

/-- Passes blanks. -/
def skipBlanks (cursor : Cursor) : Cursor :=
  go cursor.rest cursor
where
  go : List Char → Cursor → Cursor
    | [], cursor => cursor
    | c :: rest, cursor => if isBlank c then go rest cursor.advance else cursor

end Cursor

def failHere {α : Type} (reason : Reason) : ReadM α :=
  fun cursor => .error (cursor.faultHere reason)

def failNext {α : Type} (reason : Reason) : ReadM α :=
  fun cursor => .error (cursor.faultNext reason)

/-- The next character, which is not passed. -/
def peek : ReadM (Option Char) := do
  return (← get).rest.head?

/-- Passes the next character. -/
def advance : ReadM Unit :=
  modify Cursor.advance

/-- Passes blanks and looks at the character after them. -/
def peekToken : ReadM (Option Char) := do
  modify Cursor.skipBlanks
  peek

/-- The first character of a value that has to come next. -/
def peekValue : ReadM Char := do
  match ← peekToken with
  | some c => return c
  | none => failNext .endOfValue

/-- Passes the given characters, the rest of a word such as `true`. -/
def finishWord : List Char → ReadM Unit
  | [] => return
  | expected :: word => do
    match ← peek with
    | none => failHere .endOfValue
    | some c => if c = expected then advance; finishWord word else failNext .expectedWord

/-- Passes the digits that come next and gives their values. -/
def digits : ReadM (List Nat) := do
  let found := (← get).rest.takeWhile Char.isDigit
  modify fun cursor => ⟨cursor.rest.drop found.length, cursor.line, cursor.column + found.length⟩
  return found.map fun c => c.toNat - '0'.toNat

end GameTables.Json
