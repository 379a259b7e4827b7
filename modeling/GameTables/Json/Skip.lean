import GameTables.Json.Scalar

/-!
# Values that nobody asks for

The value of an unknown field is passed over. It has to be JSON, but with looser rules than a value
that is read: brackets may nest to any depth, numbers may be out of range and the halves of
surrogate pairs may stand alone.
-/

namespace GameTables.Json

/-- Passes a string from behind its opening quote. The list bounds the recursion: it is at least as
long as the rest of the text. -/
def skipStringFrom : List Char → ReadM Unit
  | [] => failHere .endOfString
  | _ :: bound => do
    match ← peek with
    | none => failHere .endOfString
    | some '"' => advance
    | some '\\' =>
      advance
      match ← peek with
      | none => failHere .endOfString
      | some 'u' =>
        advance
        discard hexEscape
        skipStringFrom bound
      | some c =>
        if (escapeLetter? c).isNone then failNext .invalidEscape
        else
          advance
          skipStringFrom bound
    | some c =>
      if c.toNat < 0x20 then failHere .controlCharacter
      else
        advance
        skipStringFrom bound

def skipString : ReadM Unit := do
  advance
  skipStringFrom (← get).rest

def skipExponent : ReadM Unit := do
  advance
  let sign ← peek
  if sign = some '-' ∨ sign = some '+' then advance
  if (← digits) = [] then failNext .invalidNumber

def skipNumber : ReadM Unit := do
  if (← peek) = some '-' then advance
  match ← peek with
  | some '0' =>
    advance
    match ← peek with
    | some d => if d.isDigit then failNext .invalidNumber
    | none => pure ()
  | _ => if (← digits) = [] then failNext .invalidNumber
  match ← peek with
  | some '.' =>
    advance
    if (← digits) = [] then failNext .invalidNumber
    match ← peek with
    | some 'e' | some 'E' => skipExponent
    | _ => pure ()
  | some 'e' | some 'E' => skipExponent
  | _ => pure ()

/-- A bracket that is open. -/
inductive Bracket where
  | square
  | curly
  deriving DecidableEq

def Bracket.closing : Bracket → Char
  | .square => ']'
  | .curly => '}'

/-- Passes a key and its colon. -/
def skipKey : ReadM Unit := do
  match ← peekToken with
  | some '"' => skipString
  | some _ => failNext .keyNotString
  | none => failNext .endOfObject
  match ← peekToken with
  | some ':' => advance
  | some _ => failNext .expectedColon
  | none => failNext .endOfObject

/-- Passes what comes between the brackets that are open, innermost first: the rest of a value when
one is `due`, and the rest behind a value otherwise. The list bounds the recursion: every round
passes a character of the text. -/
def skipInside (due : Bool) (stack : List Bracket) : List Char → ReadM Unit
  | [] =>
    match due, stack with
    | true, _ => failNext .endOfValue
    | false, [] => return
    | false, .square :: _ => failNext .endOfList
    | false, .curly :: _ => failNext .endOfObject
  | _ :: bound => do
    match due, stack with
    | false, [] => return
    | false, bracket :: outer =>
      match ← peekToken with
      | none => failNext (match bracket with | .square => .endOfList | .curly => .endOfObject)
      | some ',' =>
        advance
        if bracket = .curly then skipKey
        skipInside true stack bound
      | some c =>
        if c = bracket.closing then
          advance
          skipInside false outer bound
        else failNext (match bracket with
          | .square => .expectedListCommaOrEnd
          | .curly => .expectedObjectCommaOrEnd)
    | true, _ =>
      match ← peekValue with
      | 'n' => advance; finishWord ['u', 'l', 'l']; skipInside false stack bound
      | 't' => advance; finishWord ['r', 'u', 'e']; skipInside false stack bound
      | 'f' => advance; finishWord ['a', 'l', 's', 'e']; skipInside false stack bound
      | '"' => skipString; skipInside false stack bound
      | '[' => advance; skipOpened .square stack bound
      | '{' => advance; skipOpened .curly stack bound
      | c =>
        if c = '-' ∨ c.isDigit then
          skipNumber
          skipInside false stack bound
        else failNext .expectedValue
where
  /-- Goes on behind a bracket that was just opened. -/
  skipOpened (bracket : Bracket) (stack : List Bracket) (bound : List Char) : ReadM Unit := do
    match ← peekToken with
    | none => failNext (match bracket with | .square => .endOfList | .curly => .endOfObject)
    | some c =>
      if c = bracket.closing then
        advance
        skipInside false stack bound
      else
        if bracket = .curly then skipKey
        skipInside true (bracket :: stack) bound

/-- Passes a value. -/
def skipValue : ReadM Unit := do
  skipInside true [] (← get).rest

end GameTables.Json
