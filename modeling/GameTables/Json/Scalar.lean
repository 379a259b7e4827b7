import GameTables.Json.Cursor

/-!
# Strings and numbers

Readers for what stands behind an opening quote and for numbers. An integer keeps its value when it
fits 64 bits, signed or unsigned; every other number, minus zero included, becomes a float.
-/

namespace GameTables.Json

inductive Number where
  | integer (n : Int)
  | float (f : Float)

/-! ## Limits -/

/-- The largest unsigned integer of 64 bits. -/
def maxUnsigned64 : Nat := 18446744073709551615

/-- The largest signed integer of 64 bits. -/
def maxSigned64 : Nat := 9223372036854775807

/-- The largest signed integer of 32 bits. -/
def maxSigned32 : Nat := 2147483647

/-! ## Strings -/

def hexValue? (c : Char) : Option Nat :=
  if '0' ≤ c ∧ c ≤ '9' then some (c.toNat - 48)
  else if 'a' ≤ c ∧ c ≤ 'f' then some (c.toNat - 87)
  else if 'A' ≤ c ∧ c ≤ 'F' then some (c.toNat - 55)
  else none

/-- Passes the four bytes of a hexadecimal escape. -/
def hexEscape : ReadM Nat := do
  let cursor ← get
  match cursor.skipBytes 4 with
  | none =>
    set cursor.toEnd
    failHere .endOfString
  | some later =>
    set later
    match (cursor.rest.take 4).mapM hexValue? with
    | some [a, b, c, d] => return ((a * 16 + b) * 16 + c) * 16 + d
    | _ => failHere .invalidEscape

/-- The character that a letter behind a backslash stands for. -/
def escapeLetter? : Char → Option Char
  | '"' => some '"'
  | '\\' => some '\\'
  | '/' => some '/'
  | 'b' => some '\x08'
  | 'f' => some '\x0c'
  | 'n' => some '\n'
  | 'r' => some '\r'
  | 't' => some '\t'
  | _ => none

/-- Passes one character of the pair that begins the second half of a surrogate pair. -/
def surrogateMark (mark : Char) : ReadM Unit := do
  match ← peek with
  | none => failHere .endOfString
  | some c => if c = mark then advance else failNext .unfinishedSurrogate

/-- Reads an escape, from behind the backslash. -/
def escape : ReadM Char := do
  match ← peek with
  | none => failHere .endOfString
  | some 'u' =>
    advance
    let high ← hexEscape
    if 0xDC00 ≤ high ∧ high ≤ 0xDFFF then failHere .loneSurrogate
    else if 0xD800 ≤ high ∧ high ≤ 0xDBFF then
      surrogateMark '\\'
      surrogateMark 'u'
      let low ← hexEscape
      if 0xDC00 ≤ low ∧ low ≤ 0xDFFF then
        return Char.ofNat ((high - 0xD800) * 1024 + (low - 0xDC00) + 0x10000)
      else failHere .loneSurrogate
    else return Char.ofNat high
  | some c =>
    match escapeLetter? c with
    | some target => advance; return target
    | none => failNext .invalidEscape

/-- Reads a string from behind its opening quote, `read` being what was read of it, last character
first. The list bounds the recursion: it is at least as long as the rest of the text. -/
def stringFrom (read : List Char) : List Char → ReadM String
  | [] => failHere .endOfString
  | _ :: bound => do
    match ← peek with
    | none => failHere .endOfString
    | some '"' => advance; return String.ofList read.reverse
    | some '\\' =>
      advance
      let c ← escape
      stringFrom (c :: read) bound
    | some c =>
      if c.toNat < 0x20 then failNext .controlCharacter
      else
        advance
        stringFrom (c :: read) bound

/-- Reads a string, the opening quote included. -/
def quotedString : ReadM String := do
  advance
  stringFrom [] (← get).rest

/-! ## Numbers -/

/-- Appends decimal digits to a significand as long as it fits, and counts the digits left over. -/
def absorb (significand : Nat) : List Nat → Nat × Nat
  | [] => (significand, 0)
  | d :: rest =>
    if significand * 10 + d ≤ maxUnsigned64 then absorb (significand * 10 + d) rest
    else (significand, rest.length + 1)

/-- The value of the digits of an exponent, or the number of digits up to the one at which it passes
the limit. -/
def exponentOf (value : Nat) (seen : Nat) : List Nat → Nat ⊕ Nat
  | [] => .inl value
  | d :: rest =>
    if value * 10 + d ≤ maxSigned32 then exponentOf (value * 10 + d) (seen + 1) rest
    else .inr (seen + 1)

/-- Scales a float by a power of ten, in steps that a float can hold. `none` stands for a result
beyond the largest float. -/
def scaleBy (f : Float) (exponent : Int) : Option Float :=
  if exponent.natAbs ≤ 308 then
    let power := Float.ofScientific 1 false exponent.natAbs
    if 0 ≤ exponent then
      if (f * power).isInf then none else some (f * power)
    else some (f / power)
  else if f == 0.0 then some f
  else if 0 ≤ exponent then none
  else scaleBy (f / 1e308) (exponent + 308)
  termination_by exponent.natAbs
  decreasing_by omega

/-- The float with the given sign, significand and decimal exponent. -/
def floatNumber (negative : Bool) (significand : Nat) (exponent : Int) : ReadM Number := do
  match scaleBy (Float.ofNat significand) exponent with
  | some f => return .float (if negative then -f else f)
  | none => failHere .numberOutOfRange

/-- Reads the exponent of a number, from its letter on. -/
def exponentPart (negative : Bool) (significand : Nat) (exponent : Int) : ReadM Number := do
  advance
  let negativeExponent := (← peek) = some '-'
  if negativeExponent ∨ (← peek) = some '+' then advance
  let before ← get
  match ← digits with
  | [] => if before.rest = [] then failHere .endOfValue else failNext .invalidNumber
  | found =>
    match exponentOf 0 0 found with
    | .inl value =>
      floatNumber negative significand (if negativeExponent then exponent - value else exponent + value)
    | .inr passed =>
      if significand ≠ 0 ∧ ¬ negativeExponent then
        set { before with column := before.column + passed }
        failHere .numberOutOfRange
      else return .float (if negative then -0.0 else 0.0)

/-- Reads the fraction of a number, from the point on. -/
def fractionPart (negative : Bool) (significand : Nat) (exponent : Int) : ReadM Number := do
  advance
  match ← digits with
  | [] => if (← peek) = none then failHere .endOfValue else failNext .invalidNumber
  | found =>
    let (longer, dropped) := absorb significand found
    let scaled := exponent - (found.length - dropped : Nat)
    match ← peek with
    | some 'e' | some 'E' => exponentPart negative longer scaled
    | _ => floatNumber negative longer scaled

/-- Reads the digits of a number that has the given sign. -/
def unsignedNumber (negative : Bool) : ReadM Number := do
  match ← peek with
  | none => failHere .endOfValue
  | some c =>
    if ¬ c.isDigit then failNext .invalidNumber
    else
      if c = '0' then
        advance
        match ← peek with
        | some d => if d.isDigit then failNext .invalidNumber
        | none => pure ()
      let found ← if c = '0' then pure [0] else digits
      let (significand, dropped) := absorb 0 found
      match ← peek with
      | some '.' => fractionPart negative significand dropped
      | some 'e' | some 'E' => exponentPart negative significand dropped
      | _ =>
        if 0 < dropped then floatNumber negative significand dropped
        else if ¬ negative then return .integer significand
        else if significand = 0 ∨ maxSigned64 + 1 < significand then
          return .float (-(Float.ofNat significand))
        else return .integer (-significand)

/-- Reads a number. -/
def number : ReadM Number := do
  if (← peek) = some '-' then
    advance
    unsignedNumber true
  else unsignedNumber false

end GameTables.Json
