import GameTables.Bytes
import GameTables.Unicode.Visible

/-!
# Quoted text

Two ways to write text between quotes. A *literal* is what the generated source holds: it can be
read back. *Shown* text is what messages hold: it is the same but for the zero character, and bytes
that belong to no character are shown in hexadecimal.
-/

namespace GameTables.Text

/-- A code point in lower case hexadecimal digits, without leading zeros. -/
def hexDigits (n : Nat) : List Char := Nat.toDigits 16 n

/-- A character other than the zero character as it stands between quotes: visible characters as
they are, and behind a backslash what would end the text or not be seen. -/
def escapeChar (c : Char) : List Char :=
  if c = '\t' then ['\\', 't']
  else if c = '\r' then ['\\', 'r']
  else if c = '\n' then ['\\', 'n']
  else if c = '"' then ['\\', '"']
  else if c = '\\' then ['\\', '\\']
  else if Unicode.isVisible c then [c]
  else ['\\', 'u', '\x7b'] ++ hexDigits c.toNat ++ ['\x7d']

def isOctalDigit (c : Char) : Bool :=
  '0' ≤ c && c ≤ '7'

/-- The zero character as a literal writes it: in full where an octal digit follows. -/
def escapeZero (rest : List Char) : List Char :=
  match rest with
  | [] => ['\\', '0']
  | d :: _ => if isOctalDigit d then ['\\', 'x', '0', '0'] else ['\\', '0']

/-- The characters of a literal between its quotes. -/
def literalBody : List Char → List Char
  | [] => []
  | c :: rest => (if c = '\x00' then escapeZero rest else escapeChar c) ++ literalBody rest

/-- A text as a string literal of the generated source. -/
def literal (text : String) : String :=
  String.ofList ('"' :: (literalBody text.toList ++ ['"']))

/-- A character as a message shows it. -/
def showChar (c : Char) : List Char :=
  if c = '\x00' then ['\\', '0'] else escapeChar c

/-- A text as a message shows it. -/
def shown (text : String) : String :=
  String.ofList ('"' :: (text.toList.flatMap showChar ++ ['"']))

/-- A byte in two upper case hexadecimal digits. -/
def hexByte (b : UInt8) : List Char :=
  let digit (n : Nat) : Char := if n < 10 then Char.ofNat (48 + n) else Char.ofNat (55 + n)
  [digit (b.toNat / 16), digit (b.toNat % 16)]

/-- A byte string as a message shows it. -/
def shownBytes (bytes : Bytes) : String :=
  String.ofList ('"' :: ((bytes.pieces.flatMap fun
    | .char c => showChar c
    | .broken group => group.flatMap fun b => ['\\', 'x'] ++ hexByte b) ++ ['"']))

end GameTables.Text
