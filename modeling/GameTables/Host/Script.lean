import GameTables.Bytes

/-!
# Shell scripts

The part of the shell language that wrapped commands are written in: simple commands with words,
quotes, parameters and redirections, joined by `;`, `&&` and `||`. A script is a sequence of bytes;
each byte is read as the character with its number. Only the shell of the host reads scripts; to the gate
a script is an argument of its command.
-/

namespace GameTables.Script

/-- A piece of a word. What is quoted is not split into fields. -/
inductive Piece where
  | text (characters : List Char) (quoted : Bool)
  | parameter (name : List Char) (quoted : Bool)
  deriving DecidableEq, Repr

abbrev Word := List Piece

/-- Where a redirection leads. -/
inductive Redirection where
  | input (file : Word)
  | replace (stream : Nat) (file : Word)
  | append (stream : Nat) (file : Word)
  /-- One stream goes where another one goes. -/
  | same (stream other : Nat)
  deriving DecidableEq, Repr

/-- When a command is run, given whether the one before it succeeded. -/
inductive Condition where
  | always
  | onSuccess
  | onFailure
  deriving DecidableEq, Repr

structure Simple where
  condition : Condition
  words : List Word
  redirections : List Redirection
  deriving DecidableEq, Repr

inductive Token where
  | word (word : Word)
  /-- A word of one digit just before a redirection. -/
  | stream (number : Nat)
  | operator (text : String)
  deriving DecidableEq, Repr

def apostrophe : Char := Char.ofNat 39

/-- The characters that a backslash quotes between double quotes. -/
def special : List Char := ['$', '"', '\\', Char.ofNat 96]

def isNameChar (c : Char) : Bool := c.isAlphanum || c == '_'

/-! ## Tokens -/

inductive Quote where
  | none
  | single
  | double
  deriving DecidableEq, Repr

/-- The token that a finished word makes, if a word was begun. -/
def finish (word : Option Word) : List Token :=
  match word with
  | .none => []
  | .some pieces => [.word pieces]

/-- The tokens before a redirection: a word of one digit is the number of a stream. -/
def finishStream (word : Option Word) : List Token :=
  match word with
  | .some [.text [c] false] => if c.isDigit then [.stream (c.toNat - 48)] else finish word
  | _ => finish word

def extend (word : Option Word) (piece : Piece) : Option Word :=
  match word, piece with
  | .some [.text before false], .text more false => .some [.text (before ++ more) false]
  | _, _ => .some (word.getD [] ++ [piece])

/-- Reads tokens, `word` being the word that was begun. -/
def scan (word : Option Word) (quote : Quote) : List Char → Option (List Token)
  | [] => if quote = .none then some (finish word) else none
  | c :: rest =>
    match quote with
    | .single =>
      if c = apostrophe then scan word .none rest
      else scan (extend word (.text [c] true)) .single rest
    | quote =>
      if c = '$' then parameter word quote rest
      else if c = '"' then
        if quote = .double then scan word .none rest
        else scan (extend word (.text [] true)) .double rest
      else if c = '\\' then
        match rest with
        | [] => scan (extend word (.text ['\\'] true)) quote []
        | d :: rest =>
          if quote = .double ∧ !special.contains d then
            scan (extend word (.text ['\\', d] true)) quote rest
          else scan (extend word (.text [d] true)) quote rest
      else if quote = .double then scan (extend word (.text [c] true)) .double rest
      else if c = apostrophe then scan (extend word (.text [] true)) .single rest
      else if c = ' ' ∨ c = '\t' then (finish word ++ ·) <$> scan none .none rest
      else if c = '\n' ∨ c = ';' then (finish word ++ .operator ";" :: ·) <$> scan none .none rest
      else if c = '&' ∨ c = '|' then
        match rest with
        | d :: rest =>
          if d = c then
            (finish word ++ .operator (String.ofList [c, c]) :: ·) <$> scan none .none rest
          else none
        | [] => none
      else if c = '<' then (finishStream word ++ .operator "<" :: ·) <$> scan none .none rest
      else if c = '>' then
        match rest with
        | '>' :: rest => (finishStream word ++ .operator ">>" :: ·) <$> scan none .none rest
        | '&' :: rest => (finishStream word ++ .operator ">&" :: ·) <$> scan none .none rest
        | rest => (finishStream word ++ .operator ">" :: ·) <$> scan none .none rest
      else scan (extend word (.text [c] false)) .none rest
  termination_by text => (text.length, 0)
where
  /-- Reads a parameter behind its dollar sign. -/
  parameter (word : Option Word) (quote : Quote) (text : List Char) : Option (List Token) :=
    let quoted := quote == .double
    match text with
    | '{' :: rest =>
      let name := rest.takeWhile (· ≠ '}')
      scan (extend word (.parameter name quoted)) quote (rest.drop (name.length + 1))
    | c :: rest =>
      if c.isDigit ∨ ['@', '*', '#', '?', '$', '!', '-'].contains c then
        scan (extend word (.parameter [c] quoted)) quote rest
      else if isNameChar c then
        let name := rest.takeWhile isNameChar
        scan (extend word (.parameter (c :: name) quoted)) quote (rest.drop name.length)
      else scan (extend word (.text ['$'] quoted)) quote (c :: rest)
    | [] => scan (extend word (.text ['$'] quoted)) quote []
  termination_by (text.length, 1)

/-! ## Commands -/

/-- Reads a redirection from the tokens behind its operator. -/
def redirection? (stream : Option Nat) (operator : String) (target : Word) : Option Redirection :=
  match operator, target with
  | "<", file => some (.input file)
  | ">", file => some (.replace (stream.getD 1) file)
  | ">>", file => some (.append (stream.getD 1) file)
  | ">&", [.text [c] false] =>
    if c.isDigit then some (.same (stream.getD 1) (c.toNat - 48)) else none
  | _, _ => none

/-- Groups tokens into simple commands, `command` being the one that was begun. -/
def group (command : Simple) : List Token → Option (List Simple)
  | [] => some [command]
  | .word word :: rest => group { command with words := command.words ++ [word] } rest
  | .operator ";" :: rest => (command :: ·) <$> group ⟨.always, [], []⟩ rest
  | .operator "&&" :: rest => (command :: ·) <$> group ⟨.onSuccess, [], []⟩ rest
  | .operator "||" :: rest => (command :: ·) <$> group ⟨.onFailure, [], []⟩ rest
  | .operator operator :: .word target :: rest => do
    let redirection ← redirection? none operator target
    group { command with redirections := command.redirections ++ [redirection] } rest
  | .stream number :: .operator operator :: .word target :: rest => do
    let redirection ← redirection? (some number) operator target
    group { command with redirections := command.redirections ++ [redirection] } rest
  | _ => none

/-- The commands of a script, if it belongs to this part of the language. -/
def parse (script : Bytes) : Option (List Simple) := do
  let tokens ← scan none .none (script.map fun b => Char.ofNat b.toNat)
  group ⟨.always, [], []⟩ tokens

end GameTables.Script
