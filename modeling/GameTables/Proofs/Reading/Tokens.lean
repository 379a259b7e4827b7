import GameTables.Proofs.Reading.Digits
import GameTables.Text.Layout
import GameTables.Text.Quote

/-!
# Tokens of source text

A reader of source text that takes one character at a time. White space, line breaks and comments
stand between tokens and are none themselves, and in a string literal what was escaped is put back.
What was read is the same however the text is cut into pieces.
-/

namespace GameTables.Reading

inductive Token where
  /-- A name, a keyword or a number. -/
  | word (letters : List Char)
  | mark (c : Char)
  /-- The characters that a string literal stands for. -/
  | text (content : List Char)
  deriving DecidableEq, Repr

/-- What the characters read last have begun. A mode within a literal holds its characters so far. -/
inductive Mode where
  | between
  | word (letters : List Char)
  | slash
  | comment
  | text (content : List Char)
  | escape (content : List Char)
  /-- Behind `\x`, before the first digit. -/
  | byte (content : List Char)
  | secondDigit (content : List Char) (first : Nat)
  /-- Behind `\u`. -/
  | brace (content : List Char)
  | codePoint (content : List Char) (value : Nat)
  | failed
  deriving DecidableEq, Repr

def isWordChar (c : Char) : Bool := c.isAlphanum || c = '_'

/-- Reads a character that is not part of what stands before it. -/
def begin (c : Char) : Mode × List Token :=
  if isWordChar c then (.word [c], [])
  else if c.isWhitespace then (.between, [])
  else if c = '"' then (.text [], [])
  else if c = '/' then (.slash, [])
  else (.between, [.mark c])

/-- Reads a character that ends a token. -/
def ending (token : Token) (c : Char) : Mode × List Token :=
  ((begin c).1, token :: (begin c).2)

/-- What one character behind a backslash stands for. -/
def unescape? (c : Char) : Option Char :=
  if c = '0' then some '\x00'
  else if c = 't' then some '\t'
  else if c = 'r' then some '\r'
  else if c = 'n' then some '\n'
  else if c = '"' ∨ c = '\'' ∨ c = '\\' then some c
  else none

/-- Puts the character with a code point, if there is one, behind those of a literal. -/
def put (content : List Char) (value : Nat) : Mode :=
  if value.isValidChar then .text (content ++ [Char.ofNat value]) else .failed

/-- Reads one character: the mode behind it, and the token that it ends, if any. -/
def step : Mode → Char → Mode × List Token
  | .between, c => begin c
  | .word letters, c => if isWordChar c then (.word (letters ++ [c]), []) else ending (.word letters) c
  | .slash, c => if c = '/' then (.comment, []) else ending (.mark '/') c
  | .comment, c => (if c = '\n' then .between else .comment, [])
  | .text content, c =>
    if c = '"' then (.between, [.text content])
    else (if c = '\\' then .escape content else .text (content ++ [c]), [])
  | .escape content, c =>
    if c = 'x' then (.byte content, [])
    else if c = 'u' then (.brace content, [])
    else ((unescape? c).elim .failed fun plain => .text (content ++ [plain]), [])
  | .byte content, c => ((digit? 8 c).elim .failed (.secondDigit content), [])
  | .secondDigit content first, c =>
    ((digit? 16 c).elim .failed fun second => put content (16 * first + second), [])
  | .brace content, c => (if c = '\x7b' then .codePoint content 0 else .failed, [])
  | .codePoint content value, c =>
    (if c = '\x7d' then put content value
      else (digit? 16 c).elim .failed fun digit => .codePoint content (16 * value + digit), [])
  | .failed, _ => (.failed, [])

/-- Reads characters: the mode behind them and the tokens that ended. -/
def run (mode : Mode) : List Char → Mode × List Token
  | [] => (mode, [])
  | c :: rest => ((run (step mode c).1 rest).1, (step mode c).2 ++ (run (step mode c).1 rest).2)

/-- The tokens of a text. -/
def tokens? (text : String) : Option (List Token) :=
  match run .between text.toList with
  | (.between, tokens) => some tokens
  | _ => none

/-- A text holds some tokens and does not begin another. -/
def Lexes (text : String) (tokens : List Token) : Prop :=
  run .between text.toList = (.between, tokens)

theorem run_append (mode : Mode) (first second : List Char) :
    run mode (first ++ second) =
      ((run (run mode first).1 second).1, (run mode first).2 ++ (run (run mode first).1 second).2) := by
  induction first generalizing mode with
  | nil => rfl
  | cons c rest ih => simp [run, ih, List.append_assoc]

theorem run_append_of_eq {mode next last : Mode} {first second : List Char} {tokens others : List Token}
    (begun : run mode first = (next, tokens)) (ended : run next second = (last, others)) :
    run mode (first ++ second) = (last, tokens ++ others) := by
  rw [run_append, begun, ended]

namespace Lexes

variable {text other : String} {tokens others : List Token}

theorem append (first : Lexes text tokens) (second : Lexes other others) :
    Lexes (text ++ other) (tokens ++ others) := by
  unfold Lexes
  rw [String.toList_append]
  exact run_append_of_eq first second

theorem tokens?_eq (lexes : Lexes text tokens) : tokens? text = some tokens := by
  rw [tokens?, show run .between text.toList = _ from lexes]

theorem empty : Lexes "" [] := rfl

theorem newline : Lexes "\n" [] := rfl

theorem space : Lexes " " [] := rfl

theorem spaces (count : Nat) : Lexes (String.ofList (List.replicate count ' ')) [] := by
  unfold Lexes
  rw [String.toList_ofList]
  induction count with
  | zero => rfl
  | succ count ih => simp [List.replicate_succ, run, show step .between ' ' = (.between, []) from rfl, ih]

/-- Indentation does not count. -/
theorem indent (lexes : Lexes text tokens) (level : Nat) : Lexes (Text.indent level text) tokens :=
  (spaces _).append lexes

end Lexes

/-! ## Literals -/

theorem put_toNat (content : List Char) (c : Char) : put content c.toNat = .text (content ++ [c]) := by
  have valid : c.toNat.isValidChar := c.valid
  rw [put, if_pos valid, Char.ofNat_toNat]

theorem run_hexDigits (content : List Char) (n : Nat) :
    run (.codePoint content 0) (Text.hexDigits n) = (.codePoint content n, []) := by
  have step_digit (value d : Nat) (below : d < 16) :
      run (.codePoint content value) [Nat.digitChar d] = (.codePoint content (16 * value + d), []) := by
    have other : Nat.digitChar d ≠ '\x7d' := by
      intro same
      have value := digit?_digitChar below (Nat.le_refl 16)
      rw [same] at value
      contradiction
    simp [run, step, other, digit?_digitChar below]
  have large : 1 < 16 := by decide
  refine toDigits_induction
    (motive := fun n digits => run (.codePoint content 0) digits = (.codePoint content n, []))
    large ?_ ?_ n
  · intro d below
    simpa using step_digit 0 d below
  · intro n d digits below stands
    exact run_append_of_eq stands (step_digit n d below)

/-- What stands for a character in a literal is read as the character. -/
theorem run_escapeChar (content : List Char) {c : Char} (nonzero : c ≠ '\x00') :
    run (.text content) (Text.escapeChar c) = (.text (content ++ [c]), []) := by
  unfold Text.escapeChar
  by_cases tab : c = '\t'
  · subst tab
    rfl
  by_cases back : c = '\r'
  · subst back
    rfl
  by_cases line : c = '\n'
  · subst line
    rfl
  by_cases quote : c = '"'
  · subst quote
    rfl
  by_cases slash : c = '\\'
  · subst slash
    rfl
  simp only [tab, back, line, quote, slash, if_false]
  by_cases visible : Unicode.isVisible c
  · simp [visible, run, step, quote, slash]
  · rw [if_neg visible]
    have opened : run (.text content) ['\\', 'u', '\x7b'] = (.codePoint content 0, []) := rfl
    have closed : run (.codePoint content c.toNat) ['\x7d'] = (.text (content ++ [c]), []) := by
      simp [run, step, put_toNat]
    exact run_append_of_eq (run_append_of_eq opened (run_hexDigits content c.toNat)) closed

/-- The zero character is read back whether or not a digit follows. -/
theorem run_escapeZero (content rest : List Char) :
    run (.text content) (Text.escapeZero rest) = (.text (content ++ ['\x00']), []) := by
  unfold Text.escapeZero
  split
  · rfl
  · split <;> rfl

theorem run_literalBody (content chars : List Char) :
    run (.text content) (Text.literalBody chars) = (.text (content ++ chars), []) := by
  induction chars generalizing content with
  | nil => simp [Text.literalBody, run]
  | cons c rest ih =>
    have first : run (.text content) (if c = '\x00' then Text.escapeZero rest else Text.escapeChar c) =
        (.text (content ++ [c]), []) := by
      by_cases zero : c = '\x00'
      · subst zero
        exact run_escapeZero content rest
      · rw [if_neg zero]
        exact run_escapeChar content zero
    rw [List.append_cons]
    exact run_append_of_eq first (ih _)

/-- A literal is read as the text it was written for, whatever its characters. -/
theorem lexes_literal (text : String) : Lexes (Text.literal text) [.text text.toList] := by
  unfold Lexes Text.literal
  rw [String.toList_ofList]
  have opened : run .between ['"'] = (.text [], []) := rfl
  have closed : run (.text text.toList) ['"'] = (.between, [.text text.toList]) := rfl
  exact run_append_of_eq opened (run_append_of_eq (run_literalBody [] _) closed)

/-! ## Comments and words -/

theorem run_comment (chars : List Char) (short : '\n' ∉ chars) : run .comment chars = (.comment, []) := by
  induction chars with
  | nil => rfl
  | cons c rest ih =>
    have other : '\n' ≠ c := fun same => short (same ▸ List.mem_cons_self ..)
    have others : '\n' ∉ rest := fun member => short (List.mem_cons_of_mem _ member)
    simp [run, step, Ne.symm other, ih others]

theorem run_word (begun letters : List Char) (all : ∀ c ∈ letters, isWordChar c) :
    run (.word begun) letters = (.word (begun ++ letters), []) := by
  induction letters generalizing begun with
  | nil => simp [run]
  | cons c rest ih =>
    have first : step (.word begun) c = (.word (begun ++ [c]), []) := by
      simp [step, all c (List.mem_cons_self ..)]
    have others := ih (begun ++ [c]) fun c member => all c (List.mem_cons_of_mem _ member)
    simp [run, first, others]

/-- A text begins with a character that ends a word. -/
def Apart (text : String) : Prop :=
  text.toList.head?.any fun c => !isWordChar c

instance (text : String) : Decidable (Apart text) := inferInstanceAs (Decidable (_ = true))

theorem apart_append {text : String} (apart : Apart text) (rest : String) : Apart (text ++ rest) := by
  obtain ⟨c, at_head, other⟩ := (Option.any_eq_true _ _).mp apart
  obtain ⟨others, shape⟩ := List.head?_eq_some_iff.mp at_head
  simp only [Apart, String.toList_append, shape, List.cons_append, List.head?_cons]
  exact other

/-- A word is read as one token when what follows it is not part of it. -/
theorem lexes_word {letters : List Char} {text : String} {tokens : List Token} (nonempty : letters ≠ [])
    (all : ∀ c ∈ letters, isWordChar c) (apart : Apart text) (lexes : Lexes text tokens) :
    Lexes (String.ofList letters ++ text) (.word letters :: tokens) := by
  obtain ⟨first, others, rfl⟩ := List.exists_cons_of_ne_nil nonempty
  obtain ⟨c, at_head, other⟩ := (Option.any_eq_true _ _).mp apart
  obtain ⟨rest, shape⟩ := List.head?_eq_some_iff.mp at_head
  unfold Lexes at lexes ⊢
  rw [shape] at lexes
  have opened : begin first = (.word [first], []) := by
    simp [begin, all first (List.mem_cons_self ..)]
  have word := run_word [first] others fun c member => all c (List.mem_cons_of_mem _ member)
  have closed : run (.word (first :: others)) (c :: rest) = (.between, .word (first :: others) :: tokens) := by
    simp only [run, step, Prod.mk.injEq] at lexes
    simp only [Bool.not_eq_true'] at other
    simp [run, step, other, ending, lexes.1, ← lexes.2]
  rw [String.toList_append, String.toList_ofList, shape]
  have through : run .between (first :: others) = (.word (first :: others), []) := by
    simp [run, step, opened, word]
  exact run_append_of_eq through closed

/-- A text is read as some tokens wherever what follows is no part of a word. -/
def ReadsAs (text : String) (tokens : List Token) : Prop :=
  ∀ {behind : String} {others : List Token}, Apart behind → Lexes behind others →
    Lexes (text ++ behind) (tokens ++ others)

theorem Lexes.readsAs {text : String} {tokens : List Token} (lexes : Lexes text tokens) :
    ReadsAs text tokens :=
  fun _ behind => lexes.append behind

theorem ReadsAs.behind {before text : String} {first tokens : List Token} (reads : ReadsAs text tokens)
    (begun : Lexes before first) : ReadsAs (before ++ text) (first ++ tokens) := by
  intro behind others apart ended
  rw [String.append_assoc, List.append_assoc]
  exact begun.append (reads apart ended)

theorem isWordChar_digits {base : Nat} (large : 1 < base) (small : base ≤ 16) (n : Nat) :
    ∀ c ∈ Nat.toDigits base n, isWordChar c := by
  have digit (d : Nat) (below : d < base) : isWordChar (Nat.digitChar d) := by
    have all : ∀ d : Fin 16, isWordChar (Nat.digitChar d) := by decide
    exact all ⟨d, by omega⟩
  refine toDigits_induction (motive := fun _ digits => ∀ c ∈ digits, isWordChar c) large ?_ ?_ n
  · intro d below
    simpa using digit d below
  · intro n d digits below all c member
    rcases List.mem_append.mp member with front | back
    · exact all c front
    · rw [List.mem_singleton.mp back]
      exact digit d below

end GameTables.Reading
