import GameTables.Proofs.Reading.Lists
import GameTables.Proofs.Reading.Names

/-!
# Readers of source text

A reader takes what it knows of from the front of the tokens of a text. It knows nothing of lines, of
indentation or of the layout of a list.
-/

namespace GameTables.Reading

open Text (joinLines indent)

variable {α β : Type}

/-- Reads something from the front of tokens and leaves the others. -/
abbrev Reader := StateT (List Token) Option

/-- Passes over the tokens of a text. -/
def expect (text : String) : Reader Unit := fun tokens => do
  let expected ← tokens? text
  return ((), ← expected.isPrefixOf? tokens)

/-- Passes over the tokens of lines. -/
def expectLines (lines : List String) : Reader Unit := expect (joinLines lines)

/-- Reads one token. -/
def one (item : Token → Option α) : Reader α
  | [] => none
  | token :: rest => do return (← item token, rest)

def decimal? : Token → Option Nat
  | .word letters => number? 10 letters
  | _ => none

def text? : Token → Option String
  | .text content => some (String.ofList content)
  | _ => none

/-- Reads a name. -/
def name : Reader String := fun tokens =>
  let (letters, rest) := spelling tokens
  if letters.isEmpty then none else some (String.ofList letters, rest)

/-- Reads what stands between two texts. -/
def within (before : String) (item : Reader α) (behind : String) : Reader α := do
  expect before
  let value ← item
  expect behind
  return value

/-- Reads as many items as there are. -/
def many (item : Reader α) : Reader (List α) := fun tokens =>
  match item tokens with
  | none => some ([], tokens)
  | some (value, rest) =>
    if rest.length < tokens.length then do
      let (others, rest) ← many item rest
      return (value :: others, rest)
    else none
termination_by tokens => tokens.length

/-- Passes over a comma, which may be missing before what closes a list. -/
def commaBefore (close : Char) : Reader Unit
  | .mark ',' :: rest => some ((), rest)
  | .mark c :: rest => if c = close then some ((), .mark c :: rest) else none
  | _ => none

/-- Reads an item of a list in square brackets, with the comma behind it. -/
def element (item : Reader α) : Reader α := do
  let value ← item
  commaBefore ']'
  return value

/-- Reads a declaration that ends in a list. -/
def declaration (head : String) (item : Reader α) : Reader (List α) := do
  expectLines [head]
  expect "["
  let items ← many (element item)
  expect "];"
  return items

/-! ## Readers and lines -/

/-- A reader reads a value from the tokens and leaves those behind them. -/
def Takes (reader : Reader α) (tokens : List Token) (value : α) : Prop :=
  ∀ rest, reader (tokens ++ rest) = some (value, rest)

/-- A reader reads a value from the tokens if the one behind them is no part of a name. -/
def TakesBefore (reader : Reader α) (tokens : List Token) (value : α) : Prop :=
  ∀ rest, Parts rest → reader (tokens ++ rest) = some (value, rest)

/-- A reader reads a value from a text wherever what follows is no part of a word or a name. -/
def Inline (reader : Reader α) (text : String) (value : α) : Prop :=
  ∃ tokens, ReadsAs text tokens ∧ TakesBefore reader tokens value

/-- A reader reads a value from what lines hold and leaves what is behind them. -/
def Recovers (reader : Reader α) (lines : List String) (value : α) : Prop :=
  ∃ tokens, Lexes (joinLines lines) tokens ∧ Takes reader tokens value

theorem Takes.bind {reader : Reader α} {next : α → Reader β} {tokens others : List Token}
    {value : α} {result : β} (first : Takes reader tokens value)
    (second : Takes (next value) others result) : Takes (reader >>= next) (tokens ++ others) result := by
  intro rest
  have begun := first (others ++ rest)
  rw [List.append_assoc]
  show (reader (tokens ++ (others ++ rest))).bind (fun read => next read.1 read.2) = _
  rw [begun]
  exact second rest

theorem Takes.before {reader : Reader α} {tokens : List Token} {value : α}
    (takes : Takes reader tokens value) : TakesBefore reader tokens value :=
  fun rest _ => takes rest

theorem Takes.bind_before {reader : Reader α} {next : α → Reader β} {tokens others : List Token}
    {value : α} {result : β} (first : Takes reader tokens value)
    (second : TakesBefore (next value) others result) :
    TakesBefore (reader >>= next) (tokens ++ others) result := by
  intro rest parts
  have begun := first (others ++ rest)
  rw [List.append_assoc]
  show (reader (tokens ++ (others ++ rest))).bind (fun read => next read.1 read.2) = _
  rw [begun]
  exact second rest parts

/-- A reader that reads on ends a name. -/
theorem TakesBefore.bind {reader : Reader α} {next : α → Reader β} {tokens others : List Token}
    {value : α} {result : β} (first : TakesBefore reader tokens value) (parts : Parts others)
    (second : Takes (next value) others result) :
    Takes (reader >>= next) (tokens ++ others) result := by
  intro rest
  have begun := first (others ++ rest) (parts.append rest)
  rw [List.append_assoc]
  show (reader (tokens ++ (others ++ rest))).bind (fun read => next read.1 read.2) = _
  rw [begun]
  exact second rest

theorem bind_of_none {reader : Reader α} {next : α → Reader β} {tokens : List Token}
    (stops : reader tokens = none) : (reader >>= next) tokens = none := by
  show (reader tokens).bind (fun read => next read.1 read.2) = none
  rw [stops]
  rfl

theorem takes_pure (value : α) : Takes (pure value) [] value := fun _ => rfl

theorem takes_expect {text : String} {tokens : List Token} (lexes : Lexes text tokens) :
    Takes (expect text) tokens () := by
  intro rest
  have front : tokens.isPrefixOf? (tokens ++ rest) = some rest :=
    List.isPrefixOf?_eq_some_iff_append_eq.mpr rfl
  simp [expect, lexes.tokens?_eq, front]

theorem takes_one {item : Token → Option α} {token : Token} {value : α}
    (read : item token = some value) : Takes (one item) [token] value := by
  intro rest
  simp [one, read]

theorem takes_name {text : String} (nonempty : text.toList ≠ [])
    (named : ∀ c ∈ text.toList, isNameChar c = true) : TakesBefore name (spell text) text := by
  intro rest parts
  simp [name, spelling_spell named parts, nonempty]

/-- There is no name where none of its characters stands. -/
theorem name_of_parts {tokens : List Token} (parts : Parts tokens) : name tokens = none := by
  simp [name, spelling_of_parts parts]

theorem lexes_of_isSome {text : String} (read : (tokens? text).isSome) :
    ∃ tokens, Lexes text tokens := by
  unfold tokens? at read
  split at read
  · next tokens same => exact ⟨tokens, same⟩
  · contradiction

namespace Recovers

variable {reader : Reader α} {next : α → Reader β} {lines others : List String} {value : α} {result : β}

theorem bind (first : Recovers reader lines value) (second : Recovers (next value) others result) :
    Recovers (reader >>= next) (lines ++ others) result := by
  obtain ⟨tokens, lexes, takes⟩ := first
  obtain ⟨behind, ended, taken⟩ := second
  exact ⟨tokens ++ behind, lexes_lines lexes ended, takes.bind taken⟩

theorem cons {line : String} (first : Recovers reader [line] value)
    (second : Recovers (next value) others result) :
    Recovers (reader >>= next) (line :: others) result :=
  show Recovers _ ([line] ++ others) result from bind first second

/-- A comment is passed over. -/
theorem comment {line : String} (level : Nat) (slashes : line.toList.take 2 = ['/', '/'])
    (short : '\n' ∉ line.toList) (second : Recovers reader others value) :
    Recovers reader (Text.indent level line :: others) value := by
  obtain ⟨tokens, lexes, takes⟩ := second
  exact ⟨tokens, lexes_lines (lexes_comment level slashes short) lexes, takes⟩

theorem indent {line : String} (recovers : Recovers reader [line] value) (level : Nat) :
    Recovers reader [Text.indent level line] value := by
  obtain ⟨tokens, lexes, takes⟩ := recovers
  refine ⟨tokens, ?_, takes⟩
  have indented := Lexes.indent lexes level
  simpa [joinLines, Text.indent, String.append_assoc] using indented

/-- Where nothing stands behind the lines, nothing is left. -/
theorem all_read (recovers : Recovers reader lines value) :
    ∃ tokens, tokens? (joinLines lines) = some tokens ∧ reader tokens = some (value, []) := by
  obtain ⟨tokens, lexes, takes⟩ := recovers
  have taken := takes []
  rw [List.append_nil] at taken
  exact ⟨tokens, lexes.tokens?_eq, taken⟩

end Recovers

theorem recovers_pure (value : α) : Recovers (pure value) [] value :=
  ⟨[], .empty, takes_pure value⟩

theorem recovers_guard {condition : Prop} [Decidable condition] (holds : condition) :
    Recovers (guard condition) [] () := by
  simpa [guard, holds] using recovers_pure ()

theorem recovers_expect {text : String} (read : (tokens? text).isSome) :
    Recovers (expect text) [text] () := by
  obtain ⟨tokens, lexes⟩ := lexes_of_isSome read
  exact ⟨tokens, lexes_line lexes, takes_expect lexes⟩

theorem recovers_indented {text : String} (level : Nat) (read : (tokens? text).isSome) :
    Recovers (expect text) [indent level text] () := by
  obtain ⟨tokens, lexes⟩ := lexes_of_isSome read
  exact ⟨tokens, lexes_line (lexes.indent level), takes_expect lexes⟩

/-- Lines hold the same tokens as those that are expected. -/
def SameTokens (lines expected : List String) : Prop :=
  (linesTokens? expected).isSome ∧ linesTokens? lines = linesTokens? expected

instance (lines expected : List String) : Decidable (SameTokens lines expected) :=
  inferInstanceAs (Decidable (_ ∧ _))

theorem recovers_lines {lines expected : List String} (same : SameTokens lines expected) :
    Recovers (expectLines expected) lines () := by
  obtain ⟨read, same⟩ := same
  simp only [← tokens?_joinLines] at same read
  obtain ⟨tokens, lexes⟩ := lexes_of_isSome read
  obtain ⟨tokens', lexes'⟩ := lexes_of_isSome (same ▸ read)
  rw [lexes.tokens?_eq, lexes'.tokens?_eq, Option.some.injEq] at same
  exact ⟨tokens', lexes', same ▸ takes_expect lexes⟩

theorem recovers_end {lines expected : List String} (same : SameTokens lines expected) (value : α) :
    Recovers (do expectLines expected; return value) lines value := by
  rw [← List.append_nil lines]
  exact (recovers_lines same).bind (recovers_pure value)

theorem recovers_last {text : String} (read : (tokens? text).isSome) (value : α) :
    Recovers (do expect text; return value) [text] value := by
  obtain ⟨tokens, lexes⟩ := lexes_of_isSome read
  exact ⟨tokens ++ [], by simpa using lexes_line lexes, (takes_expect lexes).bind (takes_pure value)⟩

/-! ## Pieces of a line -/

theorem readsAs_number (n : Nat) : ReadsAs (toString n) [.word (Nat.toDigits 10 n)] := by
  have digits : toString n = String.ofList (Nat.toDigits 10 n) := Nat.toString_eq_ofList_toDigits
  have all : ∀ c ∈ Nat.toDigits 10 n, isWordChar c := isWordChar_digits (by decide) (by decide) n
  intro behind others apart ended
  rw [digits]
  exact lexes_word Nat.toDigits_ne_nil all apart ended

theorem decimal?_digits (n : Nat) : decimal? (.word (Nat.toDigits 10 n)) = some n :=
  number?_toDigits (by decide) (by decide) 0 n

/-- A number in a line is read as one token. -/
theorem lexes_number {before behind : String} {first others : List Token}
    (begun : Lexes before first) (apart : Apart behind) (ended : Lexes behind others) (n : Nat) :
    ∃ token, Lexes (before ++ toString n ++ behind) (first ++ token :: others) ∧
      decimal? token = some n := by
  refine ⟨.word (Nat.toDigits 10 n), ?_, decimal?_digits n⟩
  rw [String.append_assoc]
  exact begun.append (readsAs_number n apart ended)

theorem inline_number (n : Nat) : Inline (one decimal?) (toString n) n :=
  ⟨_, readsAs_number n, (takes_one (decimal?_digits n)).before⟩

theorem inline_literal (text : String) : Inline (one text?) (Text.literal text) text :=
  ⟨_, (lexes_literal text).readsAs, (takes_one (by simp [text?])).before⟩

theorem inline_name {text : String} (identifier : Name.isIdentifier text = true) :
    Inline name text text :=
  have ⟨nonempty, named⟩ := isNameChar_of_isIdentifier identifier
  ⟨_, readsAs_name named, takes_name nonempty named⟩

theorem Inline.behind {reader : Reader α} {before text : String} {value : α}
    (inline : Inline reader text value) (read : (tokens? before).isSome) :
    Inline (do expect before; reader) (before ++ text) value := by
  obtain ⟨first, begun⟩ := lexes_of_isSome read
  obtain ⟨tokens, reads, takes⟩ := inline
  exact ⟨first ++ tokens, reads.behind begun, (takes_expect begun).bind_before takes⟩

/-- A text ends the piece of a line that stands before it. -/
def Ends (behind : String) : Prop :=
  Apart behind ∧ (tokens? behind).any fun tokens => decide (Parts tokens)

instance (behind : String) : Decidable (Ends behind) := inferInstanceAs (Decidable (_ ∧ _))

theorem Ends.lexes {behind : String} (ends : Ends behind) :
    ∃ others, Lexes behind others ∧ Parts others := by
  obtain ⟨others, read, parts⟩ := (Option.any_eq_true _ _).mp ends.2
  have some : (tokens? behind).isSome := by
    rw [read]
    rfl
  obtain ⟨tokens, lexes⟩ := lexes_of_isSome some
  rw [lexes.tokens?_eq, Option.some.injEq] at read
  subst read
  exact ⟨tokens, lexes, of_decide_eq_true parts⟩

theorem takes_within {reader : Reader α} {before behind : String} {first tokens others : List Token}
    {value : α} (begun : Lexes before first) (takes : TakesBefore reader tokens value)
    (ended : Lexes behind others) (parts : Parts others) :
    Takes (within before reader behind) (first ++ (tokens ++ others)) value := by
  have tail : Takes (do expect behind; return value) (others ++ []) value :=
    (takes_expect ended).bind (takes_pure value)
  rw [List.append_nil] at tail
  exact (takes_expect begun).bind (takes.bind parts tail)

theorem recovers_within {reader : Reader α} {before text behind : String} {value : α}
    (read : (tokens? before).isSome) (inline : Inline reader text value) (ends : Ends behind) :
    Recovers (within before reader behind) [before ++ text ++ behind] value := by
  obtain ⟨first, begun⟩ := lexes_of_isSome read
  obtain ⟨tokens, reads, takes⟩ := inline
  obtain ⟨others, ended, parts⟩ := ends.lexes
  have line : Lexes (before ++ text ++ behind) (first ++ (tokens ++ others)) := by
    rw [String.append_assoc]
    exact begun.append (reads ends.1 ended)
  exact ⟨_, lexes_line line, takes_within begun takes ended parts⟩

/-! ## Items in a row -/

theorem length_lt_append {front : List Token} (nonempty : front ≠ []) (behind : List Token) :
    behind.length < (front ++ behind).length := by
  have positive := List.length_pos_iff.mpr nonempty
  rw [List.length_append]
  omega

theorem many_of_none {item : Reader α} {tokens : List Token} (stops : item tokens = none) :
    many item tokens = some ([], tokens) := by
  rw [many, stops]

theorem many_of_some {item : Reader α} {tokens rest : List Token} {value : α}
    (read : item tokens = some (value, rest)) (shorter : rest.length < tokens.length) :
    many item tokens = (many item rest).map fun others => (value :: others.1, others.2) := by
  rw [many, read]
  simp only [shorter, if_true]
  cases many item rest <;> rfl

theorem takes_many {item : Reader α} {next : List α → Reader β} {phrases : List (List Token)}
    {others : List Token} {values : List α} {result : β}
    (read : List.Forall₂ (Takes item) phrases values)
    (stops : ∀ rest, item (others ++ rest) = none) (last : Takes (next values) others result) :
    Takes (many item >>= next) (phrases.flatten ++ others) result := by
  have reads (rest : List Token) :
      many item (phrases.flatten ++ (others ++ rest)) = some (values, others ++ rest) := by
    clear last
    induction read with
    | nil => exact many_of_none (stops rest)
    | @cons phrase value phrases values takes _ ih =>
      have first := takes (phrases.flatten ++ (others ++ rest))
      have nonempty : phrase ≠ [] := by
        rintro rfl
        have nothing := takes (others ++ rest)
        rw [List.nil_append, stops rest] at nothing
        cases nothing
      have shorter := length_lt_append nonempty (phrases.flatten ++ (others ++ rest))
      rw [List.flatten_cons, List.append_assoc, many_of_some first shorter, ih]
      rfl
  intro rest
  rw [List.append_assoc]
  show (many item _).bind (fun read => next read.1 read.2) = _
  rw [reads rest]
  exact last rest

theorem isSome_of_bind {reader : Reader α} {next : α → Reader β} {tokens : List Token}
    (read : ((reader >>= next) tokens).isSome) : (reader tokens).isSome := by
  revert read
  show ((reader tokens).bind fun read => next read.1 read.2).isSome → _
  cases reader tokens with
  | none => exact id
  | some _ => exact fun _ => rfl

/-- Where some lines stand there is no item. The first tokens of the lines decide that. -/
theorem stops_of_lines {item : Reader α} {lines : List String} {tokens : List Token} (front : List Token)
    (begins : (linesTokens? lines).any fun expected => front.isPrefixOf expected)
    (stops : ∀ rest, item (front ++ rest) = none) (read : (expectLines lines tokens).isSome) :
    item tokens = none := by
  rw [← tokens?_joinLines] at begins
  obtain ⟨expected, lexes, starts⟩ := (Option.any_eq_true _ _).mp begins
  obtain ⟨others, rfl⟩ := List.isPrefixOf_iff_prefix.mp starts
  obtain ⟨passed, split⟩ := Option.isSome_iff_exists.mp read
  simp only [expectLines, expect, lexes, Option.bind_eq_bind, Option.bind_some] at split
  obtain ⟨rest, front_of, _⟩ := Option.bind_eq_some_iff.mp split
  rw [← List.isPrefixOf?_eq_some_iff_append_eq.mp front_of, List.append_assoc]
  exact stops _

theorem Recovers.many {item : Reader α} {next : List α → Reader β} {write : α → List String}
    {values : List α} {lines : List String} {result : β}
    (each : ∀ value ∈ values, Recovers item (write value) value)
    (stops : ∀ tokens, (next values tokens).isSome → item tokens = none)
    (last : Recovers (next values) lines result) :
    Recovers (many item >>= next) (values.flatMap write ++ lines) result := by
  obtain ⟨others, ended, taken⟩ := last
  have phrases : ∃ phrases, Lexes (joinLines (values.flatMap write)) phrases.flatten ∧
      List.Forall₂ (Takes item) phrases values := by
    clear stops taken
    induction values with
    | nil => exact ⟨[], .empty, .nil⟩
    | cons value rest ih =>
      obtain ⟨phrase, begun, takes⟩ := each value (List.mem_cons_self ..)
      obtain ⟨phrases, lexes, read⟩ := ih fun other here => each other (List.mem_cons_of_mem _ here)
      exact ⟨phrase :: phrases, lexes_lines begun lexes, .cons takes read⟩
  obtain ⟨phrases, lexes, read⟩ := phrases
  refine ⟨_, lexes_lines lexes ended, takes_many read (fun rest => stops _ ?_) taken⟩
  rw [taken rest]
  rfl

/-- Items are read up to lines whose first tokens begin none. -/
theorem Recovers.many_before {item : Reader α} {next : List α → Unit → Reader β}
    {write : α → List String} {values : List α} {expected lines : List String} {result : β}
    (front : List Token) (begins : (linesTokens? expected).any fun tokens => front.isPrefixOf tokens)
    (stops : ∀ rest, item (front ++ rest) = none)
    (each : ∀ value ∈ values, Recovers item (write value) value)
    (last : Recovers (expectLines expected >>= next values) lines result) :
    Recovers (Reading.many item >>= fun values => expectLines expected >>= next values)
      (values.flatMap write ++ lines) result :=
  Recovers.many each (fun _ read => stops_of_lines front begins stops (isSome_of_bind read)) last

/-! ## Lists -/

/-- Values are read from what is listed in square brackets. -/
def Elements (item : Reader α) (listed : List Token) (values : List α) : Prop :=
  ∃ phrases, Separated phrases listed ∧ List.Forall₂ (TakesBefore item) phrases values

theorem elements_nil {item : Reader α} : Elements item [] [] := ⟨[], .none, .nil⟩

theorem Elements.cons {item : Reader α} {phrase listed : List Token} {value : α} {values : List α}
    (takes : TakesBefore item phrase value) (elements : Elements item listed values) :
    Elements item (phrase ++ .mark ',' :: listed) (value :: values) := by
  obtain ⟨phrases, separated, read⟩ := elements
  exact ⟨phrase :: phrases, .item phrase separated, .cons takes read⟩

theorem element_of_comma {item : Reader α} {phrase : List Token} {value : α}
    (takes : TakesBefore item phrase value) (rest : List Token) :
    element item (phrase ++ .mark ',' :: rest) = some (value, rest) := by
  have read := takes (.mark ',' :: rest) (parts_mark (by decide) rest)
  show (item _).bind (fun read => _) = _
  rw [read]
  rfl

theorem element_of_bracket {item : Reader α} {phrase : List Token} {value : α}
    (takes : TakesBefore item phrase value) (rest : List Token) :
    element item (phrase ++ .mark ']' :: rest) = some (value, .mark ']' :: rest) := by
  have read := takes (.mark ']' :: rest) (parts_mark (by decide) rest)
  show (item _).bind (fun read => _) = _
  rw [read]
  rfl

theorem element_of_none {item : Reader α} {tokens : List Token} (stops : item tokens = none) :
    element item tokens = none := bind_of_none stops

/-- Items are read whether or not a comma stands behind the last. -/
theorem many_of_elements {item : Reader α} {listed : List Token} {values : List α}
    (elements : Elements item listed values) (stops : ∀ rest, item (.mark ']' :: rest) = none)
    (rest : List Token) :
    many (element item) (listed ++ .mark ']' :: rest) = some (values, .mark ']' :: rest) := by
  obtain ⟨phrases, separated, read⟩ := elements
  have ended : many (element item) (.mark ']' :: rest) = some ([], .mark ']' :: rest) :=
    many_of_none (element_of_none (stops rest))
  induction separated generalizing values with
  | none =>
    cases read
    exact ended
  | last phrase =>
    cases read with
    | @cons _ value _ _ takes nothing =>
    cases nothing
    have nonempty : phrase ≠ [] := by
      rintro rfl
      cases (stops rest).symm.trans (takes _ (parts_mark (by decide) rest))
    have shorter := length_lt_append nonempty (.mark ']' :: rest)
    rw [many_of_some (element_of_bracket takes rest) shorter, ended]
    rfl
  | item phrase _ ih =>
    cases read with
    | cons takes others =>
    have shorter (behind : List Token) : behind.length < (phrase ++ .mark ',' :: behind).length := by
      simp only [List.length_append, List.length_cons]
      omega
    rw [List.append_assoc, List.cons_append, many_of_some (element_of_comma takes _) (shorter _),
      ih others]
    rfl

theorem ReadsAs.phrase {text : String} {tokens : List Token} (reads : ReadsAs text tokens) :
    Phrase text tokens := by
  intro c member
  rcases List.mem_pair.mp member with rfl | rfl
  · exact reads (by decide) rfl
  · exact reads (by decide) rfl

theorem elements_intercalate {item : Reader α} {texts : List String} {values : List α}
    (read : List.Forall₂ (Inline item) texts values) :
    ∃ listed, Elements item listed values ∧
      Lexes (", ".intercalate texts ++ "]") (listed ++ [.mark ']']) := by
  have phrases : ∃ phrases, List.Forall₂ Phrase texts phrases ∧
      List.Forall₂ (TakesBefore item) phrases values := by
    induction read with
    | nil => exact ⟨[], .nil, .nil⟩
    | cons inline _ ih =>
      obtain ⟨tokens, reads, takes⟩ := inline
      obtain ⟨phrases, lexes, read⟩ := ih
      exact ⟨tokens :: phrases, .cons reads.phrase lexes, .cons takes read⟩
  obtain ⟨phrases, written, read⟩ := phrases
  obtain ⟨listed, separated, lexes⟩ := lexes_phrases written
  exact ⟨listed, ⟨phrases, separated, read⟩, lexes⟩

/-- Lines that hold an item and a comma come before those of the others. -/
theorem Elements.lines {item : Reader α} {lines others : List String} {value : α} {values : List α}
    (first : ∃ phrase, Lexes (joinLines lines) (phrase ++ [.mark ',']) ∧ TakesBefore item phrase value)
    (rest : ∃ listed, Elements item listed values ∧ Lexes (joinLines others) listed) :
    ∃ listed, Elements item listed (value :: values) ∧ Lexes (joinLines (lines ++ others)) listed := by
  obtain ⟨phrase, begun, takes⟩ := first
  obtain ⟨listed, elements, lexes⟩ := rest
  refine ⟨_, elements.cons takes, ?_⟩
  simpa using lexes_lines begun lexes

theorem elements_stack {item : Reader α} {texts : List String} {values : List α} (level : Nat)
    (read : List.Forall₂ (Inline item) texts values) :
    ∃ listed, Elements item listed values ∧ Lexes (joinLines (Text.stack level texts)) listed := by
  induction read with
  | nil => exact ⟨[], elements_nil, .empty⟩
  | cons inline _ ih =>
    obtain ⟨tokens, reads, takes⟩ := inline
    exact Elements.lines ⟨tokens, lexes_line (reads.phrase.comma.indent level), takes⟩ ih

theorem recovers_declaration {item : Reader α} {head : String} {texts spread : List String}
    {values : List α} (read : (tokens? head).isSome) (stops : ∀ rest, item (.mark ']' :: rest) = none)
    (inline : List.Forall₂ (Inline item) texts values)
    (wide : ∃ listed, Elements item listed values ∧ Lexes (joinLines spread) listed) :
    Recovers (declaration head item) (Text.listDeclaration 1 head texts spread) values := by
  obtain ⟨first, begun⟩ := lexes_of_isSome read
  obtain ⟨listed, elements, lexes⟩ := lexes_layout 1 begun (elements_intercalate inline) wide
  have opened : Lexes "[" [.mark '['] := rfl
  have closed : Lexes "];" [.mark ']', .mark ';'] := rfl
  have tail : Takes (do let items ← many (element item); expect "];"; return items)
      (listed ++ [.mark ']', .mark ';']) values := by
    intro rest
    show (many (element item) _).bind _ = _
    rw [List.append_assoc, List.cons_append, many_of_elements elements stops]
    exact ((takes_expect closed).bind (takes_pure values)) rest
  have front : Takes (expectLines [head]) first () := takes_expect (lexes_line begun)
  exact ⟨_, lexes, front.bind ((takes_expect opened).bind tail)⟩

end GameTables.Reading
