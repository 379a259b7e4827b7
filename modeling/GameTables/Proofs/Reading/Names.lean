import GameTables.Name.Cases
import GameTables.Proofs.Reading.Tokens

/-!
# Names in source text

A name may have characters beyond ASCII, each of which is a token of its own. A name is read as the longest
row of tokens whose characters may stand in one; in source text a mark always follows it.
-/

namespace GameTables.Reading

/-- A character that may stand in a name. -/
def isNameChar (c : Char) : Bool :=
  Unicode.isIdentifierStart c || Unicode.isIdentifierContinue c

theorem isNameChar_of_isIdentifier {name : String} (identifier : Name.isIdentifier name = true) :
    name.toList ≠ [] ∧ ∀ c ∈ name.toList, isNameChar c = true := by
  unfold Name.isIdentifier at identifier
  split at identifier
  · cases identifier
  · next c rest shape =>
    rw [shape]
    simp only [Bool.and_eq_true, Bool.or_eq_true, beq_iff_eq, List.all_eq_true] at identifier
    obtain ⟨⟨first, others⟩, _⟩ := identifier
    refine ⟨List.cons_ne_nil _ _, List.forall_mem_cons.mpr ⟨?_, fun c here => ?_⟩⟩
    · rcases first with rfl | start
      · rfl
      · simp [isNameChar, start]
    · simp [isNameChar, others c here]

/-- Beyond ASCII a character of a name is a mark for the reader of tokens. -/
theorem begin_of_isNameChar {c : Char} (named : isNameChar c = true) (other : isWordChar c = false) :
    begin c = (.between, [.mark c]) := by
  have beyond : ¬ c.toNat < 128 := by
    intro ascii
    simp only [isNameChar, Unicode.isIdentifierStart, Unicode.isIdentifierContinue, ascii, if_true,
      Bool.or_eq_true, beq_iff_eq] at named
    simp only [isWordChar, Bool.or_eq_false_iff, decide_eq_false_iff_not, Char.isAlphanum] at other named
    simp_all
  have apart (d : Char) (ascii : d.toNat < 128) : c ≠ d := by
    rintro rfl
    exact beyond ascii
  have blank : c.isWhitespace = false := by
    simp [Char.isWhitespace, apart ' ' (by decide), apart '\t' (by decide), apart '\r' (by decide),
      apart '\n' (by decide)]
  simp [begin, other, blank, apart '"' (by decide), apart '/' (by decide)]

/-! ## The tokens of a name -/

/-- The tokens of the rest of a name, of which `begun` are the letters read last. -/
def spellFrom (begun : List Char) : List Char → List Token
  | [] => if begun = [] then [] else [.word begun]
  | c :: rest =>
    if isWordChar c then spellFrom (begun ++ [c]) rest
    else spellFrom begun [] ++ .mark c :: spellFrom [] rest

/-- The tokens of a name. -/
def spell (name : String) : List Token := spellFrom [] name.toList

/-- The mode of the reader behind the letters of a name. -/
def modeBehind (begun : List Char) : Mode :=
  if begun = [] then .between else .word begun

theorem step_modeBehind_letter (begun : List Char) {c : Char} (letter : isWordChar c = true) :
    step (modeBehind begun) c = (modeBehind (begun ++ [c]), []) := by
  unfold modeBehind
  by_cases empty : begun = []
  · simp [empty, step, begin, letter]
  · simp [empty, step, letter]

/-- Any other character ends the letters. -/
theorem step_modeBehind_other (begun : List Char) {c : Char} (other : isWordChar c = false) :
    step (modeBehind begun) c = ((begin c).1, spellFrom begun [] ++ (begin c).2) := by
  unfold modeBehind
  by_cases empty : begun = []
  · simp [empty, step, spellFrom]
  · simp [empty, step, other, ending, spellFrom]

theorem run_spellFrom {behind : List Char} {others : List Token}
    (apart : ∃ c ∈ behind.head?, isWordChar c = false) (ended : run .between behind = (.between, others))
    (begun letters : List Char) (named : ∀ c ∈ letters, isNameChar c = true) :
    run (modeBehind begun) (letters ++ behind) = (.between, spellFrom begun letters ++ others) := by
  induction letters generalizing begun with
  | nil =>
    obtain ⟨c, at_head, other⟩ := apart
    obtain ⟨rest, rfl⟩ := List.head?_eq_some_iff.mp at_head
    simp only [run, step, Prod.mk.injEq] at ended
    simp [run, step_modeBehind_other begun other, ended.1, ← ended.2]
  | cons c rest ih =>
    have others_named := fun d here => named d (List.mem_cons_of_mem c here)
    by_cases letter : isWordChar c = true
    · simp [run, step_modeBehind_letter begun letter, ih _ others_named, spellFrom, letter]
    · have other : isWordChar c = false := Bool.eq_false_iff.mpr letter
      have mark := begin_of_isNameChar (named c (List.mem_cons_self ..)) other
      have fresh : run .between (rest ++ behind) = _ := ih [] others_named
      simp [run, step_modeBehind_other begun other, mark, fresh, spellFrom, other]

theorem readsAs_name {name : String} (named : ∀ c ∈ name.toList, isNameChar c = true) :
    ReadsAs name (spell name) := by
  intro behind others apart ended
  obtain ⟨c, at_head, other⟩ := (Option.any_eq_true _ _).mp apart
  unfold Lexes
  rw [String.toList_append]
  exact run_spellFrom ⟨c, at_head, by simpa using other⟩ ended [] _ named

/-! ## The name that tokens spell -/

/-- The characters of a token that may be part of a name. -/
def Token.letters? : Token → Option (List Char)
  | .word letters => some letters
  | .mark c => if isNameChar c then some [c] else none
  | .text _ => none

/-- The characters of the tokens in front that may be parts of a name, and the tokens behind them. -/
def spelling : List Token → List Char × List Token
  | [] => ([], [])
  | token :: rest =>
    match token.letters? with
    | some letters => (letters ++ (spelling rest).1, (spelling rest).2)
    | none => ([], token :: rest)

/-- A row of tokens begins with one that is no part of a name. -/
def Parts (tokens : List Token) : Prop :=
  tokens.head?.any fun token => token.letters?.isNone

instance (tokens : List Token) : Decidable (Parts tokens) := inferInstanceAs (Decidable (_ = true))

theorem Parts.append {tokens : List Token} (parts : Parts tokens) (rest : List Token) :
    Parts (tokens ++ rest) := by
  cases tokens with
  | nil => cases parts
  | cons token others => exact parts

theorem parts_mark {c : Char} (other : isNameChar c = false) (rest : List Token) :
    Parts (.mark c :: rest) := by
  simp [Parts, Token.letters?, other]

theorem spelling_of_parts {tokens : List Token} (parts : Parts tokens) : spelling tokens = ([], tokens) := by
  cases tokens with
  | nil => cases parts
  | cons token others =>
    have none : token.letters? = none := Option.isNone_iff_eq_none.mp parts
    simp [spelling, none]

/-- Letters read before are part of the name. -/
theorem spelling_begun (begun : List Char) (others : List Token) :
    spelling (spellFrom begun [] ++ others) = (begun ++ (spelling others).1, (spelling others).2) := by
  unfold spellFrom
  split
  · next empty => simp [empty]
  · simp [spelling, Token.letters?]

theorem spelling_spellFrom {rest : List Token} (parts : Parts rest) (begun letters : List Char)
    (named : ∀ c ∈ letters, isNameChar c = true) :
    spelling (spellFrom begun letters ++ rest) = (begun ++ letters, rest) := by
  induction letters generalizing begun with
  | nil => rw [spelling_begun, spelling_of_parts parts]
  | cons c others ih =>
    have others_named := fun d here => named d (List.mem_cons_of_mem c here)
    by_cases letter : isWordChar c = true
    · rw [spellFrom, if_pos letter, ih _ others_named, List.append_assoc, List.singleton_append]
    · have mark : Token.letters? (.mark c) = some [c] := if_pos (named c (List.mem_cons_self ..))
      rw [spellFrom, if_neg letter, List.append_assoc, spelling_begun]
      simp [spelling, mark, ih [] others_named]

/-- A name is the longest row of tokens in front that may be parts of it. -/
theorem spelling_spell {name : String} (named : ∀ c ∈ name.toList, isNameChar c = true)
    {rest : List Token} (parts : Parts rest) : spelling (spell name ++ rest) = (name.toList, rest) :=
  spelling_spellFrom parts [] name.toList named

end GameTables.Reading
