import Mathlib.Data.List.Forall2
import GameTables.Proofs.Reading.Tokens

/-!
# Lists in source text

A declaration that ends in a list holds the same tokens whether the list stands on one line, is filled
or is stacked. Only a comma behind the last item may come with the layout.
-/

namespace GameTables.Reading

open Text (joinLines indent stack fill fillFrom listDeclaration)

/-- A text is read as one token where a comma or the end of a list follows. -/
def Item (text : String) (token : Token) : Prop :=
  ∀ c ∈ [',', ']'], Lexes (text ++ String.singleton c) [token, .mark c]

/-- A text is read as some tokens where a comma or the end of a list follows. -/
def Phrase (text : String) (tokens : List Token) : Prop :=
  ∀ c ∈ [',', ']'], Lexes (text ++ String.singleton c) (tokens ++ [.mark c])

/-- The tokens of the items of a list, each of several tokens, with a comma between any two and perhaps
one behind the last. -/
inductive Separated : List (List Token) → List Token → Prop where
  | none : Separated [] []
  | last (phrase : List Token) : Separated [phrase] phrase
  | item (phrase : List Token) {phrases : List (List Token)} {listed : List Token} :
      Separated phrases listed → Separated (phrase :: phrases) (phrase ++ .mark ',' :: listed)

/-- The tokens of the items of a list, with a comma between any two and perhaps one behind the last. -/
inductive Listed : List Token → List Token → Prop where
  | none : Listed [] []
  | last (token : Token) : Listed [token] [token]
  | item (token : Token) {tokens listed : List Token} :
      Listed tokens listed → Listed (token :: tokens) (token :: .mark ',' :: listed)

/-- Tokens with a comma behind each. -/
def terminated (tokens : List Token) : List Token :=
  tokens.flatMap fun token => [token, .mark ',']

theorem listed_terminated (tokens : List Token) : Listed tokens (terminated tokens) := by
  induction tokens with
  | nil => exact .none
  | cons token rest ih => exact .item token ih

/-- Items of one token each. -/
theorem listed_of_separated {tokens listed : List Token}
    (separated : Separated (tokens.map fun token => [token]) listed) : Listed tokens listed := by
  generalize phrases_eq : tokens.map (fun token => [token]) = phrases at separated
  induction separated generalizing tokens with
  | none =>
    rw [List.map_eq_nil_iff.mp phrases_eq]
    exact .none
  | last phrase =>
    obtain ⟨token, rest, rfl, rfl, nothing⟩ := List.map_eq_cons_iff.mp phrases_eq
    rw [List.map_eq_nil_iff.mp nothing]
    exact .last token
  | item phrase _ ih =>
    obtain ⟨token, rest, rfl, rfl, others⟩ := List.map_eq_cons_iff.mp phrases_eq
    exact .item token (ih others)

/-! ## Items -/

theorem item_literal (text : String) : Item (Text.literal text) (.text text.toList) := by
  intro c member
  have mark : Lexes (String.singleton c) [.mark c] := by
    rcases List.mem_pair.mp member with rfl | rfl <;> rfl
  exact (lexes_literal text).append mark

theorem item_word {letters : List Char} (nonempty : letters ≠ [])
    (all : ∀ c ∈ letters, isWordChar c) : Item (String.ofList letters) (.word letters) := by
  intro c member
  rcases List.mem_pair.mp member with rfl | rfl
  · exact lexes_word nonempty all (by decide) rfl
  · exact lexes_word nonempty all (by decide) rfl

variable {text : String} {token : Token} {items : List String} {tokens : List Token}
  {phrases : List (List Token)}

theorem Item.comma (item : Item text token) : Lexes (text ++ ",") [token, .mark ','] :=
  item ',' (by simp)

theorem Phrase.comma (phrase : Phrase text tokens) : Lexes (text ++ ",") (tokens ++ [.mark ',']) :=
  phrase ',' (by simp)

theorem Phrase.bracket (phrase : Phrase text tokens) : Lexes (text ++ "]") (tokens ++ [.mark ']']) :=
  phrase ']' (by simp)

theorem phrases_of_items (read : List.Forall₂ Item items tokens) :
    List.Forall₂ Phrase items (tokens.map fun token => [token]) := by
  induction read with
  | nil => exact .nil
  | cons item _ ih => exact .cons item ih

/-! ## Lines -/

theorem foldl_lines (start : String) (lines : List String) :
    lines.foldl (fun text line => text ++ line ++ "\n") start = start ++ joinLines lines := by
  unfold joinLines
  induction lines generalizing start with
  | nil => simp
  | cons line rest ih =>
    rw [List.foldl_cons, List.foldl_cons, ih, ih ("" ++ line ++ "\n")]
    simp [String.append_assoc]

theorem joinLines_append (first second : List String) :
    joinLines (first ++ second) = joinLines first ++ joinLines second := by
  rw [joinLines, List.foldl_append, foldl_lines]
  rfl

/-- The tokens of lines. -/
def linesTokens? (lines : List String) : Option (List Token) :=
  match run .between (lines.flatMap fun line => line.toList ++ ['\n']) with
  | (.between, tokens) => some tokens
  | _ => none

theorem tokens?_joinLines (lines : List String) : tokens? (joinLines lines) = linesTokens? lines := by
  have chars : (joinLines lines).toList = lines.flatMap fun line => line.toList ++ ['\n'] := by
    induction lines with
    | nil => rfl
    | cons line rest ih =>
      have first : (joinLines [line]).toList = line.toList ++ ['\n'] := by simp [joinLines]
      rw [← List.singleton_append, joinLines_append, String.toList_append, ih, first]
      rfl
  have same : run .between (joinLines lines).toList =
      run .between (lines.flatMap fun line => line.toList ++ ['\n']) := by
    rw [chars]
  exact congrArg (fun read : Mode × List Token => match read with
    | (.between, tokens) => some tokens
    | _ => none) same

theorem lexes_line {line : String} (lexes : Lexes line tokens) : Lexes (joinLines [line]) tokens := by
  have line := lexes.append .newline
  simpa [joinLines] using line

/-- A line that is a comment holds no token. -/
theorem lexes_comment {line : String} (level : Nat) (slashes : line.toList.take 2 = ['/', '/'])
    (short : '\n' ∉ line.toList) : Lexes (joinLines [indent level line]) [] := by
  have through := run_comment (line.toList.drop 2) fun member => short (List.mem_of_mem_drop member)
  have opened : run .between ['/', '/'] = (.comment, []) := rfl
  have ended : run .comment ['\n'] = (.between, []) := rfl
  have comment : Lexes (line ++ "\n") [] := by
    unfold Lexes
    rw [String.toList_append, ← List.take_append_drop 2 line.toList, slashes]
    exact run_append_of_eq (run_append_of_eq opened through) ended
  have indented := comment.indent level
  simpa [joinLines, indent, String.append_assoc] using indented

theorem lexes_lines {first second : List String} {others : List Token}
    (begun : Lexes (joinLines first) tokens) (ended : Lexes (joinLines second) others) :
    Lexes (joinLines (first ++ second)) (tokens ++ others) := by
  rw [joinLines_append]
  exact begun.append ended

/-! ## Layouts -/

theorem lexes_phrases (read : List.Forall₂ Phrase items phrases) :
    ∃ listed, Separated phrases listed ∧
      Lexes (", ".intercalate items ++ "]") (listed ++ [.mark ']']) := by
  induction read with
  | nil => exact ⟨[], .none, rfl⟩
  | @cons text phrase items phrases item read ih =>
    cases read with
    | nil => exact ⟨phrase, .last phrase, by simpa using item.bracket⟩
    | @cons next _ rest _ _ _ =>
      obtain ⟨listed, shape, lexes⟩ := ih
      have separated := item.comma.append (Lexes.space.append lexes)
      refine ⟨_, .item phrase shape, ?_⟩
      rw [String.intercalate_cons_cons]
      generalize ", ".intercalate (next :: rest) = others at separated ⊢
      rw [show ", " = "," ++ " " from rfl]
      simpa only [String.append_assoc, List.append_assoc, List.cons_append, List.nil_append]
        using separated

theorem lexes_intercalate (read : List.Forall₂ Item items tokens) :
    ∃ listed, Listed tokens listed ∧
      Lexes (", ".intercalate items ++ "]") (listed ++ [.mark ']']) := by
  obtain ⟨listed, separated, lexes⟩ := lexes_phrases (phrases_of_items read)
  exact ⟨listed, listed_of_separated separated, lexes⟩

theorem lexes_stack (level : Nat) (read : List.Forall₂ Item items tokens) :
    Lexes (joinLines (stack level items)) (terminated tokens) := by
  induction read with
  | nil => exact .empty
  | @cons text token items tokens item read ih =>
    exact lexes_lines (lexes_line (item.comma.indent level)) ih

/-- A filled list holds the tokens of the lines that are done, of the line begun and of the items to come. -/
theorem lexes_fillFrom (level : Nat) {line : String} {done : List String} {before begun : List Token}
    (read : List.Forall₂ Item items tokens) (lines : Lexes (joinLines done.reverse) before)
    (current : Lexes line begun) :
    Lexes (joinLines (fillFrom level line done items)) (before ++ begun ++ terminated tokens) := by
  induction read generalizing line done before begun with
  | nil =>
    rw [fillFrom, List.reverse_cons, terminated, List.flatMap_nil, List.append_nil]
    exact lexes_lines lines (lexes_line current)
  | @cons text token items tokens item read ih =>
    unfold fillFrom
    extract_lets comma
    split
    · have longer : Lexes (line ++ " " ++ text ++ ",") (begun ++ [token, .mark ',']) := by
        have appended := (current.append .space).append item.comma
        simpa [String.append_assoc] using appended
      simpa [terminated] using ih lines longer
    · have done' : Lexes (joinLines (line :: done).reverse) (before ++ begun) := by
        rw [List.reverse_cons]
        exact lexes_lines lines (lexes_line current)
      simpa [terminated] using ih done' (item.comma.indent level)

theorem lexes_fill (level : Nat) (read : List.Forall₂ Item items tokens) :
    Lexes (joinLines (fill level items)) (terminated tokens) := by
  cases read with
  | nil => exact .empty
  | cons item read =>
    have nothing : Lexes (joinLines ([] : List String).reverse) [] := .empty
    exact lexes_fillFrom level read nothing (item.comma.indent level)

/-- A declaration of a list is read as its head and what is listed in whichever layout it has. -/
theorem lexes_layout (level : Nat) {head : String} {spread : List String} {first : List Token}
    {Shape : List Token → Prop} (begun : Lexes head first)
    (whole : ∃ listed, Shape listed ∧ Lexes (", ".intercalate items ++ "]") (listed ++ [.mark ']']))
    (wide : ∃ listed, Shape listed ∧ Lexes (joinLines spread) listed) :
    ∃ listed, Shape listed ∧ Lexes (joinLines (listDeclaration level head items spread))
      (first ++ .mark '[' :: (listed ++ [.mark ']', .mark ';'])) := by
  have opened : Lexes (head ++ "[") (first ++ [.mark '[']) := begun.append rfl
  unfold listDeclaration
  extract_lets line
  split
  · obtain ⟨listed, shape, lexes⟩ := whole
    refine ⟨listed, shape, lexes_line (Lexes.indent ?_ level)⟩
    have closed := (opened.append lexes).append (show Lexes ";" [.mark ';'] from rfl)
    simpa [String.append_assoc] using closed
  · obtain ⟨listed, shape, lexes⟩ := wide
    refine ⟨listed, shape, ?_⟩
    have closed : Lexes "];" [.mark ']', .mark ';'] := rfl
    have lines := lexes_lines (lexes_line (opened.indent level))
      (lexes_lines lexes (lexes_line (closed.indent level)))
    simpa using lines

/-- A declaration of a list is read as its head and its items in whichever layout it has. -/
theorem lexes_listDeclaration (level : Nat) {head : String} {spread : List String}
    {first others : List Token} (begun : Lexes head first) (read : List.Forall₂ Item items tokens)
    (shape : Listed tokens others) (wide : Lexes (joinLines spread) others) :
    ∃ listed, Listed tokens listed ∧ Lexes (joinLines (listDeclaration level head items spread))
      (first ++ .mark '[' :: (listed ++ [.mark ']', .mark ';'])) :=
  lexes_layout level begun (lexes_intercalate read) ⟨others, shape, wide⟩

end GameTables.Reading
