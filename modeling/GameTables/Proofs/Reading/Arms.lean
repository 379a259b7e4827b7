import GameTables.Proofs.Reading.Readers

/-!
# Arms of case distinctions

An arm is read the same whether what it yields stands behind its pattern or in braces below it, and whether
a call stands on one line or is broken around its argument.
-/

namespace GameTables.Reading

open Text (joinLines indent)

variable {α β γ : Type}

/-- Reads a call with one argument. `opening` reads the function and the bracket behind it. -/
def call (opening : Reader α) (argument : Reader β) (combine : α → β → γ) : Reader γ := do
  let function ← opening
  let value ← argument
  commaBefore ')'
  expect ")"
  return combine function value

/-- Reads what an arm yields, with a comma behind it or in braces. -/
def yielded (body : Reader α) : Reader α :=
  (do let value ← body; expect ","; return value) <|> within "\x7b" body "\x7d"

/-- Reads an arm: its pattern and what it yields. -/
def arm (pattern : Reader α) (body : Reader β) : Reader (α × β) := do
  let first ← pattern
  expect "=>"
  let value ← yielded body
  return (first, value)

/-! ## What an arm yields -/

/-- A reader reads what an arm yields in both of its places. -/
structure Yields (body : Reader α) (yield : Text.Yield) (value : α) : Prop where
  line : ∃ tokens, ReadsAs yield.line tokens ∧ Takes body tokens value
  lines : ∀ level, Recovers body (yield.lines level) value
  stops : ∀ rest, body (.mark '\x7b' :: rest) = none

theorem yields_literal (text : String) : Yields (one text?) (.text (Text.literal text)) text where
  line := ⟨_, (lexes_literal text).readsAs, takes_one (by simp [text?])⟩
  lines level := ⟨_, lexes_line ((lexes_literal text).indent level), takes_one (by simp [text?])⟩
  stops _ := rfl

theorem takes_call {opening : Reader α} {argument : Reader β} {combine : α → β → γ}
    {opened tokens closed : List Token} {function : α} {value : β} (opens : Takes opening opened function)
    (takes : TakesBefore argument tokens value)
    (ends : closed = [.mark ')'] ∨ closed = [.mark ',', .mark ')']) :
    Takes (call opening argument combine) (opened ++ (tokens ++ closed)) (combine function value) := by
  have parts : Parts closed := by
    rcases ends with rfl | rfl
    · exact parts_mark (by decide) _
    · exact parts_mark (by decide) _
  refine opens.bind (takes.bind parts fun rest => ?_)
  rcases ends with rfl | rfl
  · rfl
  · rfl

/-- A call is read whether it stands on one line or on three. -/
theorem yields_call {opening : Reader α} {argument : Reader β} {combine : α → β → γ}
    {functionText argumentText : String} {opened : List Token} {function : α} {value : β}
    (begun : Lexes (functionText ++ "(") opened) (opens : Takes opening opened function)
    (inline : Inline argument argumentText value)
    (stops : ∀ rest, opening (.mark '\x7b' :: rest) = none) :
    Yields (call opening argument combine) (.call functionText argumentText) (combine function value) := by
  obtain ⟨tokens, reads, takes⟩ := inline
  have bracket : Lexes ")" [.mark ')'] := rfl
  have whole : Lexes (functionText ++ "(" ++ argumentText ++ ")") (opened ++ (tokens ++ [.mark ')'])) := by
    rw [String.append_assoc]
    exact begun.append (reads (by decide) bracket)
  have line : Takes (call opening argument combine) (opened ++ (tokens ++ [.mark ')']))
      (combine function value) :=
    takes_call opens takes (.inl rfl)
  refine ⟨⟨_, whole.readsAs, line⟩, fun level => ?_, fun rest => ?_⟩
  · unfold Text.Yield.lines
    simp only
    split
    · exact ⟨_, lexes_line (whole.indent level), line⟩
    · have broken := lexes_lines (lexes_line (begun.indent level))
        (lexes_lines (lexes_line (reads.phrase.comma.indent (level + 1))) (lexes_line (bracket.indent level)))
      simp only [List.append_assoc, List.singleton_append] at broken
      exact ⟨_, broken, takes_call opens takes (.inr rfl)⟩
  · exact bind_of_none (stops rest)

/-! ## Arms -/

theorem takes_yielded_line {body : Reader α} {tokens : List Token} {value : α}
    (takes : Takes body tokens value) : Takes (yielded body) (tokens ++ [.mark ',']) value := by
  intro rest
  have comma : Lexes "," [.mark ','] := rfl
  have line : Takes (do let value ← body; expect ","; return value)
      (tokens ++ ([.mark ','] ++ [])) value :=
    takes.bind ((takes_expect comma).bind (takes_pure value))
  show ((do let value ← body; expect ","; return value : Reader α) _ <|> _) = _
  rw [List.append_nil] at line
  rw [line rest]
  rfl

theorem takes_yielded_lines {body : Reader α} {tokens : List Token} {value : α}
    (takes : Takes body tokens value) (stops : ∀ rest, body (.mark '\x7b' :: rest) = none) :
    Takes (yielded body) ([.mark '\x7b'] ++ (tokens ++ [.mark '\x7d'])) value := by
  intro rest
  have opened : Lexes "\x7b" [.mark '\x7b'] := rfl
  have closed : Lexes "\x7d" [.mark '\x7d'] := rfl
  have block : Takes (within "\x7b" body "\x7d")
      ([.mark '\x7b'] ++ (tokens ++ ([.mark '\x7d'] ++ []))) value :=
    (takes_expect opened).bind (takes.bind ((takes_expect closed).bind (takes_pure value)))
  have line : (do let value ← body; expect ","; return value : Reader α)
      ([.mark '\x7b'] ++ (tokens ++ [.mark '\x7d']) ++ rest) = none := bind_of_none (stops _)
  show ((do let value ← body; expect ","; return value : Reader α) _ <|> _) = _
  rw [line]
  rw [List.append_nil] at block
  exact block rest

theorem recovers_arm {pattern : Reader α} {body : Reader β} {text : String} {yield : Text.Yield}
    {first : α} {value : β} (level : Nat) (inline : Inline pattern text first)
    (yields : Yields body yield value) :
    Recovers (arm pattern body) (Text.arm level text yield) (first, value) := by
  obtain ⟨front, begun, takes⟩ := inline
  have arrow : Lexes " => " [.mark '=', .mark '>'] := rfl
  have arrow_read : Lexes "=>" [.mark '=', .mark '>'] := rfl
  have whole {tokens : List Token} (taken : Takes (yielded body) tokens value) :
      Takes (arm pattern body) (front ++ ([.mark '=', .mark '>'] ++ (tokens ++ []))) (first, value) :=
    takes.bind (parts_mark (by decide) _)
      ((takes_expect arrow_read).bind (taken.bind (takes_pure (first, value))))
  unfold Text.arm
  simp only
  split
  · obtain ⟨tokens, reads, taken⟩ := yields.line
    have comma : Lexes (yield.line ++ ",") (tokens ++ [.mark ',']) := reads (by decide) rfl
    have line := begun (apart_append (by decide) _) (arrow.append comma)
    have indented := line.indent level
    refine ⟨_, lexes_line ?_, whole (takes_yielded_line taken)⟩
    simpa [indent, String.append_assoc] using indented
  · obtain ⟨tokens, lexes, taken⟩ := yields.lines (level + 1)
    have closed : Lexes "\x7d" [.mark '\x7d'] := rfl
    have opened : Lexes (text ++ " => \x7b") (front ++ [.mark '=', .mark '>', .mark '\x7b']) :=
      begun (by decide) rfl
    have lines := lexes_lines (lexes_line (opened.indent level))
      (lexes_lines lexes (lexes_line (closed.indent level)))
    refine ⟨_, lines, ?_⟩
    simpa using whole (takes_yielded_lines taken yields.stops)

end GameTables.Reading
