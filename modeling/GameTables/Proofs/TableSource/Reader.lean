import GameTables.Proofs.Reading.Readers
import GameTables.TableSource.Render

/-!
# Reading the source of the tables

A reader of the generated source that knows which declarations there are and in which order. It knows
nothing of lines, of indentation or of the layout of a list.
-/

namespace GameTables.Reading

open Text (joinLines indent)

variable {α β : Type}

/-- Reads the items of a list and its end. -/
def itemsUntil (item : Token → Option α) : Reader (List α)
  | .mark ']' :: rest => some ([], rest)
  | token :: .mark ',' :: rest => do
    let first ← item token
    let (others, rest) ← itemsUntil item rest
    return (first :: others, rest)
  | token :: .mark ']' :: rest => do return ([← item token], rest)
  | _ => none

/-- Reads a list that ends a declaration. -/
def list (item : Token → Option α) : Reader (List α) := do
  expect "["
  let items ← itemsUntil item
  expect ";"
  return items

/-- Reads the declaration of a table. -/
def table (head : String) (item : Token → Option α) : Reader (List α) := do
  expect head
  list item

/-- Reads the declaration of a table whose length stands between the two parts of its head. -/
def sizedTable (before behind : String) (item : Token → Option α) : Reader (Nat × List α) := do
  expect before
  let size ← one decimal?
  expect behind
  return (size, ← list item)

def hexadecimal? : Token → Option Nat
  | .word ('0' :: 'x' :: digits) => number? 16 digits
  | _ => none

def word16? (token : Token) : Option UInt16 := do
  let n ← hexadecimal? token
  if n < UInt16.size then some (UInt16.ofNat n) else none

def word8? (token : Token) : Option UInt8 := do
  let n ← hexadecimal? token
  if n < UInt8.size then some (UInt8.ofNat n) else none

def count : Reader Nat := do
  expect "pub const COUNT: usize ="
  let count ← one decimal?
  expect ";"
  return count

/-- Items are read whether or not a comma stands behind the last. -/
theorem takes_itemsUntil {item : Token → Option α} {tokens listed : List Token} {values : List α}
    (marks : ∀ c, item (.mark c) = none) (shape : Listed tokens listed)
    (read : tokens.map item = values.map some) :
    Takes (itemsUntil item) (listed ++ [.mark ']']) values := by
  intro rest
  induction shape generalizing values with
  | none =>
    have empty : values = [] := by simpa using read.symm
    subst empty
    rfl
  | last token =>
    obtain ⟨value, others, rfl, value_of, nothing⟩ := List.map_eq_cons_iff.mp read.symm
    have nothing : others = [] := by simpa using nothing
    subst nothing
    cases token with
    | mark c => simp [marks c] at value_of
    | word letters => simp [itemsUntil, ← value_of]
    | text content => simp [itemsUntil, ← value_of]
  | item token _ ih =>
    obtain ⟨value, others, rfl, value_of, others_of⟩ := List.map_eq_cons_iff.mp read.symm
    have behind := ih others_of.symm
    rw [List.append_assoc, List.singleton_append] at behind
    cases token with
    | mark c => simp [marks c] at value_of
    | word letters => simp [itemsUntil, ← value_of, behind]
    | text content => simp [itemsUntil, ← value_of, behind]

theorem takes_list {item : Token → Option α} {tokens listed : List Token} {values : List α}
    (marks : ∀ c, item (.mark c) = none) (shape : Listed tokens listed)
    (read : tokens.map item = values.map some) :
    Takes (list item) (.mark '[' :: (listed ++ [.mark ']', .mark ';'])) values := by
  have opened : Lexes "[" [.mark '['] := rfl
  have closed : Lexes ";" [.mark ';'] := rfl
  have split : .mark '[' :: (listed ++ [.mark ']', .mark ';']) =
      [.mark '['] ++ (listed ++ [.mark ']'] ++ ([.mark ';'] ++ [])) := by simp
  rw [split]
  refine (takes_expect opened).bind ?_
  refine (takes_itemsUntil marks shape read).bind ?_
  exact (takes_expect closed).bind (takes_pure values)

/-! ## Declarations -/

/-- What is written for an item is one token from which the item is read. -/
structure Undoes (item : Token → Option α) (write : α → String) : Prop where
  marks : ∀ c, item (.mark c) = none
  reads : ∀ value, ∃ token, Item (write value) token ∧ item token = some value

theorem undoes_text : Undoes text? Text.literal where
  marks _ := rfl
  reads value := ⟨_, item_literal value, by simp [text?]⟩

theorem Undoes.map {item : Token → Option α} {write : α → String} (undoes : Undoes item write)
    (make : α → β) (back : β → α) (inverse : ∀ b, make (back b) = b) :
    Undoes (fun token => (item token).map make) (fun b => write (back b)) where
  marks c := by simp [undoes.marks c]
  reads b := by
    obtain ⟨token, read, value⟩ := undoes.reads (back b)
    exact ⟨token, read, by simp [value, inverse]⟩

theorem Undoes.tokens {item : Token → Option α} {write : α → String} (undoes : Undoes item write)
    (values : List α) :
    ∃ tokens, List.Forall₂ Item (values.map write) tokens ∧ tokens.map item = values.map some := by
  induction values with
  | nil => exact ⟨[], .nil, rfl⟩
  | cons value rest ih =>
    obtain ⟨tokens, items, read⟩ := ih
    obtain ⟨token, item, value_of⟩ := undoes.reads value
    exact ⟨token :: tokens, .cons item items, by simp [read, value_of]⟩

/-- Ways to set the items of a list on lines, with a comma behind each. -/
def Spreads (spread : List String → List String) : Prop :=
  ∀ items tokens, List.Forall₂ Item items tokens → Lexes (joinLines (spread items)) (terminated tokens)

variable {item : Token → Option α} {write : α → String} {spread : List String → List String}

theorem lexes_declaration (undoes : Undoes item write) (spreads : Spreads spread) {head : String}
    {first : List Token} (begun : Lexes head first) (values : List α) :
    ∃ tokens, Lexes (joinLines (Text.listDeclaration 1 head (values.map write) (spread (values.map write))))
      (first ++ tokens) ∧ Takes (list item) tokens values := by
  obtain ⟨tokens, items, read⟩ := undoes.tokens values
  obtain ⟨listed, shape, lexes⟩ := lexes_listDeclaration 1 begun items (listed_terminated tokens)
    (spreads _ _ items)
  exact ⟨_, lexes, takes_list undoes.marks shape read⟩

theorem recovers_table (undoes : Undoes item write) (spreads : Spreads spread) {head : String}
    (read : (tokens? head).isSome) (values : List α) :
    Recovers (table head item)
      (Text.listDeclaration 1 head (values.map write) (spread (values.map write))) values := by
  obtain ⟨first, begun⟩ := lexes_of_isSome read
  obtain ⟨tokens, lexes, takes⟩ := lexes_declaration undoes spreads begun values
  exact ⟨_, lexes, (takes_expect begun).bind takes⟩

theorem recovers_sizedTable (undoes : Undoes item write) (spreads : Spreads spread)
    {before behind : String} (read : (tokens? before).isSome) (others : (tokens? behind).isSome)
    (apart : Apart behind) (size : Nat) (values : List α) :
    Recovers (sizedTable before behind item)
      (Text.listDeclaration 1 (before ++ toString size ++ behind) (values.map write)
        (spread (values.map write))) (size, values) := by
  obtain ⟨first, begun⟩ := lexes_of_isSome read
  obtain ⟨last, ended⟩ := lexes_of_isSome others
  obtain ⟨token, head, number⟩ := lexes_number begun apart ended size
  obtain ⟨tokens, lexes, takes⟩ := lexes_declaration undoes spreads head values
  refine ⟨_, lexes, ?_⟩
  have split : first ++ token :: last ++ tokens = first ++ ([token] ++ (last ++ (tokens ++ []))) := by simp
  rw [split]
  refine (takes_expect begun).bind ((takes_one number).bind ((takes_expect ended).bind ?_))
  exact takes.bind (takes_pure (size, values))

theorem spreads_fill (level : Nat) : Spreads (Text.fill level) := fun _ _ => lexes_fill level

theorem spreads_stack (level : Nat) : Spreads (Text.stack level) := fun _ _ => lexes_stack level

end GameTables.Reading
