import GameTables.Json.Value

/-!
# What readers give

A reader gives values of a kind when everything that it gives on any text is of that kind. For the readers
of lists, maps and records this comes from the readers of what they hold. The integers of a JSON value are
the result: whatever the text is, they fit 64 bits.
-/

namespace GameTables.Json

variable {α β : Type}

/-- Whatever a reader gives is of a kind. -/
def Gives (reader : ReadM α) (kind : α → Prop) : Prop :=
  ∀ (before : Cursor) (a : α) (later : Cursor), reader before = .ok (a, later) → kind a

namespace Gives

variable {kind : α → Prop} {kind' : β → Prop}

theorem pure {a : α} (here : kind a) : Gives (pure a) kind := by
  rintro before b later same
  cases same
  exact here

/-- A reader with a second one behind it gives what the second gives for what the first gives. -/
theorem bind {reader : ReadM α} {next : α → ReadM β} (first : Gives reader kind)
    (second : ∀ a, kind a → Gives (next a) kind') : Gives (reader >>= next) kind' := by
  intro before b later passed
  change (reader before >>= fun result => next result.1 result.2) = _ at passed
  cases read : reader before with
  | error fault =>
    rw [read] at passed
    cases passed
  | ok result =>
    rw [read] at passed
    exact second result.1 (first before result.1 result.2 read) result.2 b later passed

/-- What is read first need not be of any kind. -/
theorem after {reader : ReadM α} {next : α → ReadM β} (second : ∀ a, Gives (next a) kind') :
    Gives (reader >>= next) kind' := by
  have anything : Gives reader fun _ => True := fun _ _ _ _ => trivial
  exact bind anything fun a _ => second a

theorem failHere (reason : Reason) : Gives (failHere reason) kind := nofun

theorem failNext (reason : Reason) : Gives (failNext reason) kind := nofun

theorem ite {condition : Prop} [Decidable condition] {yes no : ReadM α} (holds : Gives yes kind)
    (fails : Gives no kind) : Gives (if condition then yes else no) kind := by
  split
  · exact holds
  · exact fails

/-- A refusal of what was found gives nothing. -/
theorem unexpected (expected : String) : Gives (unexpected expected) kind := by
  refine after fun c => ?_
  split
  case h_1 => exact after fun _ => after fun _ => failHere _
  case h_2 => exact after fun _ => after fun _ => failHere _
  case h_3 => exact after fun _ => after fun _ => failHere _
  case h_4 => exact after fun _ => failHere _
  case h_5 => exact failHere _
  case h_6 => exact failHere _
  case h_7 =>
    refine ite (after fun n => ?_) (failNext _)
    cases n with
    | integer n => exact failHere _
    | float f => exact failHere _

theorem failInObject (reason : Reason) : Gives (failInObject reason) kind :=
  after fun _ => ite (after fun _ => failHere _) (failHere _)

theorem failInArray (reason : Reason) : Gives (failInArray reason) kind :=
  after fun _ => ite (after fun _ => failHere _) (failHere _)

theorem enter {room : Nat} {inside : Nat → ReadM α} (gives : ∀ inner, Gives (inside inner) kind) :
    Gives (enter room inside) kind := by
  cases room with
  | zero => exact failNext _
  | succ inner => exact after fun _ => gives inner

/-! ## Lists and maps -/

theorem elementsFrom {element : ReadM α} (gives : Gives element kind) {read : List α}
    (earlier : ∀ a ∈ read, kind a) (bound : List Char) :
    Gives (elementsFrom element read bound) fun elements => ∀ a ∈ elements, kind a := by
  induction bound generalizing read with
  | nil => exact failNext _
  | cons c bound ih =>
    refine after fun more => ite ?_ ?_
    · exact bind gives fun a here => ih (List.forall_mem_cons.mpr ⟨here, earlier⟩)
    · exact after fun _ => pure fun a member => earlier a (List.mem_reverse.mp member)

theorem entriesFrom {element : ReadM α} (gives : Gives element kind) {read : List (String × α)}
    (earlier : ∀ entry ∈ read, kind entry.2) (bound : List Char) :
    Gives (entriesFrom element read bound) fun entries => ∀ entry ∈ entries, kind entry.2 := by
  induction bound generalizing read with
  | nil => exact failNext _
  | cons c bound ih =>
    refine after fun more => ite ?_ ?_
    · refine after fun key => after fun _ => bind gives fun a here => ?_
      exact ih (List.forall_mem_cons.mpr ⟨here, earlier⟩)
    · exact after fun _ => pure fun entry member => earlier entry (List.mem_reverse.mp member)

theorem entries {element : Decoder α} (gives : ∀ room, Gives (element room) kind) (room : Nat) :
    Gives (entries element room) fun entries => ∀ entry ∈ entries, kind entry.2 := by
  refine after fun c => ite ?_ (unexpected _)
  exact enter fun inner => after fun _ => entriesFrom (gives inner) (List.forall_mem_nil _) _

/-! ## Records -/

section

variable {ρ : Type} {shape : Shape ρ} {kind : ρ → Prop}

/-- Reading a field leaves a record of a kind as one. -/
def Preserves (field : Field ρ) (kind : ρ → Prop) : Prop :=
  ∀ record, kind record → ∀ room, Gives (field.read record room) kind

theorem must {name : String} {decoder : Decoder α} {put : ρ → α → ρ} {taken : α → Prop}
    (gives : ∀ room, Gives (decoder room) taken)
    (fills : ∀ record a, kind record → taken a → kind (put record a)) :
    Preserves (.must name decoder put) kind :=
  fun _ here room => bind (gives room) fun a given => pure (fills _ a here given)

theorem fromObject (preserves : ∀ field ∈ shape.fields, Preserves field kind) (inner : Nat)
    (first : Bool) (seen : List String) {record : ρ} (here : kind record) (bound : List Char) :
    Gives (shape.fromObject inner first seen record bound) kind := by
  induction bound generalizing first seen record with
  | nil => exact failNext _
  | cons c bound ih =>
    refine after fun more => ite ?_ ?_
    · refine after fun key => ?_
      split
      · exact after fun _ => after fun _ => ih false seen here
      · next field found =>
        have known := preserves field (List.mem_of_find?_eq_some found)
        refine ite (failInObject _) (after fun _ => ?_)
        exact bind (known record here inner) fun filled kept => ih false _ kept
    · split
      · exact failInObject _
      · exact after fun _ => pure here

theorem fromArray {fields : List (Field ρ)} (preserves : ∀ field ∈ fields, Preserves field kind)
    (inner index : Nat) {record : ρ} (here : kind record) :
    Gives (shape.fromArray inner index record fields) kind := by
  induction fields generalizing index record with
  | nil => exact pure here
  | cons field rest ih =>
    obtain ⟨first, others⟩ := List.forall_mem_cons.mp preserves
    refine after fun more => ite ?_ (ite ?_ ?_)
    · exact bind (first record here inner) fun filled kept => ih others _ kept
    · exact failInArray _
    · exact ih others _ here

theorem decoder (preserves : ∀ field ∈ shape.fields, Preserves field kind) (blank : kind shape.blank)
    (room : Nat) : Gives (shape.decoder room) kind := by
  refine after fun c => ?_
  split
  case h_1 => exact enter fun inner => after fun _ => fromObject preserves inner _ _ blank _
  case h_2 =>
    refine enter fun inner => bind (fromArray preserves inner 0 blank) fun record kept => ?_
    exact after fun _ => pure kept
  case h_3 => exact unexpected _

end

/-- What a reader gives in the middle of a text it gives for a whole text. -/
theorem run {decoder : Decoder α} (gives : ∀ room, Gives (decoder room) kind) {text : String} {a : α}
    (passed : decoder.run text = .ok a) : kind a := by
  unfold Decoder.run at passed
  cases read : decoder maxNesting (Cursor.start text) with
  | error fault =>
    simp only [StateT.run, read, Except.bind, Bind.bind] at passed
    cases passed
  | ok result =>
    obtain ⟨b, later⟩ := result
    simp only [StateT.run, read, Except.bind, Bind.bind] at passed
    split at passed
    · cases passed
      exact gives maxNesting _ _ _ read
    · cases passed

end Gives

/-! ## Numbers -/

/-- The integers that fit 64 bits, with a sign or without. -/
def Number.Fits : Number → Prop
  | .integer n => -(maxSigned64 + 1 : Int) ≤ n ∧ n ≤ maxUnsigned64
  | .float _ => True

theorem absorb_le {significand : Nat} (fits : significand ≤ maxUnsigned64) (digits : List Nat) :
    (absorb significand digits).1 ≤ maxUnsigned64 := by
  induction digits generalizing significand with
  | nil => exact fits
  | cons d rest ih =>
    unfold absorb
    split
    · next still => exact ih still
    · exact fits

namespace Gives

theorem floatNumber (negative : Bool) (significand : Nat) (exponent : Int) :
    Gives (floatNumber negative significand exponent) Number.Fits := by
  unfold Json.floatNumber
  split
  · exact pure trivial
  · exact failHere _

theorem exponentPart (negative : Bool) (significand : Nat) (exponent : Int) :
    Gives (exponentPart negative significand exponent) Number.Fits := by
  refine after fun _ => after fun _ => after fun _ => ?_
  extract_lets behindSign
  have gives (u : Unit) : Gives (behindSign u) Number.Fits := by
    refine after fun before => after fun found => ?_
    split
    · exact ite (failHere _) (failNext _)
    · split
      · exact floatNumber _ _ _
      · exact ite (after fun _ => failHere _) (pure trivial)
  exact ite (after gives) (gives ⟨⟩)

theorem fractionPart (negative : Bool) (significand : Nat) (exponent : Int) :
    Gives (fractionPart negative significand exponent) Number.Fits := by
  refine after fun _ => after fun found => ?_
  split
  · exact after fun _ => ite (failHere _) (failNext _)
  · refine after fun _ => ?_
    split
    · exact exponentPart _ _ _
    · exact exponentPart _ _ _
    · exact floatNumber _ _ _

theorem unsignedNumber (negative : Bool) : Gives (unsignedNumber negative) Number.Fits := by
  refine after fun c => ?_
  split
  · exact failHere _
  · refine ite (failNext _) ?_
    -- The branches for a leading zero come together twice: at its digits and behind them.
    extract_lets behindDigits behindZero
    have digits (found : List Nat) : Gives (behindDigits found) Number.Fits := by
      have fits := absorb_le (Nat.zero_le maxUnsigned64) found
      refine after fun _ => ?_
      split
      · exact fractionPart _ _ _
      · exact exponentPart _ _ _
      · exact exponentPart _ _ _
      · refine ite (floatNumber _ _ _) (ite (pure ?_) ?_)
        · simp only [Number.Fits]
          omega
        · split
          · exact pure trivial
          · -- A negative number that does not fit has become a float.
            next small =>
            refine pure ?_
            simp only [Number.Fits]
            omega
    have zero (u : Unit) : Gives (behindZero u) Number.Fits := ite (after digits) (after digits)
    refine ite (after fun _ => after fun next => ?_) (zero ⟨⟩)
    split
    · exact ite (after zero) (zero ⟨⟩)
    · exact zero ⟨⟩

theorem number : Gives number Number.Fits :=
  after fun _ => ite (after fun _ => unsignedNumber true) (unsignedNumber false)

end Gives

/-! ## Values -/

/-- All integers of a value fit. -/
inductive Value.Fits : Value → Prop where
  | null : Fits .null
  | boolean (b : Bool) : Fits (.boolean b)
  | number {n : Number} (fits : n.Fits) : Fits (.number n)
  | string (s : String) : Fits (.string s)
  | array {elements : List Value} (fits : ∀ element ∈ elements, Fits element) : Fits (.array elements)
  | object {entries : List (String × Value)} (fits : ∀ entry ∈ entries, Fits entry.2) :
    Fits (.object entries)

namespace Gives

theorem valueWith {inside : Option (ReadM Value)} (gives : ∀ element ∈ inside, Gives element Value.Fits) :
    Gives (valueWith inside) Value.Fits := by
  refine after fun c => ?_
  split
  case h_1 => exact after fun _ => after fun _ => pure .null
  case h_2 => exact after fun _ => after fun _ => pure (.boolean true)
  case h_3 => exact after fun _ => after fun _ => pure (.boolean false)
  case h_4 => exact after fun s => pure (.string s)
  case h_5 =>
    split
    · exact failNext _
    · next element =>
      have elements := elementsFrom (gives element rfl) (List.forall_mem_nil _)
      exact after fun _ => after fun _ => bind (elements _) fun _ fits => pure (.array fits)
  case h_6 =>
    split
    · exact failNext _
    · next element =>
      have entries := entriesFrom (gives element rfl) (List.forall_mem_nil _)
      exact after fun _ => after fun _ => bind (entries _) fun _ fits => pure (.object fits)
  case h_7 => exact ite (bind number fun n fits => pure (.number fits)) (failNext _)

/-- By induction over the brackets that may still be opened. -/
theorem value (room : Nat) : Gives (value room) Value.Fits := by
  induction room with
  | zero => exact valueWith nofun
  | succ room ih =>
    refine valueWith fun element here => ?_
    cases here
    exact ih

end Gives

end GameTables.Json
