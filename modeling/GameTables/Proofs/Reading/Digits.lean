/-!
# Digits

What the digits of a number stand for, in any base up to sixteen, and that they stand for the number
they were written from.
-/

namespace GameTables.Reading

/-- The value of a digit in a base. -/
def digit? (base : Nat) (c : Char) : Option Nat :=
  let value := if c.isDigit then c.toNat - 48 else if 'a' ≤ c then c.toNat - 87 else c.toNat - 55
  if (c.isDigit || 'a' ≤ c && c ≤ 'f' || 'A' ≤ c && c ≤ 'F') ∧ value < base then some value else none

/-- The number that digits behind those of `value` stand for. -/
def numberFrom? (base value : Nat) : List Char → Option Nat
  | [] => some value
  | c :: rest => do numberFrom? base (base * value + (← digit? base c)) rest

/-- The number that digits stand for. There is at least one. -/
def number? (base : Nat) (digits : List Char) : Option Nat :=
  if digits.isEmpty then none else numberFrom? base 0 digits

theorem digit?_digitChar {base d : Nat} (below : d < base) (small : base ≤ 16) :
    digit? base (Nat.digitChar d) = some d := by
  have values : ∀ d : Fin 16, digit? 16 (Nat.digitChar d) = some d.val := by decide
  have value := values ⟨d, by omega⟩
  simp only [digit?, Option.ite_none_right_eq_some, Option.some.injEq] at value ⊢
  exact ⟨⟨value.1.1, by omega⟩, value.2⟩

theorem numberFrom?_append (base value : Nat) (first second : List Char) :
    numberFrom? base value (first ++ second) =
      (numberFrom? base value first).bind fun value => numberFrom? base value second := by
  induction first generalizing value with
  | nil => rfl
  | cons c rest ih =>
    simp only [List.cons_append, numberFrom?, Option.bind_eq_bind, Option.bind_assoc]
    exact Option.bind_congr fun _ _ => ih _

theorem numberFrom?_zeros (base count : Nat) (positive : 0 < base) :
    numberFrom? base 0 (List.replicate count '0') = some 0 := by
  have zero : digit? base '0' = some 0 := by simp [digit?, positive]
  induction count with
  | zero => rfl
  | succ count ih => simpa [List.replicate_succ, numberFrom?, zero] using ih

/-- What holds of single digits and is kept by one more digit holds of the digits of every number. -/
theorem toDigits_induction {base : Nat} (large : 1 < base) {motive : Nat → List Char → Prop}
    (single : ∀ d, d < base → motive d [Nat.digitChar d])
    (snoc : ∀ n d digits, d < base → motive n digits →
      motive (base * n + d) (digits ++ [Nat.digitChar d])) (n : Nat) :
    motive n (Nat.toDigits base n) := by
  induction n using Nat.strongRecOn with
  | ind n ih =>
    by_cases below : n < base
    · rw [Nat.toDigits_of_lt_base below]
      exact single n below
    · have smaller : n / base < n := Nat.div_lt_self (by omega) large
      have step := snoc (n / base) (n % base) _ (Nat.mod_lt _ (by omega)) (ih _ smaller)
      rwa [Nat.div_add_mod, ← Nat.toDigits_of_base_le large (by omega)] at step

/-- The digits of a number stand for it. -/
theorem numberFrom?_toDigits {base : Nat} (large : 1 < base) (small : base ≤ 16) (n : Nat) :
    numberFrom? base 0 (Nat.toDigits base n) = some n := by
  refine toDigits_induction (motive := fun n digits => numberFrom? base 0 digits = some n) large ?_ ?_ n
  · intro d below
    simp [numberFrom?, digit?_digitChar below small]
  · intro n d digits below stands
    simp [numberFrom?_append, stands, numberFrom?, digit?_digitChar below small]

theorem number?_toDigits {base : Nat} (large : 1 < base) (small : base ≤ 16) (zeros n : Nat) :
    number? base (List.replicate zeros '0' ++ Nat.toDigits base n) = some n := by
  simp [number?, Nat.toDigits_ne_nil, numberFrom?_append, numberFrom?_zeros base zeros (by omega),
    numberFrom?_toDigits large small]

end GameTables.Reading
