import GameTables.Proofs.Traversal

/-!
# Checks that report the first fault

A check that stops at the first thing that is wrong answers for the list of all that is wrong: with the
first of the list, or with a result if the list is empty.
-/

namespace GameTables

variable {ε α β : Type}

/-- The first of the faults, or the result if there is none. -/
def firstFault : List ε → β → Except ε β
  | [], b => .ok b
  | e :: _, _ => .error e

theorem firstFault_eq_ok_iff {faults : List ε} {b b' : β} :
    firstFault faults b = .ok b' ↔ faults = [] ∧ b = b' := by
  cases faults <;> simp [firstFault]

theorem firstFault_eq_error_iff {faults : List ε} {b : β} {e : ε} :
    firstFault faults b = .error e ↔ faults.head? = some e := by
  cases faults <;> simp [firstFault]

/-- The faults of a second check come behind those of the first. -/
theorem firstFault_bind {faults later : List ε} {a : α} {b : β} {next : α → Except ε β}
    (continued : faults = [] → next a = firstFault later b) :
    firstFault faults a >>= next = firstFault (faults ++ later) b := by
  cases faults with
  | nil => exact continued rfl
  | cons e rest => rfl

theorem firstFault_bind_return {faults : List ε} {a : α} {make : α → β} :
    (do return make (← firstFault faults a)) = firstFault faults (make a) := by
  cases faults <;> rfl

/-- A condition that stops a check is a fault in front of those that are found behind it. -/
theorem throw_or_eq_firstFault {stop : Prop} [Decidable stop] {e : ε} {next : PUnit → Except ε β}
    {later : List ε} {b : β} (continued : ¬ stop → next ⟨⟩ = firstFault later b) :
    (if stop then throw e >>= next else next ⟨⟩) =
      firstFault ((if stop then [e] else []) ++ later) b := by
  by_cases stops : stop
  · simp only [if_pos stops]
    rfl
  · simp only [if_neg stops]
    exact continued stops

/-- A check of all elements reports the first fault of the first element that has one. -/
theorem mapM_eq_firstFault {check : α → Except ε β} {judge : α → List ε} {make : α → β}
    (judged : ∀ a, check a = firstFault (judge a) (make a)) (items : List α) :
    items.mapM check = firstFault (items.flatMap judge) (items.map make) := by
  induction items with
  | nil => rfl
  | cons a rest ih =>
    rw [List.mapM_cons, judged, List.flatMap_cons, ih]
    exact firstFault_bind fun _ => firstFault_bind_return

/-! ## Places -/

/-- All that is wrong with the element at a place of a list; nothing, if there is none. -/
def faultsAt (judge : Nat → α → List ε) (l : List α) (i : Nat) : List ε :=
  (l[i]?).elim [] (judge i)

variable {judge : Nat → α → List ε} {l : List α} {i : Nat}

theorem faultsAt_eq_nil_iff : faultsAt judge l i = [] ↔ ∀ a, l[i]? = some a → judge i a = [] := by
  unfold faultsAt
  cases l[i]? <;> simp

theorem head?_faultsAt_eq_some_iff {e : ε} :
    (faultsAt judge l i).head? = some e ↔ ∃ a, l[i]? = some a ∧ (judge i a).head? = some e := by
  unfold faultsAt
  cases l[i]? <;> simp

/-- A check of all elements, each in its place, reports the first fault of the first element that has one
there. -/
theorem mapM_eq_error_iff_faultsAt {γ : Type} {check : γ → Except ε β} {place : Nat → α → γ}
    {make : Nat → α → β} {placed : List γ}
    (at_place : ∀ i : Nat, placed[i]? = l[i]?.map (place i))
    (reports : ∀ i a, check (place i a) = firstFault (judge i a) (make i a)) {e : ε} :
    placed.mapM check = .error e ↔
      ∃ i, (faultsAt judge l i).head? = some e ∧ ∀ j < i, faultsAt judge l j = [] := by
  simp only [mapM_placed_eq_error_iff at_place, reports, firstFault_eq_error_iff, firstFault_eq_ok_iff,
    exists_and_left, exists_eq', and_true, head?_faultsAt_eq_some_iff, faultsAt_eq_nil_iff,
    ← exists_and_right, and_assoc]

/-- A check that reports the first fault has a result if there is none. -/
theorem exists_ok_of_faultless {result : Except ε β} {faults : Nat → List ε}
    (reports : ∀ e, result = .error e ↔ ∃ i, (faults i).head? = some e ∧ ∀ j < i, faults j = [])
    (faultless : ∀ i, faults i = []) : ∃ b, result = .ok b := by
  cases checked : result with
  | ok b => exact ⟨b, rfl⟩
  | error e =>
    obtain ⟨i, wrong, _⟩ := (reports e).mp checked
    rw [faultless i] at wrong
    cases wrong

end GameTables
