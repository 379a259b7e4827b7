import Mathlib.Data.List.Forall2
import Mathlib.Tactic.Ring

/-!
# Mixed radix

A tuple of digits, each below a base of its own, stands for a number, the first digit being the most
significant. Taking digits off a number from the last one on finds the only tuple that stands for it.
-/

namespace GameTables.MixedRadix

/-- The number that digits stand for, the first one being the most significant. -/
def number (bases digits : List Nat) : Nat :=
  (bases.zip digits).foldl (fun n (base, digit) => n * base + digit) 0

/-- Each digit is below its base. -/
def Tuple (bases digits : List Nat) : Prop :=
  List.Forall₂ (fun base digit => digit < base) bases digits

/-- Takes digits off a number, the least significant first. What is left comes second. -/
def takeOff : List Nat → Nat → List Nat × Nat
  | [], n => ([], n)
  | base :: rest, n =>
    let (digits, left) := takeOff rest (n / base)
    (n % base :: digits, left)

theorem takeOff_cons (base : Nat) (rest : List Nat) (n : Nat) :
    takeOff (base :: rest) n =
      (n % base :: (takeOff rest (n / base)).1, (takeOff rest (n / base)).2) := rfl

theorem tuple_reverse_iff {bases digits : List Nat} :
    Tuple bases.reverse digits.reverse ↔ Tuple bases digits :=
  List.forall₂_reverse_iff

theorem number_reverse_cons {bases digits : List Nat} (same : bases.length = digits.length)
    (base digit : Nat) :
    number (base :: bases).reverse (digit :: digits).reverse =
      number bases.reverse digits.reverse * base + digit := by
  rw [number, List.reverse_cons, List.reverse_cons, List.zip_append (by simpa using same),
    List.foldl_append]
  rfl

theorem tuple_takeOff {bases : List Nat} (positive : ∀ base ∈ bases, 0 < base) (n : Nat) :
    Tuple bases (takeOff bases n).1 := by
  induction bases generalizing n with
  | nil => exact .nil
  | cons base rest ih =>
    have below := Nat.mod_lt n (positive base List.mem_cons_self)
    exact .cons below (ih (fun other member => positive other (List.mem_cons_of_mem _ member)) _)

theorem left_takeOff (bases : List Nat) (n : Nat) : (takeOff bases n).2 = n / bases.prod := by
  induction bases generalizing n with
  | nil => simp [takeOff]
  | cons base rest ih =>
    rw [List.prod_cons, ← Nat.div_div_eq_div_mul, ← ih]
    rfl

theorem length_takeOff (bases : List Nat) (n : Nat) :
    bases.length = (takeOff bases n).1.length := by
  induction bases generalizing n with
  | nil => rfl
  | cons base rest ih =>
    rw [takeOff_cons, List.length_cons, List.length_cons, ih (n / base)]

/-- No part of the number is lost. -/
theorem number_takeOff (bases : List Nat) (n : Nat) :
    number bases.reverse (takeOff bases n).1.reverse + (takeOff bases n).2 * bases.prod = n := by
  induction bases generalizing n with
  | nil => simp [takeOff, number]
  | cons base rest ih =>
    rw [takeOff_cons, number_reverse_cons (length_takeOff rest _), List.prod_cons]
    calc
      _ = (number rest.reverse (takeOff rest (n / base)).1.reverse +
          (takeOff rest (n / base)).2 * rest.prod) * base + n % base := by ring
      _ = n / base * base + n % base := by rw [ih]
      _ = n := Nat.div_add_mod' n base

/-- Taking digits off the number that a tuple stands for gives the tuple. -/
theorem takeOff_number {bases digits : List Nat} (tuple : Tuple bases digits) :
    takeOff bases (number bases.reverse digits.reverse) = (digits, 0) := by
  induction tuple with
  | nil => rfl
  | @cons base digit bases digits below rest ih =>
    have positive : 0 < base := Nat.zero_lt_of_lt below
    have last : ∀ m, (m * base + digit) % base = digit := fun m => by
      rw [Nat.add_comm, Nat.add_mul_mod_self_right, Nat.mod_eq_of_lt below]
    have others : ∀ m, (m * base + digit) / base = m := fun m => by
      rw [Nat.add_comm, Nat.add_mul_div_right _ _ positive, Nat.div_eq_of_lt below, Nat.zero_add]
    rw [number_reverse_cons (List.Forall₂.length_eq rest), takeOff_cons, last, others, ih]

/-- A number below the product of the bases has one tuple, found by taking digits off. -/
theorem takeOff_below {bases : List Nat} (positive : ∀ base ∈ bases, 0 < base) {n : Nat}
    (below : n < bases.prod) :
    (takeOff bases n).2 = 0 ∧ Tuple bases.reverse (takeOff bases n).1.reverse ∧
      number bases.reverse (takeOff bases n).1.reverse = n ∧
      ∀ digits, Tuple bases.reverse digits → number bases.reverse digits = n →
        digits = (takeOff bases n).1.reverse := by
  have left : (takeOff bases n).2 = 0 := by rw [left_takeOff, Nat.div_eq_of_lt below]
  refine ⟨left, tuple_reverse_iff.mpr (tuple_takeOff positive n), ?_, ?_⟩
  · have whole := number_takeOff bases n
    rwa [left, Nat.zero_mul, Nat.add_zero] at whole
  · intro digits tuple same
    rw [← List.reverse_reverse digits] at tuple same
    have found := takeOff_number (tuple_reverse_iff.mp tuple)
    rw [same] at found
    rw [found, List.reverse_reverse]

theorem number_reverse_lt {bases digits : List Nat} (tuple : Tuple bases digits) :
    number bases.reverse digits.reverse < bases.prod := by
  induction tuple with
  | nil => decide
  | @cons base digit bases digits below rest ih =>
    rw [number_reverse_cons (List.Forall₂.length_eq rest), List.prod_cons]
    calc
      _ < number bases.reverse digits.reverse * base + base := Nat.add_lt_add_left below _
      _ = base * (number bases.reverse digits.reverse + 1) := by ring
      _ ≤ base * bases.prod := Nat.mul_le_mul_left base ih

/-- A tuple stands for a number below the product of the bases. -/
theorem number_lt {bases digits : List Nat} (tuple : Tuple bases digits) :
    number bases digits < bases.prod := by
  have below := number_reverse_lt (tuple_reverse_iff.mpr tuple)
  rwa [List.reverse_reverse, List.reverse_reverse, List.prod_reverse] at below

end GameTables.MixedRadix
