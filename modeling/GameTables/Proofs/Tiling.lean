import Mathlib.Algebra.GroupWithZero.Nat
import GameTables.Offsets
import GameTables.Proofs.Traversal

/-!
# Items laid end to end

Where the items of a list begin when they are laid end to end, and which item a place belongs to.
Every place before the end belongs to exactly one item.
-/

namespace GameTables

/-- The place where an item begins: what the items before it take up. -/
def beginOf (sizes : List Nat) (i : Nat) : Nat := (sizes.take i).sum

@[simp] theorem beginOf_zero (sizes : List Nat) : beginOf sizes 0 = 0 := by
  simp [beginOf]

@[simp] theorem beginOf_cons_succ (size : Nat) (sizes : List Nat) (i : Nat) :
    beginOf (size :: sizes) (i + 1) = size + beginOf sizes i := by
  simp [beginOf]

theorem beginOf_succ {sizes : List Nat} {i size : Nat} (at_i : sizes[i]? = some size) :
    beginOf sizes (i + 1) = beginOf sizes i + size := by
  simp [beginOf, List.take_add_one, at_i]

theorem beginOf_length (sizes : List Nat) : beginOf sizes sizes.length = sizes.sum := by
  simp [beginOf]

theorem beginOf_le {sizes : List Nat} {i j : Nat} (order : i ≤ j) :
    beginOf sizes i ≤ beginOf sizes j := by
  induction sizes generalizing i j with
  | nil => simp [beginOf]
  | cons size rest ih =>
    cases i with
    | zero => simp
    | succ i =>
      cases j with
      | zero => omega
      | succ j =>
        have shorter := ih (show i ≤ j by omega)
        simp only [beginOf_cons_succ]
        omega

/-- An item ends before any later one begins. -/
theorem end_le_beginOf {sizes : List Nat} {i j size : Nat} (at_i : sizes[i]? = some size)
    (order : i < j) : beginOf sizes i + size ≤ beginOf sizes j := by
  rw [← beginOf_succ at_i]
  exact beginOf_le order

theorem end_le_sum {sizes : List Nat} {i size : Nat} (at_i : sizes[i]? = some size) :
    beginOf sizes i + size ≤ sizes.sum := by
  obtain ⟨inside, _⟩ := List.getElem?_eq_some_iff.mp at_i
  rw [← beginOf_length]
  exact end_le_beginOf at_i inside

theorem getElem?_offsets (start : Nat) {sizes : List Nat} {i : Nat} (inside : i < sizes.length) :
    (offsets start sizes)[i]? = some (start + beginOf sizes i) := by
  induction sizes generalizing start i with
  | nil => simp at inside
  | cons size rest ih =>
    cases i with
    | zero => simp
    | succ i =>
      rw [offsets_cons, List.getElem?_cons_succ, ih (start + size) (by simpa using inside)]
      simp [Nat.add_assoc]

theorem offsets_append (start : Nat) (sizes others : List Nat) :
    offsets start (sizes ++ others) = offsets start sizes ++ offsets (start + sizes.sum) others := by
  induction sizes generalizing start with
  | nil => simp
  | cons size rest ih =>
    rw [List.cons_append, offsets_cons, offsets_cons, ih, List.sum_cons, Nat.add_assoc, List.cons_append]

/-- Elements keep their numbers when others are put behind them. -/
theorem zipIdx_isPrefix {α : Type} {l longer : List α} (begins : l <+: longer) :
    l.zipIdx <+: longer.zipIdx := by
  obtain ⟨rest, rfl⟩ := begins
  rw [List.zipIdx_append]
  exact List.prefix_append _ _

/-- Elements keep their places when others are laid behind them. -/
theorem zip_offsets_isPrefix {α : Type} {size : α → Nat} {l longer : List α} (begins : l <+: longer) :
    l.zip (offsets 0 (l.map size)) <+: longer.zip (offsets 0 (longer.map size)) := by
  obtain ⟨rest, rfl⟩ := begins
  rw [List.map_append, offsets_append, List.zip_append (by simp)]
  exact List.prefix_append _ _

/-- An element beside the place where it begins. -/
theorem getElem?_zip_offsets {α : Type} {size : α → Nat} {l : List α} {i : Nat} {a : α}
    (at_i : l[i]? = some a) :
    (l.zip (offsets 0 (l.map size)))[i]? = some (a, beginOf (l.map size) i) := by
  obtain ⟨inside, _⟩ := List.getElem?_eq_some_iff.mp at_i
  have begun : (offsets 0 (l.map size))[i]? = _ :=
    getElem?_offsets 0 (by simpa using inside)
  rw [Nat.zero_add] at begun
  exact List.getElem?_zip_eq_some.mpr ⟨at_i, begun⟩

theorem getElem?_zip_offsets_iff {α : Type} {size : α → Nat} {l : List α} {i begun : Nat} {a : α} :
    (l.zip (offsets 0 (l.map size)))[i]? = some (a, begun) ↔
      l[i]? = some a ∧ beginOf (l.map size) i = begun := by
  constructor
  · intro paired
    obtain ⟨at_i, _⟩ := List.getElem?_zip_eq_some.mp paired
    rw [getElem?_zip_offsets at_i, Option.some.injEq, Prod.mk.injEq] at paired
    exact ⟨at_i, paired.2⟩
  · rintro ⟨at_i, rfl⟩
    exact getElem?_zip_offsets at_i

theorem getElem?_zip_offsets_eq {α : Type} (size : α → Nat) (l : List α) (i : Nat) :
    (l.zip (offsets 0 (l.map size)))[i]? = l[i]?.map fun a => (a, beginOf (l.map size) i) := by
  cases at_i : l[i]? with
  | none =>
    rw [Option.map_none, List.getElem?_eq_none_iff, List.length_zip, length_offsets, List.length_map,
      Nat.min_self]
    exact List.getElem?_eq_none_iff.mp at_i
  | some a => rw [getElem?_zip_offsets at_i, Option.map_some]

/-- What holds of all elements beside the places where they begin. -/
theorem forall_mem_zip_offsets {α : Type} {size : α → Nat} {l : List α} {P : α × Nat → Prop} :
    (∀ item ∈ l.zip (offsets 0 (l.map size)), P item) ↔
      ∀ (i : Nat) (a : α), l[i]? = some a → P (a, beginOf (l.map size) i) := by
  constructor
  · intro all i a at_i
    exact all _ (List.mem_of_getElem? (getElem?_zip_offsets at_i))
  · rintro all ⟨a, begun⟩ member
    obtain ⟨i, paired⟩ := List.mem_iff_getElem?.mp member
    obtain ⟨at_i, rfl⟩ := getElem?_zip_offsets_iff.mp paired
    exact all i a at_i

/-- A check of all elements beside the places where they begin reports the first that fails there. -/
theorem mapM_zip_offsets_eq_error_iff {ε α β : Type} {size : α → Nat} {l : List α}
    {check : α × Nat → Except ε β} {e : ε} :
    (l.zip (offsets 0 (l.map size))).mapM check = .error e ↔
      ∃ (i : Nat) (a : α), l[i]? = some a ∧ check (a, beginOf (l.map size) i) = .error e ∧
        ∀ j < i, ∀ a', l[j]? = some a' → ∃ b, check (a', beginOf (l.map size) j) = .ok b :=
  mapM_placed_eq_error_iff (getElem?_zip_offsets_eq size l)

/-! ## Which item a place belongs to -/

/-- A place lies inside an item. -/
def InItem (sizes : List Nat) (i place : Nat) : Prop :=
  ∃ size, sizes[i]? = some size ∧ beginOf sizes i ≤ place ∧ place < beginOf sizes i + size

theorem exists_inItem {sizes : List Nat} {place : Nat} (inside : place < sizes.sum) :
    ∃ i, InItem sizes i place := by
  induction sizes generalizing place with
  | nil => simp at inside
  | cons size rest ih =>
    by_cases first : place < size
    · exact ⟨0, size, rfl, by simp, by simpa using first⟩
    · rw [List.sum_cons] at inside
      obtain ⟨i, found, at_i, lower, upper⟩ := ih (show place - size < rest.sum by omega)
      refine ⟨i + 1, found, by simpa using at_i, ?_, ?_⟩
      · rw [beginOf_cons_succ]
        omega
      · rw [beginOf_cons_succ]
        omega

/-- Later places belong to later items. -/
theorem InItem.mono {sizes : List Nat} {i j place place' : Nat} (item : InItem sizes i place)
    (item' : InItem sizes j place') (order : place ≤ place') : i ≤ j := by
  obtain ⟨_, at_i, lower, upper⟩ := item
  obtain ⟨_, at_j, lower', upper'⟩ := item'
  by_cases later : j < i
  · have apart := end_le_beginOf at_j later
    omega
  · omega

theorem InItem.unique {sizes : List Nat} {i j place : Nat} (item : InItem sizes i place)
    (item' : InItem sizes j place) : i = j :=
  Nat.le_antisymm (item.mono item' (Nat.le_refl _)) (item'.mono item (Nat.le_refl _))

/-! ## Lists laid end to end -/

variable {α β : Type}

/-- What stands at a place inside the part that an element is turned into. -/
theorem getElem?_flatMap {f : α → List β} {l : List α} {i j : Nat} {a : α} (at_i : l[i]? = some a)
    (inside : j < (f a).length) :
    (l.flatMap f)[beginOf (l.map fun a => (f a).length) i + j]? = (f a)[j]? := by
  induction l generalizing i with
  | nil => simp at at_i
  | cons first rest ih =>
    cases i with
    | zero =>
      cases at_i
      simp [List.getElem?_append_left inside]
    | succ i =>
      rw [List.getElem?_cons_succ] at at_i
      rw [List.flatMap_cons, List.map_cons, beginOf_cons_succ, Nat.add_assoc,
        List.getElem?_append_right (by omega), Nat.add_sub_cancel_left, ih at_i]

/-- The part that an element is turned into, cut out of the whole. -/
theorem slice_flatMap {f : α → List β} {l : List α} {i : Nat} {a : α} (at_i : l[i]? = some a) :
    ((l.flatMap f).drop (beginOf (l.map fun a => (f a).length) i)).take (f a).length = f a := by
  induction l generalizing i with
  | nil => simp at at_i
  | cons first rest ih =>
    cases i with
    | zero =>
      cases at_i
      simp
    | succ i =>
      rw [List.getElem?_cons_succ] at at_i
      rw [List.flatMap_cons, List.map_cons, beginOf_cons_succ, ← List.drop_drop, List.drop_left,
        ih at_i]

/-- Parts, each given by its place and its size, lie end to end from one place to another. -/
def Tiles (start stop : Nat) : List (Nat × Nat) → Prop
  | [] => start = stop
  | (place, size) :: rest => place = start ∧ Tiles (start + size) stop rest

/-- Parts that begin at the running totals of their sizes lie end to end. -/
theorem tiles_offsets (start : Nat) (sizes : List Nat) :
    Tiles start (start + sizes.sum) ((offsets start sizes).zip sizes) := by
  induction sizes generalizing start with
  | nil => simp [Tiles]
  | cons size rest ih =>
    rw [offsets_cons, List.zip_cons_cons, List.sum_cons, ← Nat.add_assoc]
    exact ⟨rfl, ih (start + size)⟩

end GameTables
