/-!
# Lists that are checked in order

A check that goes through a list stops at the first element that fails. When all elements pass there
is one result for each, in order.
-/

namespace GameTables

variable {ε α β : Type}

/-- A check with a second one behind it passes when both do. -/
theorem bind_eq_ok_iff {check : Except ε α} {next : α → Except ε β} {b : β} :
    check >>= next = .ok b ↔ ∃ a, check = .ok a ∧ next a = .ok b := by
  constructor
  · intro passed
    cases check with
    | error e => cases passed
    | ok a => exact ⟨a, rfl, passed⟩
  · rintro ⟨a, rfl, passed⟩
    exact passed

theorem eq_ok_of_toOption {result : Except ε α} {a : α} (some : result.toOption = some a) :
    result = .ok a := by
  cases result with
  | ok b => exact congrArg Except.ok (Option.some.inj some)
  | error e => cases some

/-- A check that stops under a condition passes only without it. -/
theorem throw_or_eq_ok_iff {stop : Prop} [Decidable stop] {e : ε} {next : PUnit → Except ε β} {b : β} :
    (if stop then throw e >>= next else next ⟨⟩) = .ok b ↔ ¬ stop ∧ next ⟨⟩ = .ok b := by
  by_cases stops : stop
  · simp only [stops, if_true, not_true, false_and, iff_false]
    intro passed
    cases passed
  · simp [stops]

/-- What is made of the result has no say in whether a check passes. -/
theorem exists_return_eq_ok_iff {check : Except ε α} {make : α → β} :
    (∃ b, (do return make (← check)) = Except.ok b) ↔ ∃ a, check = .ok a := by
  simp only [bind_eq_ok_iff]
  constructor
  · rintro ⟨_, a, passed, _⟩
    exact ⟨a, passed⟩
  · rintro ⟨a, passed⟩
    exact ⟨make a, a, passed, rfl⟩

/-- Nor has it a say in why a check fails. -/
theorem return_eq_error_iff {check : Except ε α} {make : α → β} {e : ε} :
    (do return make (← check)) = Except.error e ↔ check = .error e := by
  cases check <;> simp [bind, Except.bind, pure, Except.pure]

/-- The results of a check of all elements, put beside the elements. -/
theorem mapM_eq_ok_iff {f : α → Except ε β} {l : List α} {l' : List β} :
    l.mapM f = .ok l' ↔ l.map f = l'.map .ok := by
  induction l generalizing l' with
  | nil =>
    constructor
    · intro passed
      cases passed
      rfl
    · intro same
      rw [List.map_nil, eq_comm, List.map_eq_nil_iff] at same
      subst same
      rfl
  | cons a rest ih =>
    simp only [List.mapM_cons, bind_eq_ok_iff, ih, List.map_cons]
    constructor
    · rintro ⟨b, first, bs, later, same⟩
      cases same
      rw [first, later, List.map_cons]
    · intro same
      obtain ⟨b, bs, rfl, first, later⟩ := List.map_eq_cons_iff.mp same.symm
      exact ⟨b, first.symm, bs, later.symm, rfl⟩

/-- A check of all elements passes exactly if each of them passes. -/
theorem exists_mapM_eq_ok_iff {f : α → Except ε β} {l : List α} :
    (∃ l', l.mapM f = .ok l') ↔ ∀ a ∈ l, ∃ b, f a = .ok b := by
  induction l with
  | nil => simp [pure, Except.pure]
  | cons a rest ih =>
    simp only [List.mapM_cons, bind_eq_ok_iff, List.forall_mem_cons, ← ih]
    constructor
    · rintro ⟨_, b, first, bs, later, _⟩
      exact ⟨⟨b, first⟩, bs, later⟩
    · rintro ⟨⟨b, first⟩, bs, later⟩
      exact ⟨b :: bs, b, first, bs, later, rfl⟩

/-- A check of all elements reports the first of them that fails. -/
theorem mapM_eq_error_iff {f : α → Except ε β} {l : List α} {e : ε} :
    l.mapM f = .error e ↔ ∃ (i : Nat) (a : α), l[i]? = some a ∧ f a = .error e ∧
      ∀ j < i, ∀ a', l[j]? = some a' → ∃ b, f a' = .ok b := by
  induction l with
  | nil => simp [pure, Except.pure]
  | cons first rest ih =>
    rw [List.mapM_cons]
    cases head : f first with
    | error e' =>
      have stopped : (Except.error e' >>= fun b => return b :: (← rest.mapM f) : Except ε (List β)) =
        .error e' := rfl
      rw [stopped, Except.error.injEq]
      constructor
      · rintro rfl
        exact ⟨0, first, rfl, head, nofun⟩
      · rintro ⟨i, a, at_i, failed, before⟩
        cases i with
        | zero =>
          cases at_i
          exact Except.error.inj (head.symm.trans failed)
        | succ i =>
          obtain ⟨b, passed⟩ := before 0 (Nat.succ_pos i) first rfl
          cases head.symm.trans passed
    | ok b =>
      have later : (Except.ok b >>= fun b => return b :: (← rest.mapM f) : Except ε (List β)) = .error e ↔
          rest.mapM f = .error e := return_eq_error_iff
      rw [later, ih]
      constructor
      · rintro ⟨i, a, at_i, failed, before⟩
        refine ⟨i + 1, a, at_i, failed, fun j earlier a' at_j => ?_⟩
        cases j with
        | zero =>
          cases at_j
          exact ⟨b, head⟩
        | succ j => exact before j (Nat.lt_of_succ_lt_succ earlier) a' at_j
      · rintro ⟨i, a, at_i, failed, before⟩
        cases i with
        | zero =>
          cases at_i
          cases head.symm.trans failed
        | succ i =>
          exact ⟨i, a, at_i, failed, fun j earlier a' at_j => before (j + 1) (Nat.succ_lt_succ earlier) a' at_j⟩

/-- A check of all elements, each in its place, reports the first of them that fails there. -/
theorem mapM_placed_eq_error_iff {γ : Type} {check : γ → Except ε β} {place : Nat → α → γ} {l : List α}
    {placed : List γ} (at_place : ∀ i : Nat, placed[i]? = l[i]?.map (place i)) {e : ε} :
    placed.mapM check = .error e ↔ ∃ (i : Nat) (a : α), l[i]? = some a ∧ check (place i a) = .error e ∧
      ∀ j < i, ∀ a', l[j]? = some a' → ∃ b, check (place j a') = .ok b := by
  rw [mapM_eq_error_iff]
  simp only [at_place, Option.map_eq_some_iff]
  constructor
  · rintro ⟨i, _, ⟨a, at_i, rfl⟩, failed, before⟩
    exact ⟨i, a, at_i, failed, fun j earlier a' at_j => before j earlier _ ⟨a', at_j, rfl⟩⟩
  · rintro ⟨i, a, at_i, failed, before⟩
    refine ⟨i, _, ⟨a, at_i, rfl⟩, failed, ?_⟩
    rintro j earlier _ ⟨a', at_j, rfl⟩
    exact before j earlier a' at_j

theorem length_of_mapM {f : α → Except ε β} {l : List α} {l' : List β} (passed : l.mapM f = .ok l') :
    l'.length = l.length := by
  simpa using congrArg List.length (mapM_eq_ok_iff.mp passed).symm

/-- What is made of the elements of two lists is the same if it is at each place. -/
theorem map_eq_map_of_getElem? {γ : Type} {l : List α} {l' : List β} {f : α → γ} {g : β → γ}
    (length : l.length = l'.length)
    (agree : ∀ (i : Nat) (a : α), l[i]? = some a → ∃ b, l'[i]? = some b ∧ f a = g b) :
    l.map f = l'.map g := by
  apply List.ext_getElem?
  intro i
  rw [List.getElem?_map, List.getElem?_map]
  cases at_i : l[i]? with
  | none =>
    rw [List.getElem?_eq_none_iff, length] at at_i
    rw [List.getElem?_eq_none at_i]
    rfl
  | some a =>
    obtain ⟨b, found, same⟩ := agree i a at_i
    rw [found, Option.map_some, Option.map_some, same]

/-- Every element has its result at its own place. -/
theorem result_of_mapM {f : α → Except ε β} {l : List α} {l' : List β} (passed : l.mapM f = .ok l')
    {i : Nat} {a : α} (at_i : l[i]? = some a) : ∃ b, l'[i]? = some b ∧ f a = .ok b := by
  have same : (l.map f)[i]? = (l'.map Except.ok)[i]? := by rw [mapM_eq_ok_iff.mp passed]
  rw [List.getElem?_map, List.getElem?_map, at_i, Option.map_some, eq_comm,
    Option.map_eq_some_iff] at same
  obtain ⟨b, found, result⟩ := same
  exact ⟨b, found, result.symm⟩

/-- Every result comes from the element at its place. -/
theorem source_of_mapM {f : α → Except ε β} {l : List α} {l' : List β} (passed : l.mapM f = .ok l')
    {i : Nat} {b : β} (at_i : l'[i]? = some b) : ∃ a, l[i]? = some a ∧ f a = .ok b := by
  have same : (l.map f)[i]? = (l'.map Except.ok)[i]? := by rw [mapM_eq_ok_iff.mp passed]
  rw [List.getElem?_map, List.getElem?_map, at_i, Option.map_some, Option.map_eq_some_iff] at same
  exact same

/-- A check that passes on a list passes on what the list begins with, and its results begin with those. -/
theorem mapM_of_isPrefix {f : α → Except ε β} {l longer : List α} {l' : List β} (begins : l <+: longer)
    (passed : longer.mapM f = .ok l') : ∃ results, l.mapM f = .ok results ∧ results <+: l' := by
  obtain ⟨rest, rfl⟩ := begins
  have same := mapM_eq_ok_iff.mp passed
  rw [List.map_append, List.append_eq_map_iff] at same
  obtain ⟨results, others, rfl, made, _⟩ := same
  exact ⟨results, mapM_eq_ok_iff.mpr made.symm, List.prefix_append results others⟩

/-- Only what a check makes of the elements has a say in what it makes of the list. -/
theorem mapM_congr {f g : α → Except ε β} {l : List α} (agree : ∀ a ∈ l, f a = g a) :
    l.mapM f = l.mapM g := by
  induction l with
  | nil => rfl
  | cons a rest ih =>
    obtain ⟨first, others⟩ := List.forall_mem_cons.mp agree
    rw [List.mapM_cons, List.mapM_cons, first, ih others]

end GameTables
