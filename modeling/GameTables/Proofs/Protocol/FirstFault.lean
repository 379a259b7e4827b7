import GameTables.Proofs.FirstFault
import GameTables.Protocol.Basic

/-!
# Faults of items among others

A fault of an item among others may depend on the items before it: two of them may share a key that each
should have for itself. A check of the items in order reports the first fault.
-/

namespace GameTables

variable {ε α β κ : Type}

/-! ## Items among others -/

/-- All that is wrong with the items of a list, each judged next to the items before it. -/
def faultsAmong (judge : List α → α → List ε) (before : List α) : List α → List ε
  | [] => []
  | a :: rest => judge before a ++ faultsAmong judge (before ++ [a]) rest

theorem faultsAmong_append {judge : List α → α → List ε} {before items more : List α} :
    faultsAmong judge before (items ++ more) =
      faultsAmong judge before items ++ faultsAmong judge (before ++ items) more := by
  induction items generalizing before with
  | nil => simp [faultsAmong]
  | cons a rest ih => simp [faultsAmong, ih]

/-- Nothing is wrong if each item is right by itself and apart from every item before it. -/
theorem faultsAmong_eq_nil_iff {judge : List α → α → List ε} {right : α → Prop} {apart : α → α → Prop}
    (judged : ∀ before a, judge before a = [] ↔ right a ∧ ∀ first ∈ before, apart first a)
    {items : List α} :
    faultsAmong judge [] items = [] ↔ (∀ a ∈ items, right a) ∧ items.Pairwise apart := by
  have next_to (before : List α) : faultsAmong judge before items = [] ↔
      (∀ a ∈ items, right a) ∧ items.Pairwise apart ∧ ∀ first ∈ before, ∀ a ∈ items, apart first a := by
    induction items generalizing before with
    | nil => simp [faultsAmong]
    | cons a rest ih =>
      simp only [faultsAmong, List.append_eq_nil_iff, judged, ih, List.forall_mem_cons,
        List.forall_mem_append, List.pairwise_cons, List.not_mem_nil, false_implies, implies_true,
        and_true]
      constructor
      · rintro ⟨⟨own, apart_a⟩, rights, pairwise, apart_rest, after⟩
        exact ⟨⟨own, rights⟩, ⟨after, pairwise⟩, fun first old => ⟨apart_a first old, apart_rest first old⟩⟩
      · rintro ⟨⟨own, rights⟩, ⟨after, pairwise⟩, apart_before⟩
        exact ⟨⟨own, fun first old => (apart_before first old).1⟩, rights, pairwise,
          fun first old => (apart_before first old).2, after⟩
  simpa using next_to []

/-- The first fault is one of an item that has only right items before it. -/
theorem head?_faultsAmong {judge : List α → α → List ε} {items : List α} {e : ε}
    (first : (faultsAmong judge [] items).head? = some e) :
    ∃ before a rest, items = before ++ a :: rest ∧ faultsAmong judge [] before = [] ∧
      (judge before a).head? = some e := by
  have next_to (before items : List α) (first : (faultsAmong judge before items).head? = some e) :
      ∃ between a rest, items = between ++ a :: rest ∧ faultsAmong judge before between = [] ∧
        (judge (before ++ between) a).head? = some e := by
    induction items generalizing before with
    | nil => cases first
    | cons a rest ih =>
      rw [faultsAmong, List.head?_append, Option.or_eq_some_iff] at first
      rcases first with here | ⟨right, there⟩
      · exact ⟨[], a, rest, rfl, rfl, by simpa using here⟩
      · obtain ⟨between, wrong, rest', rfl, clean, found⟩ := ih _ there
        refine ⟨a :: between, wrong, rest', rfl, ?_, by simpa using found⟩
        rw [faultsAmong, List.head?_eq_none_iff.mp right, clean, List.append_nil]
  simpa using next_to [] items first

/-- A check of items in order reports the first fault, or has what each item makes. -/
theorem checkEach_eq_firstFault {check : List β → α → Except ε β} {judge : List α → α → List ε}
    {make : α → β}
    (judged : ∀ before a, faultsAmong judge [] before = [] →
      check (before.map make).reverse a = firstFault (judge before a) (make a)) (items : List α) :
    Protocol.checkEach check [] items = firstFault (faultsAmong judge [] items) (items.map make) := by
  have next_to (before : List α) (clean : faultsAmong judge [] before = []) :
      Protocol.checkEach check (before.map make).reverse items =
        firstFault (faultsAmong judge before items) ((before ++ items).map make) := by
    induction items generalizing before with
    | nil => simp [Protocol.checkEach, faultsAmong, firstFault]
    | cons a rest ih =>
      rw [Protocol.checkEach, judged before a clean, faultsAmong]
      refine firstFault_bind fun right => ?_
      have clean' : faultsAmong judge [] (before ++ [a]) = [] := by
        simp [faultsAmong_append, faultsAmong, clean, right]
      simpa using ih _ clean'
  simpa using next_to [] rfl

/-! ## Items that share a key -/

variable [DecidableEq κ]

/-- One fault for each item before that has the key of an item. -/
def sharing (key : α → κ) (fault : α → ε) (before : List α) (a : α) : List ε :=
  (before.filter (key · = key a)).map fault

theorem sharing_eq_nil_iff {key : α → κ} {fault : α → ε} {before : List α} {a : α} :
    sharing key fault before a = [] ↔ ∀ first ∈ before, key first ≠ key a := by
  simp [sharing]

/-- The key of an item is that of one item before it and of no second one. -/
def OnlyEarlier (key : α → κ) (items : List α) (first second : α) : Prop :=
  ∃ before rest, items = before ++ second :: rest ∧ before.filter (key · = key second) = [first]

/-- Among items with keys of their own, at most one has a given key. -/
theorem filter_key_eq_singleton {key : α → κ} {before : List α} {first : α} {k : κ}
    (distinct : (before.map key).Nodup) (here : first ∈ before) (same : key first = k) :
    before.filter (key · = k) = [first] := by
  subst same
  induction before with
  | nil => cases here
  | cons a rest ih =>
    obtain ⟨apart, distinct⟩ := List.nodup_cons.mp distinct
    rcases List.mem_cons.mp here with rfl | here
    · rw [List.filter_cons_of_pos (by simp), List.filter_eq_nil_iff.mpr]
      intro b there
      rw [decide_eq_true_iff]
      exact fun same => apart (same ▸ List.mem_map_of_mem there)
    · rw [List.filter_cons_of_neg, ih distinct here]
      rw [decide_eq_true_iff]
      exact fun same => apart (same ▸ List.mem_map_of_mem here)

/-- A fault of an item that shares its key names the only item before it with this key. -/
theorem onlyEarlier_of_mem_sharing {key : α → κ} {fault : α → ε} {items before rest : List α} {a : α}
    {e : ε} (split : items = before ++ a :: rest) (distinct : (before.map key).Nodup)
    (shared : e ∈ sharing key fault before a) :
    ∃ first ∈ before, key first = key a ∧ OnlyEarlier key items first a ∧ fault first = e := by
  obtain ⟨first, here, rfl⟩ := List.mem_map.mp shared
  obtain ⟨here, same⟩ := List.mem_filter.mp here
  have same := of_decide_eq_true same
  exact ⟨first, here, same, ⟨before, rest, split, filter_key_eq_singleton distinct here same⟩, rfl⟩

variable {fault : α → ε} {before : List α} (a : α) (key : α → κ)

/-- A look at the results of the items before, last one first, finds no sharer if there is none. -/
theorem sharing_of_find?_eq_none {make : α → β} {p : β → Bool}
    (nowhere : (before.map make).reverse.find? p = none)
    (agree : ∀ first ∈ before, p (make first) = true ↔ key first = key a) :
    sharing key fault before a = [] := by
  rw [sharing_eq_nil_iff]
  intro first here same
  simp only [List.find?_eq_none, List.mem_reverse, List.forall_mem_map] at nowhere
  exact nowhere first here ((agree first here).mpr same)

/-- A look at the results of the items before, last one first, finds the only sharer. -/
theorem sharing_of_find?_eq_some {make : α → β} {p : β → Bool} {found : β}
    (somewhere : (before.map make).reverse.find? p = some found)
    (agree : ∀ first ∈ before, p (make first) = true ↔ key first = key a)
    (distinct : (before.map key).Nodup) :
    ∃ first ∈ before, make first = found ∧ sharing key fault before a = [fault first] := by
  obtain ⟨first, here, rfl⟩ :=
    List.mem_map.mp (List.mem_reverse.mp (List.mem_of_find?_eq_some somewhere))
  have same := (agree first here).mp (List.find?_some somewhere)
  exact ⟨first, here, rfl, by rw [sharing, filter_key_eq_singleton distinct here same]; rfl⟩

end GameTables
