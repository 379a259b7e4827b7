import GameTables.Name.Cases

/-!
# Letters of derived names

Which ASCII letters derived names have: module names have no capitals, and the names of types and
variants do not begin with a small letter.
-/

namespace GameTables.Unicode

/-- No image lies between two code points. -/
def Avoids (low high : Nat) (expansions : List (Nat × List Nat)) (runs : List CaseRun) : Prop :=
  (∀ expansion ∈ expansions, ∀ target ∈ expansion.2, target < low ∨ high < target) ∧
    ∀ run ∈ runs, run.target + (run.last - run.first) < low ∨ high < run.target

instance (low high : Nat) (expansions : List (Nat × List Nat)) (runs : List CaseRun) :
    Decidable (Avoids low high expansions runs) := inferInstanceAs (Decidable (_ ∧ _))

theorem toNat_ofNat (n : Nat) : (Char.ofNat n).toNat = n ∨ (Char.ofNat n).toNat = 0 := by
  by_cases valid : n.isValidChar
  · have shape : Char.ofNat n = Char.ofNatAux n valid := dif_pos valid
    exact .inl (congrArg Char.toNat shape)
  · have shape : Char.ofNat n = '\x00' := dif_neg valid
    exact .inr (congrArg Char.toNat shape)

theorem mapCase_avoids {low high : Nat} {expansions : List (Nat × List Nat)} {runs : List CaseRun}
    (avoids : Avoids low high expansions runs) (positive : 0 < low) {c : Char} (beyond : high < c.toNat) :
    ∀ d ∈ mapCase expansions runs c, d.toNat < low ∨ high < d.toNat := by
  have image {n : Nat} (outside : n < low ∨ high < n) :
      (Char.ofNat n).toNat < low ∨ high < (Char.ofNat n).toNat := by
    rcases toNat_ofNat n with same | zero <;> omega
  intro d here
  unfold mapCase at here
  split at here
  · next targets expanded =>
    obtain ⟨target, target_at, rfl⟩ := List.mem_map.mp here
    obtain ⟨before, behind, split, _⟩ := List.lookup_eq_some_iff.mp expanded
    have entry : (c.toNat, targets) ∈ expansions := by simp [split]
    exact image (avoids.1 _ entry target target_at)
  · split at here
    · next target found =>
      rw [List.mem_singleton.mp here]
      obtain ⟨run, run_at, rfl⟩ := Option.map_eq_some_iff.mp found
      have holds := List.find?_some run_at
      simp only [Bool.and_eq_true, decide_eq_true_eq] at holds
      have outside := avoids.2 run (List.mem_of_find?_eq_some run_at)
      refine image ?_
      omega
    · rw [List.mem_singleton.mp here]
      exact .inr beyond

theorem isLower_eq_false {c : Char} (outside : c.toNat < 97 ∨ 122 < c.toNat) : c.isLower = false := by
  refine Bool.eq_false_iff.mpr fun lower => ?_
  have bounds : (decide (97 ≤ c.toNat) && decide (c.toNat ≤ 122)) = true := lower
  simp only [Bool.and_eq_true, decide_eq_true_eq] at bounds
  omega

theorem isUpper_eq_false {c : Char} (outside : c.toNat < 65 ∨ 90 < c.toNat) : c.isUpper = false := by
  refine Bool.eq_false_iff.mpr fun upper => ?_
  have bounds : 65 ≤ c.toNat ∧ c.toNat ≤ 90 := of_decide_eq_true upper
  omega

/-- The upper case of a character has no small letter. -/
theorem isLower_of_mem_upperCase {c d : Char} (here : d ∈ upperCase c) : d.isLower = false := by
  unfold upperCase at here
  split at here
  · next ascii =>
    have letters : ∀ n : Fin 128, (Char.ofNat n).toUpper.isLower = false := by decide
    rw [List.mem_singleton.mp here, ← Char.ofNat_toNat c]
    exact letters ⟨c.toNat, ascii⟩
  · next beyond =>
    have avoids : Avoids 97 122 upperExpansions upperRuns := by decide +kernel
    exact isLower_eq_false (mapCase_avoids avoids (by decide) (by omega) d here)

/-- The lower case of a character has no capital. -/
theorem isUpper_of_mem_lowerCase {c d : Char} (here : d ∈ lowerCase c) : d.isUpper = false := by
  unfold lowerCase at here
  split at here
  · next ascii =>
    have letters : ∀ n : Fin 128, (Char.ofNat n).toLower.isUpper = false := by decide
    rw [List.mem_singleton.mp here, ← Char.ofNat_toNat c]
    exact letters ⟨c.toNat, ascii⟩
  · next beyond =>
    have avoids : Avoids 65 90 lowerExpansions lowerRuns := by decide +kernel
    exact isUpper_eq_false (mapCase_avoids avoids (by decide) (by omega) d here)

theorem upperCase_ne_nil (c : Char) : upperCase c ≠ [] := by
  unfold upperCase mapCase
  have expanded : ∀ expansion ∈ upperExpansions, expansion.2 ≠ [] := by decide +kernel
  split
  · exact List.cons_ne_nil _ _
  · split
    · next targets found =>
      obtain ⟨before, behind, split, _⟩ := List.lookup_eq_some_iff.mp found
      have nonempty := expanded (c.toNat, targets) (by simp [split])
      simpa using nonempty
    · split <;> exact List.cons_ne_nil _ _

end GameTables.Unicode

namespace GameTables.Name

theorem isUpper_of_mem_lowerWord {word : List Char} {c : Char} (here : c ∈ lowerWord word) :
    c.isUpper = false := by
  induction word with
  | nil => cases here
  | cons d rest ih =>
    unfold lowerWord at here
    split at here
    · rw [List.mem_singleton.mp here]
      decide
    · rcases List.mem_append.mp here with first | others
      · exact Unicode.isUpper_of_mem_lowerCase first
      · exact ih others

/-- What is joined holds nothing but the separator and the parts. -/
theorem mem_intercalate {α : Type} {separator : List α} {parts : List (List α)} {a : α}
    (here : a ∈ separator.intercalate parts) : a ∈ separator ∨ ∃ part ∈ parts, a ∈ part := by
  induction parts with
  | nil => cases here
  | cons part rest ih =>
    cases rest with
    | nil => exact .inr ⟨part, List.mem_singleton_self part, by simpa using here⟩
    | cons next others =>
      rw [List.intercalate_cons_cons, List.mem_append, List.mem_append] at here
      rcases here with (first | between) | behind
      · exact .inr ⟨part, List.mem_cons_self, first⟩
      · exact .inl between
      · refine (ih behind).imp_right ?_
        rintro ⟨other, listed, inside⟩
        exact ⟨other, List.mem_cons_of_mem part listed, inside⟩

/-- No name of a module has a capital. -/
theorem isUpper_of_mem_snakeCase {name : String} {c : Char} (here : c ∈ (snakeCase name).toList) :
    c.isUpper = false := by
  rw [snakeCase, String.toList_ofList] at here
  rcases mem_intercalate here with separator | ⟨part, listed, inside⟩
  · rw [List.mem_singleton.mp separator]
    decide
  · obtain ⟨word, _, rfl⟩ := List.mem_map.mp listed
    exact isUpper_of_mem_lowerWord inside

/-- No name of a type or variant begins with a small letter. -/
theorem isLower_of_head_camelCase {name : String} {c : Char}
    (first : (camelCase name).toList.head? = some c) : c.isLower = false := by
  rw [camelCase, String.toList_ofList] at first
  generalize words name.toList = parts at first
  induction parts with
  | nil => cases first
  | cons word rest ih =>
    rw [List.flatMap_cons] at first
    cases word with
    | nil => exact ih first
    | cons d others =>
      obtain ⟨front, behind, image⟩ := List.exists_cons_of_ne_nil (Unicode.upperCase_ne_nil d)
      rw [capitalWord, image] at first
      rw [← Option.some.inj first]
      exact Unicode.isLower_of_mem_upperCase (image ▸ List.mem_cons_self)

end GameTables.Name
