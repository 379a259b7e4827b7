import GameTables.Proofs.Name.Cases
import GameTables.Unicode.Canonical

/-!
# Names that only look like themselves

Most ASCII characters stand for nothing but themselves: no other character has them as its canonical form.
The exceptions are `;`, `K` and the grave accent. A name without them is the only one with its canonical
form.
-/

namespace GameTables.Unicode

/-- The code point of a visible ASCII character for which no other character stands. -/
def IsPlain (n : Nat) : Prop :=
  0x20 < n ∧ n < 0x80 ∧ n ≠ 0x3B ∧ n ≠ 0x4B ∧ n ≠ 0x60

instance (n : Nat) : Decidable (IsPlain n) := inferInstanceAs (Decidable (_ ∧ _))

theorem not_isPlain_ofNat {n : Nat} (notPlain : ¬ IsPlain n) : ¬ IsPlain (Char.ofNat n).toNat := by
  rcases toNat_ofNat n with same | zero
  · rwa [same]
  · rw [zero]
    decide

theorem decompositions_notPlain : ∀ entry ∈ decompositions, ∃ part ∈ entry.2, ¬ IsPlain part := by
  decide +kernel

theorem replacements_notPlain : ∀ run ∈ replacements, ∀ other ∈ run.2, ¬ IsPlain other := by
  decide +kernel

/-- A character is not taken apart, or into parts that are not all plain. -/
theorem decompose_eq_self_or (c : Char) : decompose c = [c] ∨ ∃ d ∈ decompose c, ¬ IsPlain d.toNat := by
  unfold decompose
  dsimp only
  split
  · exact .inl rfl
  split
  · refine .inr ⟨_, List.mem_cons_self, not_isPlain_ofNat ?_⟩
    rintro ⟨_, small, _⟩
    omega
  split
  · next parts found =>
    obtain ⟨before, behind, split, _⟩ := List.lookup_eq_some_iff.mp found
    obtain ⟨part, here, notPlain⟩ := decompositions_notPlain (c.toNat, parts) (by simp [split])
    exact .inr ⟨_, List.mem_map_of_mem here, not_isPlain_ofNat notPlain⟩
  split
  · next other found =>
    obtain ⟨run, listed, entry⟩ := Option.bind_eq_some_iff.mp found
    have notPlain := replacements_notPlain run (List.mem_of_find?_eq_some listed) other
      (List.mem_of_getElem? entry)
    exact .inr ⟨_, List.mem_cons_self, not_isPlain_ofNat notPlain⟩
  · exact .inl rfl

/-! ## The order of marks -/

theorem mem_place_iff {c d : Char} {rest : List Char} : d ∈ place c rest ↔ d = c ∨ d ∈ rest := by
  induction rest with
  | nil => simp [place]
  | cons first rest ih =>
    rw [place]
    split
    · rw [List.mem_cons, List.mem_cons, ih]
      exact or_left_comm
    · rw [List.mem_cons]

theorem mem_foldr_place_iff {d : Char} {characters : List Char} :
    d ∈ characters.foldr place [] ↔ d ∈ characters := by
  induction characters with
  | nil => rfl
  | cons c rest ih => rw [List.foldr_cons, mem_place_iff, ih, List.mem_cons]

theorem place_of_class_zero {c : Char} (noMark : combiningClass c = 0) (rest : List Char) :
    place c rest = c :: rest := by
  cases rest with
  | nil => rfl
  | cons d rest =>
    rw [place, noMark, if_neg]
    rintro ⟨_, below⟩
    exact Nat.not_lt_zero _ below

theorem foldr_place_of_class_zero {characters : List Char}
    (noMarks : ∀ c ∈ characters, combiningClass c = 0) : characters.foldr place [] = characters := by
  induction characters with
  | nil => rfl
  | cons c rest ih =>
    obtain ⟨noMark, noMarks⟩ := List.forall_mem_cons.mp noMarks
    rw [List.foldr_cons, ih noMarks, place_of_class_zero noMark]

/-! ## Plain names -/

/-- A name of plain characters. -/
def PlainName (name : String) : Prop := name.toList.all fun c => decide (IsPlain c.toNat)

instance (name : String) : Decidable (PlainName name) := inferInstanceAs (Decidable (_ = true))

theorem plainName_iff {name : String} : PlainName name ↔ ∀ c ∈ name.toList, IsPlain c.toNat := by
  simp [PlainName]

/-- A name that is not taken apart and has no marks is its own canonical form. -/
theorem canonical_of_whole {name : String} (whole : ∀ c ∈ name.toList, decompose c = [c])
    (noMarks : ∀ c ∈ name.toList, combiningClass c = 0) : canonical name = name.toList := by
  have apart : name.toList.flatMap decompose = name.toList := by
    generalize name.toList = characters at whole
    induction characters with
    | nil => rfl
    | cons c rest ih =>
      obtain ⟨first, others⟩ := List.forall_mem_cons.mp whole
      rw [List.flatMap_cons, first, ih others]
      rfl
  rw [canonical, apart, foldr_place_of_class_zero noMarks]

theorem canonical_of_plain {name : String} (plain : PlainName name) : canonical name = name.toList := by
  refine canonical_of_whole (fun c here => ?_) fun c here => ?_
  · obtain ⟨_, small, _⟩ := plainName_iff.mp plain c here
    rw [decompose, if_pos (by omega)]
  · obtain ⟨_, small, _⟩ := plainName_iff.mp plain c here
    rw [combiningClass, if_pos (by omega)]

/-- A plain name is the only one with its canonical form. -/
theorem eq_of_canonical_eq {name plainName : String} (plain : PlainName plainName)
    (same : canonical name = canonical plainName) : name = plainName := by
  rw [canonical_of_plain plain] at same
  have parts : ∀ c ∈ name.toList, ∀ d ∈ decompose c, IsPlain d.toNat := by
    intro c here d part
    have listed : d ∈ canonical name := by
      rw [canonical, mem_foldr_place_iff]
      exact List.mem_flatMap.mpr ⟨c, here, part⟩
    rw [same] at listed
    exact plainName_iff.mp plain d listed
  have whole : ∀ c ∈ name.toList, decompose c = [c] := by
    intro c here
    refine (decompose_eq_self_or c).resolve_right ?_
    rintro ⟨d, part, notPlain⟩
    exact notPlain (parts c here d part)
  have ownPlain : PlainName name := by
    refine plainName_iff.mpr fun c here => ?_
    have own := parts c here
    rw [whole c here] at own
    exact own c List.mem_cons_self
  rw [canonical_of_plain ownPlain] at same
  exact String.toList_inj.mp same

/-- The sign of the unit kelvin is a `K`, and a letter with its accent is the same in one piece or in two. -/
example : canonical "PAC\u212aETS" = canonical "PACKETS" ∧ canonical "caf\u00e9" = canonical "cafe\u0301" := by
  decide +kernel

end GameTables.Unicode
