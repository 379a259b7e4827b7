import Mathlib.Data.List.Nodup
import GameTables.Document

/-!
# Documents and their entries as written

Which entries a document has: each name that was written, at the place where it stands first, with the
value that was written for it last.
-/

namespace GameTables

/-- Duplicates that are filtered out with the elements do not count. -/
theorem eraseDups_filter {α : Type} [BEq α] [LawfulBEq α] (p : α → Bool) (l : List α) :
    (l.filter p).eraseDups = l.eraseDups.filter p := by
  match l with
  | [] => rfl
  | a :: rest =>
    have shorter : (rest.filter fun b => !b == a).length < (a :: rest).length :=
      Nat.lt_succ_of_le (List.length_filter_le _ _)
    have others := eraseDups_filter p (rest.filter fun b => !b == a)
    rw [List.filter_filter] at others
    by_cases chosen : p a = true
    · rw [List.filter_cons_of_pos chosen, List.eraseDups_cons, List.eraseDups_cons,
        List.filter_cons_of_pos chosen, ← others, List.filter_filter]
      simp only [Bool.and_comm]
    · have same : rest.filter (fun b => p b && !b == a) = rest.filter p := by
        refine List.filter_congr fun b _ => ?_
        by_cases equal : b = a
        · simp [equal, chosen]
        · simp [equal]
      rw [List.filter_cons_of_neg chosen, List.eraseDups_cons, List.filter_cons_of_neg chosen,
        ← others, same]
termination_by l.length
decreasing_by exact shorter

theorem eraseDups_of_nodup {α : Type} [BEq α] [LawfulBEq α] {l : List α} (distinct : l.Nodup) :
    l.eraseDups = l := by
  induction l with
  | nil => rfl
  | cons a rest ih =>
    obtain ⟨apart, distinct⟩ := List.nodup_cons.mp distinct
    have others : rest.filter (fun b => !b == a) = rest := by
      refine List.filter_eq_self.mpr fun b here => ?_
      simpa using fun same : b = a => apart (same ▸ here)
    rw [List.eraseDups_cons, others, ih distinct]

theorem length_eraseDups_le {α : Type} [BEq α] [LawfulBEq α] (l : List α) :
    l.eraseDups.length ≤ l.length := by
  match l with
  | [] => exact Nat.le_refl _
  | a :: rest =>
    have shorter : (rest.filter fun b => !b == a).length < (a :: rest).length :=
      Nat.lt_succ_of_le (List.length_filter_le _ _)
    have others := length_eraseDups_le (rest.filter fun b => !b == a)
    rw [List.eraseDups_cons, List.length_cons]
    omega
termination_by l.length
decreasing_by exact shorter

/-- No element moves back when duplicates are left out. -/
theorem exists_eraseDups_le {α : Type} [BEq α] [LawfulBEq α] {l : List α} {i : Nat} {a : α}
    (at_i : l[i]? = some a) : ∃ k ≤ i, l.eraseDups[k]? = some a := by
  have apart : l.eraseDups =
      (l.take (i + 1)).eraseDups ++ ((l.drop (i + 1)).removeAll (l.take (i + 1))).eraseDups := by
    rw [← List.eraseDups_append, List.take_append_drop]
  have here : a ∈ (l.take (i + 1)).eraseDups := by
    refine List.mem_eraseDups.mpr (List.mem_of_getElem? (i := i) ?_)
    rw [List.getElem?_take_of_lt (Nat.lt_succ_self i)]
    exact at_i
  obtain ⟨k, at_k⟩ := List.mem_iff_getElem?.mp here
  obtain ⟨inside, _⟩ := List.getElem?_eq_some_iff.mp at_k
  refine ⟨k, ?_, ?_⟩
  · have fewer := length_eraseDups_le (l.take (i + 1))
    rw [List.length_take] at fewer
    omega
  · rw [apart, List.getElem?_append_left inside]
    exact at_k

/-- Where keys are distinct, the first match is the only one. -/
theorem lookup_eq_some_iff_mem {α β : Type} [BEq α] [LawfulBEq α] {entries : List (α × β)}
    {a : α} {b : β} (distinct : (entries.map Prod.fst).Nodup) : entries.lookup a = some b ↔ (a, b) ∈ entries := by
  rw [List.lookup_eq_some_iff]
  constructor
  · rintro ⟨before, behind, rfl, _⟩
    exact List.mem_append_right _ List.mem_cons_self
  · intro here
    obtain ⟨before, behind, rfl⟩ := List.append_of_mem here
    rw [List.map_append, List.nodup_append] at distinct
    refine ⟨before, behind, rfl, fun other earlier => ?_⟩
    have apart := distinct.2.2 other.1 (List.mem_map_of_mem earlier) a (by simp)
    simpa using Ne.symm apart

namespace Document

variable {α : Type}

/-- The value that was written last for a name. -/
def lastWritten? (written : List (String × α)) (name : String) : Option α :=
  written.reverse.lookup name

theorem getElem?_lastValues (written : List (String × α)) (name : String) :
    (lastValues written)[name]? = lastWritten? written name := by
  have inserted (last : Std.TreeMap String α) :
      (written.foldl (fun last entry => last.insert entry.1 entry.2) last)[name]? =
        (lastWritten? written name).or last[name]? := by
    induction written generalizing last with
    | nil => rfl
    | cons entry rest ih =>
      obtain ⟨key, value⟩ := entry
      rw [List.foldl_cons, ih, Std.TreeMap.getElem?_insert, lastWritten?, lastWritten?,
        List.reverse_cons, List.lookup_append, Option.or_assoc, List.lookup_cons, List.lookup_nil]
      by_cases same : key = name
      · simp [same]
      · have apart : (name == key) = false := by simpa using Ne.symm same
        simp [same, apart]
  simpa [lastValues] using inserted ∅

/-- An entry is kept where its name stands first among the names that are still to be kept. -/
theorem keepFirst_eq (last : Std.TreeMap String α) (kept written : List (String × α)) :
    keepFirst last kept written = kept.reverse ++
      (written.map Prod.fst).eraseDups.filterMap fun name => (last[name]?).map (name, ·) := by
  induction written generalizing last kept with
  | nil => simp [keepFirst]
  | cons entry rest ih =>
    obtain ⟨name, value⟩ := entry
    rw [List.map_cons, List.eraseDups_cons, eraseDups_filter, List.filterMap_cons,
      List.filterMap_filter, keepFirst]
    cases found : last[name]? with
    | some a =>
      simp only [ih, Option.map_some, List.reverse_cons, List.append_assoc, List.singleton_append]
      congr 2
      refine List.filterMap_congr fun other _ => ?_
      rw [Std.TreeMap.getElem?_erase]
      by_cases same : other = name
      · simp [same]
      · simp [same, Ne.symm same]
    | none =>
      simp only [ih, Option.map_none]
      congr 1
      refine List.filterMap_congr fun other _ => ?_
      by_cases same : other = name
      · simp [same, found]
      · simp [same]

/-- The entries are in the order in which their names are written first, each with the value that is
written last. -/
theorem entries_ofEntries (written : List (String × α)) :
    (ofEntries written).entries =
      (written.map Prod.fst).eraseDups.filterMap fun name =>
        (lastWritten? written name).map (name, ·) := by
  simp only [ofEntries, keepFirst_eq, getElem?_lastValues, List.reverse_nil, List.nil_append]

/-! ## The names of a document -/

theorem exists_lastWritten {written : List (String × α)} {name : String}
    (here : name ∈ written.map Prod.fst) : ∃ a, lastWritten? written name = some a := by
  cases last : lastWritten? written name with
  | some a => exact ⟨a, rfl⟩
  | none =>
    obtain ⟨entry, written_at, rfl⟩ := List.mem_map.mp here
    have apart := List.lookup_eq_none_iff.mp last entry (List.mem_reverse.mpr written_at)
    simp at apart

theorem names_ofEntries (written : List (String × α)) :
    (ofEntries written).entries.map Prod.fst = (written.map Prod.fst).eraseDups := by
  rw [entries_ofEntries, List.map_filterMap]
  have named (name : String) (here : name ∈ (written.map Prod.fst).eraseDups) :
      ((lastWritten? written name).map (name, ·)).map Prod.fst = some name := by
    obtain ⟨a, last⟩ := exists_lastWritten (List.mem_eraseDups.mp here)
    rw [last]
    rfl
  rw [List.filterMap_congr named, List.filterMap_some]

theorem exists_entry_iff {written : List (String × α)} {name : String} :
    (∃ entry ∈ (ofEntries written).entries, entry.1 = name) ↔ ∃ entry ∈ written, entry.1 = name := by
  rw [← List.mem_map, ← List.mem_map, names_ofEntries, List.mem_eraseDups]

theorem lastWritten?_of_nodup {written : List (String × α)} (distinct : (written.map Prod.fst).Nodup)
    {entry : String × α} (here : entry ∈ written) :
    lastWritten? written entry.1 = some entry.2 := by
  have reversed : (written.reverse.map Prod.fst).Nodup := by
    rw [List.map_reverse]
    exact List.nodup_reverse.mpr distinct
  exact (lookup_eq_some_iff_mem reversed).mpr (List.mem_reverse.mpr here)

/-- What was written last for a name stands behind all else that was written for it. -/
theorem exists_of_lastWritten? {written : List (String × α)} {name : String} {a : α}
    (last : lastWritten? written name = some a) :
    ∃ j, written[j]? = some (name, a) ∧
      ∀ (i : Nat) (entry : String × α), written[i]? = some entry → entry.1 = name → i ≤ j := by
  obtain ⟨behind, before, reversed, others⟩ := List.lookup_eq_some_iff.mp last
  have whole : written = before.reverse ++ (name, a) :: behind.reverse := by
    rw [← List.reverse_reverse written, reversed]
    simp
  refine ⟨before.length, by simp [whole], fun i entry at_i same => ?_⟩
  refine Nat.le_of_not_lt fun later => ?_
  rw [whole, List.getElem?_append_right (by simp; omega), List.length_reverse,
    show i - before.length = i - before.length - 1 + 1 by omega, List.getElem?_cons_succ] at at_i
  have apart := others entry (List.mem_reverse.mp (List.mem_of_getElem? at_i))
  rw [same] at apart
  simp at apart

/-- An entry of a document is what was written last for its name. -/
theorem mem_entries_ofEntries_iff {written : List (String × α)} {name : String} {a : α} :
    (name, a) ∈ (ofEntries written).entries ↔ lastWritten? written name = some a := by
  rw [entries_ofEntries, List.mem_filterMap]
  constructor
  · rintro ⟨name', _, made⟩
    obtain ⟨b, last, same⟩ := Option.map_eq_some_iff.mp made
    cases same
    exact last
  · intro last
    obtain ⟨j, at_j, _⟩ := exists_of_lastWritten? last
    have here : name ∈ written.map Prod.fst := List.mem_map_of_mem (List.mem_of_getElem? at_j)
    exact ⟨name, List.mem_eraseDups.mpr here, by rw [last, Option.map_some]⟩

/-- The place of an entry is that of its name, and its value is what was written last. -/
theorem getElem?_entries_ofEntries_iff {written : List (String × α)} {i : Nat} {name : String} {a : α} :
    (ofEntries written).entries[i]? = some (name, a) ↔
      (written.map Prod.fst).eraseDups[i]? = some name ∧ lastWritten? written name = some a := by
  rw [← names_ofEntries, List.getElem?_map, Option.map_eq_some_iff, ← mem_entries_ofEntries_iff]
  constructor
  · intro at_i
    exact ⟨⟨_, at_i, rfl⟩, List.mem_of_getElem? at_i⟩
  · rintro ⟨⟨⟨_, b⟩, at_i, rfl⟩, here⟩
    have last := mem_entries_ofEntries_iff.mp (List.mem_of_getElem? at_i)
    cases last.symm.trans (mem_entries_ofEntries_iff.mp here)
    exact at_i

/-- What is written again later is not looked at. -/
theorem ofEntries_overwritten {before behind : List (String × α)} {name : String}
    (again : name ∈ behind.map Prod.fst) (a b : α) :
    ofEntries (before ++ (name, a) :: behind) = ofEntries (before ++ (name, b) :: behind) := by
  have last (other : String) : lastWritten? (before ++ (name, a) :: behind) other =
      lastWritten? (before ++ (name, b) :: behind) other := by
    simp only [lastWritten?, List.reverse_append, List.reverse_cons, List.lookup_append]
    by_cases same : other = name
    · obtain ⟨c, found⟩ := exists_lastWritten again
      rw [lastWritten?] at found
      rw [same, found]
      rfl
    · have apart : (other == name) = false := by simpa using same
      rw [List.lookup_cons, List.lookup_cons, apart]
  have entries : (ofEntries (before ++ (name, a) :: behind)).entries =
      (ofEntries (before ++ (name, b) :: behind)).entries := by
    rw [entries_ofEntries, entries_ofEntries]
    simp only [last, List.map_append, List.map_cons]
  cases left : ofEntries (before ++ (name, a) :: behind)
  cases right : ofEntries (before ++ (name, b) :: behind)
  rw [left, right] at entries
  cases entries
  rfl

/-- Where a name is written twice, an entry of the document stands before the place where it is written:
not behind the first place of its name, and so before the last. -/
theorem exists_moved_of_repeated {written : List (String × α)}
    (repeated : ¬ (written.map Prod.fst).Nodup) :
    ∃ (k j : Nat) (entry : String × α), (ofEntries written).entries[k]? = some entry ∧
      written[j]? = some entry ∧ k < j := by
  rw [List.nodup_iff_getElem?_ne_getElem?] at repeated
  push Not at repeated
  obtain ⟨i, i', order, inside, twice⟩ := repeated
  have at_last := List.getElem?_eq_getElem inside
  have at_first := twice.trans at_last
  obtain ⟨k, before, at_k⟩ := exists_eraseDups_le at_first
  rw [← names_ofEntries, List.getElem?_map, Option.map_eq_some_iff] at at_k
  obtain ⟨entry, at_k, named⟩ := at_k
  have last := mem_entries_ofEntries_iff.mp (List.mem_of_getElem? at_k)
  obtain ⟨j, at_j, behind⟩ := exists_of_lastWritten? last
  rw [List.getElem?_map, Option.map_eq_some_iff] at at_last
  obtain ⟨other, at_other, same⟩ := at_last
  have reached : i' ≤ j := behind i' other at_other (same.trans named.symm)
  exact ⟨k, j, entry, at_k, at_j, by omega⟩

/-- A document has its entries as they were written exactly if no name was written twice. -/
theorem entries_ofEntries_eq_iff {written : List (String × α)} :
    (ofEntries written).entries = written ↔ (written.map Prod.fst).Nodup := by
  constructor
  · intro kept
    rw [← kept]
    exact (ofEntries written).distinct
  · intro distinct
    rw [entries_ofEntries, eraseDups_of_nodup distinct, List.filterMap_map]
    have same (entry : String × α) (here : entry ∈ written) :
        ((lastWritten? written entry.1).map (entry.1, ·)) = some entry := by
      rw [lastWritten?_of_nodup distinct here]
      rfl
    exact (List.filterMap_congr same).trans List.filterMap_some

/-! ## Documents behind each other -/

/-- No name is in both documents. -/
def Apart (d d' : Document α) : Prop :=
  ∀ name ∈ d.entries.map Prod.fst, name ∉ d'.entries.map Prod.fst

instance (d d' : Document α) : Decidable (d.Apart d') :=
  inferInstanceAs (Decidable (∀ name ∈ d.entries.map Prod.fst, name ∉ d'.entries.map Prod.fst))

/-- The entries of a document with those of another behind them. -/
def append (d d' : Document α) (apart : d.Apart d') : Document α where
  entries := d.entries ++ d'.entries
  distinct := by
    rw [List.map_append]
    exact d.distinct.append d'.distinct fun name here there => apart name here there

theorem entries_isPrefix_append (d d' : Document α) (apart : d.Apart d') :
    d.entries <+: (d.append d' apart).entries :=
  List.prefix_append _ _

end Document

end GameTables
