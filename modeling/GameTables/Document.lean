import Std.Data.TreeMap

/-!
# Documents

A document is a sequence of entries with distinct names. Where a text repeats a name, the entry keeps
the place of its first occurrence and the value of its last. The order of the entries decides ids.
-/

namespace GameTables

/-- Entries in order, each under a name of its own. -/
structure Document (α : Type) where
  entries : List (String × α)
  distinct : (entries.map Prod.fst).Nodup
  deriving DecidableEq

namespace Document

variable {α : Type}

def empty : Document α := ⟨[], List.nodup_nil⟩

def size (d : Document α) : Nat := d.entries.length

/-- The last value written under each name. -/
def lastValues (written : List (String × α)) : Std.TreeMap String α :=
  written.foldl (fun last entry => last.insert entry.1 entry.2) ∅

/-- Walks through the entries as written and keeps each name that is still in the map, with its
value there. `kept` holds the entries kept so far, last one first. -/
def keepFirst (last : Std.TreeMap String α) (kept : List (String × α)) :
    List (String × α) → List (String × α)
  | [] => kept.reverse
  | (name, _) :: rest =>
    match last[name]? with
    | some a => keepFirst (last.erase name) ((name, a) :: kept) rest
    | none => keepFirst last kept rest

theorem keepFirst_distinct (last : Std.TreeMap String α) (kept written : List (String × α))
    (fresh : ∀ name ∈ kept.map Prod.fst, last[name]? = none) (nodup : (kept.map Prod.fst).Nodup) :
    ((keepFirst last kept written).map Prod.fst).Nodup := by
  induction written generalizing last kept with
  | nil =>
    rw [keepFirst, List.map_reverse]
    exact List.pairwise_reverse.2 (nodup.imp Ne.symm)
  | cons entry rest ih =>
    unfold keepFirst
    split
    · next a ha =>
      apply ih
      · intro name h
        rw [Std.TreeMap.getElem?_erase]
        rcases List.mem_cons.1 h with same | older
        · simp [same]
        · rw [fresh name older]
          simp
      · refine List.nodup_cons.2 ⟨fun h => ?_, nodup⟩
        rw [fresh _ h] at ha
        cases ha
    · exact ih last kept fresh nodup

/-- The document that a sequence of entries, with names that may repeat, stands for. -/
def ofEntries (written : List (String × α)) : Document α :=
  ⟨keepFirst (lastValues written) [] written, keepFirst_distinct _ _ _ (by simp) (by simp)⟩

/-! ## Checking every entry -/

theorem names_of_mapM_eq_ok {ε β : Type} {f : String → α → Except ε β} {l : List (String × α)}
    {l' : List (String × β)}
    (h : l.mapM (fun entry => do return (entry.1, ← f entry.1 entry.2)) = .ok l') :
    l'.map Prod.fst = l.map Prod.fst := by
  induction l generalizing l' with
  | nil =>
    cases h
    rfl
  | cons entry rest ih =>
    rw [List.mapM_cons] at h
    cases hf : f entry.1 entry.2 with
    | error e =>
      rw [hf] at h
      cases h
    | ok b =>
      rw [hf] at h
      cases hr : rest.mapM (fun entry => do return (entry.1, ← f entry.1 entry.2)) with
      | error e =>
        rw [hr] at h
        cases h
      | ok r =>
        rw [hr] at h
        cases h
        simp [ih hr]

/-- Turns every value into another, in order, until the first that cannot be. -/
def mapM {ε β : Type} (f : String → α → Except ε β) (d : Document α) : Except ε (Document β) :=
  match h : d.entries.mapM (fun entry => do return (entry.1, ← f entry.1 entry.2)) with
  | .error e => .error e
  | .ok l => .ok ⟨l, by rw [names_of_mapM_eq_ok h]; exact d.distinct⟩

end Document

end GameTables
