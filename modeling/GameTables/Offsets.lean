/-!
# Offsets

Items of different sizes that are laid end to end begin at the running totals of the sizes.
-/

namespace GameTables

/-- Where items of the given sizes begin when the first one begins at `start`. -/
def offsets (start : Nat) (sizes : List Nat) : List Nat :=
  (sizes.foldl (fun (next, begun) size => (next + size, next :: begun)) (start, [])).2.reverse

private theorem foldl_offsets (sizes : List Nat) (start : Nat) (begun : List Nat) :
    (sizes.foldl (fun (next, begun) size => (next + size, next :: begun)) (start, begun)).2.reverse =
      begun.reverse ++ offsets start sizes := by
  induction sizes generalizing start begun with
  | nil => simp [offsets]
  | cons size rest ih =>
    unfold offsets
    simp only [List.foldl_cons]
    rw [ih, ih]
    simp

@[simp] theorem offsets_nil (start : Nat) : offsets start [] = [] := rfl

@[simp] theorem offsets_cons (start size : Nat) (rest : List Nat) :
    offsets start (size :: rest) = start :: offsets (start + size) rest := by
  conv => lhs; unfold offsets
  simp only [List.foldl_cons]
  rw [foldl_offsets]
  rfl

@[simp] theorem length_offsets (start : Nat) (sizes : List Nat) :
    (offsets start sizes).length = sizes.length := by
  induction sizes generalizing start with
  | nil => rfl
  | cons size rest ih => simp [ih]

end GameTables
