/-!
# Sorting

Entries are inserted one by one, the last one first, each in front of the first entry that it may
precede.  Entries that are level with each other keep their order.
-/

namespace Granary

variable {α : Type}

/-- Puts `x` in front of the first entry that it may precede. -/
def insertBy (before : α → α → Bool) (x : α) : List α → List α
  | [] => [x]
  | y :: rest => if before x y then x :: y :: rest else y :: insertBy before x rest

/-- Sorts by a relation that also holds of entries on one level. -/
def sortBy (before : α → α → Bool) : List α → List α
  | [] => []
  | x :: rest => insertBy before x (sortBy before rest)

theorem insertBy_perm (before : α → α → Bool) (x : α) (xs : List α) :
    (insertBy before x xs).Perm (x :: xs) := by
  induction xs with
  | nil => exact List.Perm.refl _
  | cons y rest ih =>
    rw [insertBy]
    split
    · exact List.Perm.refl _
    · exact (ih.cons y).trans (List.Perm.swap x y rest)

theorem sortBy_perm (before : α → α → Bool) (xs : List α) : (sortBy before xs).Perm xs := by
  induction xs with
  | nil => exact List.Perm.refl _
  | cons x rest ih => exact (insertBy_perm before x _).trans (ih.cons x)

end Granary
