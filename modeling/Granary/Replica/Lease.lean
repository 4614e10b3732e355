import Granary.Error

/-!
# Leases

A lease on a connection name keeps others from replicating under it.  Whoever takes a lease holds a
guard, and the name is free again when the guard is dropped.
-/

namespace Granary.Replica

/-- The names that are held. -/
structure Leases where
  held : List String := []
  deriving DecidableEq, Repr, Inhabited

/-- Proof of holding a lease. -/
structure Guard where
  connection : String
  deriving DecidableEq, Repr, Inhabited

namespace Leases

def isHeld (l : Leases) (connection : String) : Bool := l.held.contains connection

/-- Takes the lease of a name that nobody holds. -/
def acquire (l : Leases) (connection : String) : Except Error (Guard × Leases) :=
  if l.isHeld connection then .error (.etlInProgress connection)
  else .ok (⟨connection⟩, ⟨l.held ++ [connection]⟩)

/-- Frees the name of a guard. -/
def drop (l : Leases) (guard : Guard) : Leases := ⟨l.held.filter (· != guard.connection)⟩

section

variable {l : Leases} {connection name : String} {guard : Guard}

theorem acquire_of_free (h : l.isHeld connection = false) :
    l.acquire connection = .ok (⟨connection⟩, ⟨l.held ++ [connection]⟩) := by
  rw [acquire, h, if_neg Bool.false_ne_true]

/-- A lease that is held is refused, and any other is handed out. -/
theorem acquire_cases (l : Leases) (connection : String) :
    l.isHeld connection = true ∧ l.acquire connection = .error (.etlInProgress connection) ∨
    l.isHeld connection = false ∧
      l.acquire connection = .ok (⟨connection⟩, ⟨l.held ++ [connection]⟩) := by
  cases hheld : l.isHeld connection with
  | true => exact .inl ⟨rfl, if_pos hheld⟩
  | false => exact .inr ⟨rfl, acquire_of_free hheld⟩

theorem isHeld_taken : Leases.isHeld ⟨l.held ++ [connection]⟩ name = true ↔
    l.isHeld name = true ∨ name = connection := by
  simp [isHeld]

theorem isHeld_drop : (l.drop guard).isHeld name = true ↔
    l.isHeld name = true ∧ name ≠ guard.connection := by
  simp [isHeld, drop]

end

end Leases

end Granary.Replica
