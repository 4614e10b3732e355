import Granary.Replica.Lease
import Mathlib.Data.List.Perm.Basic

/-!
# Leases and their guards

A name is held as long as somebody has a guard for it, but the names that are held and the guards
that are alive are two different things: only taking a lease and dropping a guard keep them in step.
`Tenure` is both of them, `Tenure.Use` what is done with them, in any order, and `Tenure.InStep`
what ties them together: each name has one guard if it is held, and none if it is not.  Each use
keeps this (`InStep.perform`), and so do all of them (`inStep_after`).

`held_by_one_guard` says what follows wherever some uses have led: who is refused, and that a guard
frees its own name and no other when it is dropped.
-/

namespace Granary.Replica

/-- The names that are held, and the guards that are alive, in the order in which they were
taken. -/
structure Tenure where
  leases : Leases := {}
  guards : List Guard := []

namespace Tenure

/-- What is done with leases.  The guard that is dropped is told from others by its place among
those that are alive, so that nothing is presupposed of their names. -/
inductive Use where
  | acquire (connection : String)
  | drop (place : Nat)

/-- Asks for the lease of a name.  A guard that is handed out is alive from then on. -/
def acquire (t : Tenure) (connection : String) : Except Error Guard × Tenure :=
  match t.leases.acquire connection with
  | .error e => (.error e, t)
  | .ok (guard, leases) => (.ok guard, ⟨leases, t.guards ++ [guard]⟩)

/-- Drops the guard at a place, if there is one. -/
def drop (t : Tenure) (place : Nat) : Tenure :=
  match t.guards[place]? with
  | none => t
  | some guard => ⟨t.leases.drop guard, t.guards.eraseIdx place⟩

def perform (t : Tenure) : Use → Tenure
  | .acquire connection => (t.acquire connection).2
  | .drop place => t.drop place

/-- What some uses lead to; nothing is held at first. -/
def after (uses : List Use) : Tenure := uses.foldl perform {}

/-- How many guards for a name are alive. -/
def guardsFor (t : Tenure) (name : String) : Nat := t.guards.countP (·.connection == name)

/-- Each name has one guard if it is held, and none if it is not. -/
def InStep (t : Tenure) : Prop := ∀ name, t.guardsFor name = (t.leases.isHeld name).toNat

variable {t : Tenure} {connection name : String} {guard : Guard} {place : Nat}

/-! ## One use -/

/-- A lease that is held is refused, and nothing changes; any other is handed out. -/
theorem acquire_cases (t : Tenure) (connection : String) :
    t.leases.isHeld connection = true ∧
      t.acquire connection = (.error (.etlInProgress connection), t) ∨
    t.leases.isHeld connection = false ∧ t.acquire connection =
      (.ok ⟨connection⟩, ⟨⟨t.leases.held ++ [connection]⟩, t.guards ++ [⟨connection⟩]⟩) := by
  refine (t.leases.acquire_cases connection).imp (fun ⟨hheld, hanswer⟩ => ⟨hheld, ?_⟩)
    fun ⟨hfree, hanswer⟩ => ⟨hfree, ?_⟩
  · rw [acquire, hanswer]
  · rw [acquire, hanswer]

theorem drop_of_alive (h : t.guards[place]? = some guard) :
    t.drop place = ⟨t.leases.drop guard, t.guards.eraseIdx place⟩ := by
  rw [drop, h]

theorem isHeld_drop (h : t.guards[place]? = some guard) :
    (t.drop place).leases.isHeld name = true ↔
      t.leases.isHeld name = true ∧ name ≠ guard.connection := by
  rw [drop_of_alive h]
  exact Leases.isHeld_drop

theorem guardsFor_drop (h : t.guards[place]? = some guard) (name : String) :
    t.guardsFor name =
      (t.drop place).guardsFor name + if guard.connection == name then 1 else 0 := by
  obtain ⟨hplace, rfl⟩ := List.getElem?_eq_some_iff.1 h
  rw [drop_of_alive h, guardsFor, guardsFor,
    ← (List.getElem_cons_eraseIdx_perm hplace).countP_eq, List.countP_cons]

/-- The guard that is dropped was the only one for its name. -/
theorem InStep.drop (ht : t.InStep) (h : t.guards[place]? = some guard) :
    (t.drop place).InStep := by
  intro name
  have hcount := guardsFor_drop h name
  rw [ht name] at hcount
  by_cases hname : name = guard.connection
  · subst hname
    have hfree : (t.drop place).leases.isHeld guard.connection = false :=
      Bool.eq_false_iff.2 fun hstill => ((isHeld_drop h).1 hstill).2 rfl
    have hone := Bool.toNat_le (t.leases.isHeld guard.connection)
    rw [beq_self_eq_true, if_pos rfl] at hcount
    rw [hfree, Bool.toNat_false]
    omega
  · have hsame : (t.drop place).leases.isHeld name = t.leases.isHeld name :=
      Bool.eq_iff_iff.2 ((isHeld_drop h).trans (and_iff_left hname))
    rw [beq_eq_false_iff_ne.2 (Ne.symm hname), if_neg Bool.false_ne_true] at hcount
    rw [hsame, hcount, Nat.add_zero]

theorem InStep.acquire (ht : t.InStep) (connection : String) : (t.acquire connection).2.InStep := by
  obtain ⟨_, hanswer⟩ | ⟨hfree, hanswer⟩ := t.acquire_cases connection
  · rw [hanswer]
    exact ht
  · rw [hanswer]
    intro name
    have hold : t.guards.countP (·.connection == name) = (t.leases.isHeld name).toNat := ht name
    rw [guardsFor, List.countP_append, List.countP_singleton, hold]
    by_cases hname : name = connection
    · subst hname
      have htaken : Leases.isHeld ⟨t.leases.held ++ [name]⟩ name = true :=
        Leases.isHeld_taken.2 (.inr rfl)
      rw [hfree, htaken, beq_self_eq_true]
      rfl
    · have hsame : Leases.isHeld ⟨t.leases.held ++ [connection]⟩ name = t.leases.isHeld name :=
        Bool.eq_iff_iff.2 (Leases.isHeld_taken.trans (or_iff_left hname))
      rw [hsame, beq_eq_false_iff_ne.2 (Ne.symm hname), if_neg Bool.false_ne_true, Nat.add_zero]

theorem InStep.perform (ht : t.InStep) (use : Use) : (t.perform use).InStep := by
  cases use with
  | acquire connection => exact ht.acquire connection
  | drop place =>
    cases hplace : t.guards[place]? with
    | none =>
      have hsame : t.drop place = t := by rw [Tenure.drop, hplace]
      show (t.drop place).InStep
      rw [hsame]
      exact ht
    | some guard => exact ht.drop hplace

/-! ## All uses -/

theorem InStep.foldl (ht : t.InStep) (uses : List Use) : (uses.foldl Tenure.perform t).InStep := by
  induction uses generalizing t with
  | nil => exact ht
  | cons use rest ih => exact ih (ht.perform use)

theorem inStep_after (uses : List Use) : (after uses).InStep := InStep.foldl (fun _ => rfl) uses

/-- Wherever some uses have led, a name is held exactly if one guard for it is alive, and there are
never more; a lease is had, with a guard for its name, exactly if the name is not held, and whoever
is refused changes nothing; and a guard that is dropped frees its own name and no other. -/
theorem held_by_one_guard (uses : List Use) :
    (∀ name, ((after uses).leases.isHeld name = true ↔ (after uses).guardsFor name = 1) ∧
      (after uses).guardsFor name ≤ 1) ∧
    (∀ name, ((∃ guard t, (after uses).acquire name = (.ok guard, t)) ↔
        (after uses).leases.isHeld name = false) ∧
      (∀ guard t, (after uses).acquire name = (.ok guard, t) →
        guard.connection = name ∧ t.guards = (after uses).guards ++ [guard]) ∧
      ∀ e t, (after uses).acquire name = (.error e, t) →
        e = .etlInProgress name ∧ t = after uses) ∧
    ∀ place guard, (after uses).guards[place]? = some guard → ∀ name,
      ((after uses).drop place).leases.isHeld name = true ↔
        (after uses).leases.isHeld name = true ∧ name ≠ guard.connection := by
  have hstep := inStep_after uses
  generalize after uses = t at hstep ⊢
  refine ⟨fun name => ?_, fun name => ?_, fun place guard h name => isHeld_drop h⟩
  · rw [hstep name]
    exact ⟨by cases t.leases.isHeld name <;> decide, Bool.toNat_le _⟩
  · obtain ⟨hheld, hanswer⟩ | ⟨hfree, hanswer⟩ := t.acquire_cases name
    · rw [hanswer, hheld]
      refine ⟨⟨nofun, nofun⟩, nofun, fun e u hrefused => ?_⟩
      cases hrefused
      exact ⟨rfl, rfl⟩
    · rw [hanswer, hfree]
      refine ⟨⟨fun _ => rfl, fun _ => ⟨_, _, rfl⟩⟩, fun guard u htaken => ?_, nofun⟩
      cases htaken
      exact ⟨rfl, rfl⟩

/-- Two leases are taken, and the first of them is refused to somebody else. -/
def shopAndCrm : List Use := [.acquire "shop", .acquire "crm", .acquire "shop"]

/-- The guard that was taken first is dropped first. -/
theorem held_by_one_guard_shopAndCrm :
    (after shopAndCrm).guards[0]? = some ⟨"shop"⟩ ∧
    (∃ t, (after shopAndCrm).acquire "erp" = (.ok ⟨"erp"⟩, t) ∧
      t.guards = [⟨"shop"⟩, ⟨"crm"⟩, ⟨"erp"⟩]) ∧
    (after shopAndCrm).acquire "crm" = (.error (.etlInProgress "crm"), after shopAndCrm) ∧
    ((after shopAndCrm).drop 0).leases.isHeld "shop" = false ∧
    ((after shopAndCrm).drop 0).leases.isHeld "crm" = true := by
  obtain ⟨_, hanswers, hdrops⟩ := held_by_one_guard shopAndCrm
  have hshop : (after shopAndCrm).guards[0]? = some ⟨"shop"⟩ := by decide
  have hheld : (after shopAndCrm).leases.isHeld "crm" = true := by decide
  have hfreed := hdrops 0 ⟨"shop"⟩ hshop
  obtain ⟨hhad, htaken, _⟩ := hanswers "erp"
  obtain ⟨⟨name⟩, t, herp⟩ := hhad.2 (by decide)
  obtain ⟨hname, hguards⟩ := htaken ⟨name⟩ t herp
  obtain rfl : name = "erp" := hname
  refine ⟨hshop, ⟨t, herp, hguards⟩, rfl, ?_, (hfreed "crm").2 ⟨hheld, by decide⟩⟩
  exact Bool.eq_false_iff.2 fun hstill => ((hfreed "shop").1 hstill).2 rfl

end Tenure
end Granary.Replica
