import Granary.Proofs.Schedule
import Mathlib.Algebra.Order.BigOperators.Group.Finset
import Mathlib.Data.Fintype.Basic

/-!
# Machines side by side

Each machine of a fleet has a state of its own, and all of them share one.  In every step one of
them moves, so a fleet has as many runs as there are orders of these moves.

A machine is an owner of what the fleet shares, as a task of a pool is, and its moves are local in
the same sense (`Division.Local`).  `Division.Comes` says that it gets to some state in a number of
local moves.  What each machine comes to alone, the fleet comes to, whoever moves first:
`Beside.inevitable`.
-/

namespace Granary

variable {ι α σ ν : Type}

/-- One machine moves, and the others stay where they are. -/
inductive Beside [DecidableEq ι] (step : ι → α × σ → α × σ → Prop) :
    (ι → α) × σ → (ι → α) × σ → Prop where
  | turn {states : ι → α} {s : σ} (i : ι) {y : α × σ} (h : step i (states i, s) y) :
      Beside step (states, s) (Function.update states i y.1, y.2)

/-- What every move keeps, a fleet keeps. -/
theorem Beside.invariant [DecidableEq ι] {step : ι → α × σ → α × σ → Prop}
    (inv : (ι → α) × σ → Prop)
    (hstep : ∀ i states s y, inv (states, s) → step i (states i, s) y →
      inv (Function.update states i y.1, y.2))
    {x y : (ι → α) × σ} (h : Relation.ReflTransGen (Beside step) x y) (hx : inv x) : inv y := by
  induction h with
  | refl => exact hx
  | tail _ hturn ih =>
    cases hturn with
    | turn i h => exact hstep i _ _ _ ih h

namespace Program.Division

/-- Moves as calls: a state is answered with the state that comes next. -/
def ofMoves (step : α × σ → α × σ → Prop) (inv : σ → Prop) (view : ι → σ → ν) :
    Division α (fun _ => α) σ ι ν where
  step a s b t := step (a, s) (b, t)
  inv := inv
  view := view

section

variable {step : α × σ → α × σ → Prop} {i : ι} {a : α} {v w : ν}

/-- A move that leaves alone what is shared. -/
theorem local_of_silent {inv : σ → Prop} {view : ι → σ → ν} {b : α}
    (hmove : ∀ s, step (a, s) (b, s)) (honly : ∀ s y, step (a, s) y → y = (b, s)) :
    (ofMoves step inv view).Local i a v b v := by
  refine ⟨fun s _ _ => ⟨s, hmove s⟩, fun s other t hs hv hstep => ?_⟩
  obtain ⟨rfl, rfl⟩ := Prod.mk.inj (honly s _ hstep)
  exact ⟨rfl, hs, hv, fun j _ => rfl⟩

/-- A move that makes one call. -/
theorem local_of_call {Ask : Type} {Answer : Ask → Type} {D : Division Ask Answer σ ι ν} {c : Ask}
    {answer : Answer c} (next : Answer c → α) (hcall : D.Local i c v answer w)
    (hmove : ∀ s answer t, D.step c s answer t → step (a, s) (next answer, t))
    (honly : ∀ s y, step (a, s) y → ∃ answer t, D.step c s answer t ∧ y = (next answer, t)) :
    (ofMoves step D.inv D.view).Local i a v (next answer) w := by
  refine ⟨fun s hs hv => ?_, fun s other t hs hv hstep => ?_⟩
  · obtain ⟨t, ht⟩ := hcall.answered s hs hv
    exact ⟨t, hmove s answer t ht⟩
  · obtain ⟨given, u, hgiven, heq⟩ := honly s _ hstep
    obtain ⟨rfl, rfl⟩ := Prod.mk.inj heq
    obtain ⟨rfl, heffect⟩ := hcall.effect s given t hs hv hgiven
    exact ⟨rfl, heffect⟩

end

/-- In so many local moves a machine whose owner has `v` comes to a state, and the owner then has
`w`. -/
inductive Comes (M : Division α (fun _ => α) σ ι ν) (i : ι) : Nat → α → ν → α → ν → Prop where
  | here (a : α) (v : ν) : Comes M i 0 a v a v
  | move {a b c : α} {v w u : ν} {n : Nat} (h : M.Local i a v b w) (hrest : Comes M i n b w c u) :
      Comes M i (n + 1) a v c u

/-- A machine comes to a state in some number of local moves. -/
def Gets (M : Division α (fun _ => α) σ ι ν) (i : ι) (a : α) (v : ν) (b : α) (w : ν) : Prop :=
  ∃ n, M.Comes i n a v b w

variable {M : Division α (fun _ => α) σ ι ν} {i : ι} {a b c : α} {v w u : ν} {n : Nat}

theorem Gets.here (a : α) (v : ν) : M.Gets i a v a v := ⟨0, .here a v⟩

theorem Gets.move (h : M.Local i a v b w) (hrest : M.Gets i b w c u) : M.Gets i a v c u := by
  obtain ⟨n, hn⟩ := hrest
  exact ⟨n + 1, .move h hn⟩

theorem Comes.of_zero (h : M.Comes i 0 a v b w) : a = b ∧ v = w := by
  cases h with
  | here => exact ⟨rfl, rfl⟩

theorem Comes.of_succ (h : M.Comes i (n + 1) a v c u) :
    ∃ b w, M.Local i a v b w ∧ M.Comes i n b w c u := by
  cases h with
  | move h hrest => exact ⟨_, _, h, hrest⟩

end Program.Division

namespace Beside

open Program (Division)

variable [DecidableEq ι] [Fintype ι] {step : ι → α × σ → α × σ → Prop} {inv : σ → Prop}
  {view : ι → σ → ν} {final : ι → ν}

/-- Every machine is where it gets to, and every owner has what it then has. -/
structure Arrived (inv : σ → Prop) (view : ι → σ → ν) (goal : ι → α) (final : ι → ν)
    (x : (ι → α) × σ) : Prop where
  states : x.1 = goal
  inv : inv x.2
  final : ∀ i, view i x.2 = final i

/-- A count that goes down at one place goes down in all. -/
theorem sum_update_lt {n : ι → Nat} {j : ι} {k : Nat} (h : k < n j) :
    ∑ i, Function.update n j k i < ∑ i, n i := by
  refine Finset.sum_lt_sum (fun i _ => ?_) ⟨j, Finset.mem_univ j, ?_⟩
  · by_cases hi : i = j
    · subst hi
      rw [Function.update_self]
      exact h.le
    · rw [Function.update_of_ne hi]
  · rw [Function.update_self]
    exact h

/-- Beside others a machine gets to where it gets alone, in whatever order they move. -/
theorem inevitable (goal : ι → α) (hgoal : ∀ i s y, ¬step i (goal i, s) y) {states : ι → α}
    {s : σ} (hs : inv s)
    (h : ∀ i, (Division.ofMoves (step i) inv view).Gets i (states i) (view i s) (goal i)
      (final i)) :
    Inevitable (Beside step) (Arrived inv view goal final) (states, s) := by
  choose n hn using h
  -- Induction on how many moves all machines together have left.
  generalize htotal : ∑ i, n i = total
  induction total using Nat.strongRecOn generalizing states s n with
  | ind total ih =>
    by_cases hdone : ∀ i, n i = 0
    · have hall : ∀ i, states i = goal i ∧ view i s = final i := by
        intro i
        have hi := hn i
        rw [hdone i] at hi
        exact hi.of_zero
      exact .now ⟨funext fun i => (hall i).1, hs, fun i => (hall i).2⟩
    · obtain ⟨i, hi⟩ := not_forall.1 hdone
      obtain ⟨m, hm⟩ := Nat.exists_eq_succ_of_ne_zero hi
      have hcomes := hn i
      rw [hm] at hcomes
      obtain ⟨b, w, hlocal, _⟩ := hcomes.of_succ
      obtain ⟨t, ht⟩ := hlocal.answered s hs rfl
      refine .later ⟨_, .turn i ht⟩ fun x hx => ?_
      cases hx with
      | @turn _ _ j y hstep =>
        have hcomes := hn j
        cases hj : n j with
        | zero =>
          rw [hj] at hcomes
          rw [hcomes.of_zero.1] at hstep
          exact absurd hstep (hgoal j s y)
        | succ k =>
          rw [hj] at hcomes
          obtain ⟨b, w, hlocal, hrest⟩ := hcomes.of_succ
          obtain ⟨hb, hinv, hview, hothers⟩ := hlocal.effect s y.1 y.2 hs rfl hstep
          have hless : ∑ i, Function.update n j k i < total :=
            htotal ▸ sum_update_lt (hj ▸ Nat.lt_succ_self k)
          refine ih _ hless hinv (Function.update n j k) (fun l => ?_) rfl
          -- The machine that moved has one move less to come, the others have theirs still to come.
          by_cases hl : l = j
          · subst hl
            rw [Function.update_self, Function.update_self, hb, show view l y.2 = w from hview]
            exact hrest
          · rw [Function.update_of_ne hl, Function.update_of_ne hl,
              show view l y.2 = view l s from hothers l hl]
            exact hn l

end Beside
end Granary
