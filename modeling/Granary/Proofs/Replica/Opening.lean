import Granary.Proofs.Custody
import Granary.Proofs.Replica.Machine

/-!
# How a lifecycle comes to its tasks

Before its tasks a lifecycle lists the tables of its connection, drops them one after another if it
is a full refresh, and lists the source.  `Opens` says what databases make of these calls, with a
condition on the names that are still to be dropped, and `Opens.tasks` puts it together: either one
of the calls fails, or there is a task for each source table and nothing is left to be dropped.
-/

namespace Granary.Replica

variable {κ ω σ α β : Type} {step : (c : Call κ ω) → σ → Answer c → σ → Prop}
  {failed : Error → Prop} {s u : σ}

/-- An attempt ends well, or with one of the failures there may be. -/
def Ends (well : α → σ → Prop) (failed : Error → Prop) : Except Error α → σ → Prop
  | .ok a, t => well a t
  | .error e, _ => failed e

/-- A part that fails ends the whole. -/
theorem leads_bind {mid : α → σ → Prop} {post : β → σ → Prop} {p : Attempt κ ω α}
    {f : α → Attempt κ ω β} (hp : p.run.Leads step (Ends mid failed) s)
    (hf : ∀ a t, mid a t → (f a).run.Leads step (Ends post failed) t) :
    (p >>= f).run.Leads step (Ends post failed) s := by
  refine Program.Leads.bind hp fun outcome t h => ?_
  cases outcome with
  | error e => exact h
  | ok a => exact hf a t h

/-- What databases make of the calls before the tasks; `tidy` knows the names of the tables that are
still to be dropped. -/
structure Opens (step : (c : Call κ ω) → σ → Answer c → σ → Prop) (connection : String) (s : σ)
    (tidy : List String → σ → Prop) (failed : Error → Prop) (sources : List String) : Prop where
  list : (Attempt.listTables (stem connection) : Attempt κ ω (List String)).run.Leads step
    (Ends tidy failed) s
  drop : ∀ name rest u, tidy (name :: rest) u →
    (Attempt.dropTable name : Attempt κ ω Unit).run.Leads step
      (Ends (fun _ t => tidy rest t) failed) u
  source : ∀ u, tidy [] u → (sourceTables : Attempt κ ω (List String)).run.Leads step
    (Ends (fun names t => names = sources ∧ tidy [] t) failed) u

variable {connection : String} {tidy : List String → σ → Prop} {sources : List String}

theorem Opens.dropAll (h : Opens step connection s tidy failed sources) {names : List String}
    (hu : tidy names u) : (dropAll names : Attempt κ ω Unit).run.Leads step
      (Ends (fun _ t => tidy [] t) failed) u := by
  induction names generalizing u with
  | nil => exact hu
  | cons name rest ih => exact leads_bind (h.drop name rest u hu) fun _ t ht => ih ht

/-- A lifecycle that creates its tables comes to one task for each source table, or fails before. -/
theorem Opens.tasks (h : Opens step connection s tidy failed sources) {mode : Mode}
    (hmode : mode ≠ .refresh) (pace : Pace) (hconflict : mode = .run → ∀ name rest t,
      tidy (name :: rest) t → failed (.connectionNameConflict connection)) :
    (tasks mode pace connection : Attempt κ ω (List (Task κ ω))).run.Leads step
      (Ends (fun ts t => ts = sources.map (fun table => (loadTask pace connection table).run) ∧
        tidy [] t) failed) s := by
  have hload : ∀ u, tidy [] u →
      (do return (← sourceTables).map fun table => (loadTask pace connection table).run :
        Attempt κ ω (List (Task κ ω))).run.Leads step (Ends (fun ts t =>
          ts = sources.map (fun table => (loadTask pace connection table).run) ∧ tidy [] t)
            failed) u := by
    intro u hu
    refine leads_bind (h.source u hu) fun names t ht => ?_
    obtain ⟨rfl, ht⟩ := ht
    exact ⟨rfl, ht⟩
  cases mode with
  | refresh => exact absurd rfl hmode
  | run =>
    refine leads_bind h.list fun names t ht => ?_
    cases names with
    | nil => exact hload t ht
    | cons name rest => exact hconflict rfl name rest t ht
  | fullRefresh =>
    refine leads_bind h.list fun names t ht => ?_
    exact leads_bind (h.dropAll ht) fun _ u hu => hload u hu

end Granary.Replica
