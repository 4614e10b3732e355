import Granary.Proofs.Schedule
import Granary.Replica.Lifecycle
import Mathlib.Control.Lawful

/-!
# Lifecycles step by step

A lifecycle as a machine: it takes the lease, finds out what there is to do, runs the tasks of the
tables side by side in a pool, and gives the lease back.  `Lifecycle.Step` has one rule for each of
these, so a reachable state is any point at which a lifecycle may be broken off, in any order of the
tasks and with any answers to the calls.

With the tasks run one after another this is `lifecycle`: it runs the same tasks (`tables_eq`).
-/

namespace Granary

instance Program.lawful {Ask : Type} {Answer : Ask → Type} : LawfulMonad (Program Ask Answer) :=
  LawfulMonad.mk' _ Program.bind_done (fun _ _ => rfl) Program.bind_assoc

namespace Replica

open Program (Pool Safe)

variable {κ ω σ : Type}

/-- The work on one table, with its report if there is anything to report. -/
abbrev Task (κ ω : Type) := Work κ ω (Except Error (Option TableReport))

/-- The tasks of a lifecycle in the order of the source, once all is ready for them. -/
def tasks (mode : Mode) (pace : Pace) (connection : String) : Attempt κ ω (List (Task κ ω)) :=
  match mode with
  | .run => do
    let existing ← Attempt.listTables (stem connection)
    if !existing.isEmpty then throw (.connectionNameConflict connection)
    return (← sourceTables).map fun table => (loadTask pace connection table).run
  | .refresh => do
    return (← sourceTables).map fun table =>
      (ExceptT.lift (refreshTask pace connection table)).run
  | .fullRefresh => do
    dropAll (← Attempt.listTables (stem connection))
    return (← sourceTables).map fun table => (loadTask pace connection table).run

/-- What a lifecycle does while it holds its lease: its tasks, one after another. -/
theorem tables_eq (mode : Mode) (pace : Pace) (connection : String) :
    (tables mode pace connection : Attempt κ ω (List TableReport)) =
      tasks mode pace connection >>= fun ts => inOrder (ts.map .mk) := by
  cases mode with
  | run =>
    simp only [tables, runTables, loadAll, tasks, bind_assoc]
    refine congrArg _ (funext fun existing => ?_)
    split
    · rfl
    · simp only [pure_bind, bind_assoc, List.map_map]
      rfl
  | refresh =>
    simp only [tables, refreshTables, tasks, bind_assoc, pure_bind, List.map_map]
    rfl
  | fullRefresh =>
    simp only [tables, reloadTables, loadAll, tasks, bind_assoc, pure_bind, List.map_map]
    rfl

namespace Lifecycle

/-- Where a lifecycle is. -/
inductive State (κ ω : Type) where
  /-- The lease has yet to be taken. -/
  | entering
  | opening (guard : Guard) (work : Work κ ω (Except Error (List (Task κ ω))))
  | working (guard : Guard) (pool : Pool (Call κ ω) Answer Error (Option TableReport))
  /-- The lease has yet to be given back. -/
  | leaving (guard : Guard) (outcome : Except Error (List TableReport))
  | ended (outcome : Except Error Report)

/-- A lifecycle begins with the check of its name. -/
def start (connection : String) : State κ ω :=
  match checkName connection with
  | .ok () => .entering
  | .error e => .ended (.error e)

/-- What a lifecycle may do next, with at most `limit` tasks side by side. -/
inductive Step (mode : Mode) (pace : Pace) (connection : String) (limit : Nat)
    (step : (c : Call κ ω) → σ → Answer c → σ → Prop) : State κ ω × σ → State κ ω × σ → Prop where
  | enter {guard : Guard} {s t : σ} (h : step (.acquire connection) s (.ok guard) t) :
      Step mode pace connection limit step (.entering, s)
        (.opening guard (tasks mode pace connection).run, t)
  | refused {e : Error} {s t : σ} (h : step (.acquire connection) s (.error e) t) :
      Step mode pace connection limit step (.entering, s) (.ended (.error e), t)
  | opening {guard : Guard} {c : Call κ ω}
      {next : Answer c → Work κ ω (Except Error (List (Task κ ω)))} {answer : Answer c} {s t : σ}
      (h : step c s answer t) :
      Step mode pace connection limit step (.opening guard (.ask c next), s)
        (.opening guard (next answer), t)
  | opened {guard : Guard} {ts : List (Task κ ω)} {s : σ} :
      Step mode pace connection limit step (.opening guard (.done (.ok ts)), s)
        (.working guard ⟨[], [], ts⟩, s)
  | failed {guard : Guard} {e : Error} {s : σ} :
      Step mode pace connection limit step (.opening guard (.done (.error e)), s)
        (.leaving guard (.error e), s)
  | working {guard : Guard} {pool pool' : Pool (Call κ ω) Answer Error (Option TableReport)}
      {s t : σ} (h : Pool.Step limit step (pool, s) (pool', t)) :
      Step mode pace connection limit step (.working guard pool, s) (.working guard pool', t)
  | worked {guard : Guard} {pool : Pool (Call κ ω) Answer Error (Option TableReport)}
      {outcome : Except Error (List (Option TableReport))} {s : σ}
      (h : pool.outcome? = some outcome) :
      Step mode pace connection limit step (.working guard pool, s)
        (.leaving guard (outcome.map (·.flatMap Option.toList)), s)
  | leave {guard : Guard} {outcome : Except Error (List TableReport)} {s t : σ}
      (h : step (.release guard) s () t) :
      Step mode pace connection limit step (.leaving guard outcome, s)
        (.ended (outcome.map fun reports => ⟨connection, mode, reports⟩), t)

/-- What can be reached by a lifecycle. -/
def Reached (mode : Mode) (pace : Pace) (connection : String) (limit : Nat)
    (step : (c : Call κ ω) → σ → Answer c → σ → Prop) (s : σ) : State κ ω × σ → Prop :=
  Relation.ReflTransGen (Step mode pace connection limit step) (start connection, s)

section

variable {mode : Mode} {pace : Pace} {connection : String} {limit : Nat}
  {step : (c : Call κ ω) → σ → Answer c → σ → Prop} {allowed : Call κ ω → Prop}
  {answers : (c : Call κ ω) → Answer c → Prop} (inv : σ → Prop)

/-- Work that leads to tasks, all of which make allowed calls only. -/
def OpensSafely (allowed : Call κ ω → Prop) (answers : (c : Call κ ω) → Answer c → Prop)
    (work : Work κ ω (Except Error (List (Task κ ω)))) : Prop :=
  work.Safe allowed answers fun outcome =>
    ∀ ts, outcome = .ok ts → ∀ task ∈ ts, task.Safe allowed answers fun _ => True

/-- All calls that are still to come are allowed. -/
def State.Safe (allowed : Call κ ω → Prop) (answers : (c : Call κ ω) → Answer c → Prop) :
    State κ ω → Prop
  | .opening _ work => OpensSafely allowed answers work
  | .working _ pool => pool.Safe allowed answers
  | .entering | .leaving .. | .ended _ => True

/-- What every allowed call keeps, a step of a lifecycle keeps. -/
theorem Step.invariant (hacquire : allowed (.acquire connection))
    (hrelease : ∀ guard, allowed (.release guard))
    (hopen : OpensSafely allowed answers (tasks mode pace connection).run)
    (hstep : ∀ c s answer t, allowed c → inv s → step c s answer t → answers c answer ∧ inv t)
    {x y : State κ ω × σ} (h : Step mode pace connection limit step x y)
    (hx : x.1.Safe allowed answers) (hs : inv x.2) : y.1.Safe allowed answers ∧ inv y.2 := by
  cases h with
  | enter h => exact ⟨hopen, (hstep _ _ _ _ hacquire hs h).2⟩
  | refused h => exact ⟨trivial, (hstep _ _ _ _ hacquire hs h).2⟩
  | opening h =>
    obtain ⟨hanswer, ht⟩ := hstep _ _ _ _ hx.1 hs h
    exact ⟨hx.2 _ hanswer, ht⟩
  | opened => exact ⟨fun task htask => hx _ rfl task htask, hs⟩
  | failed => exact ⟨trivial, hs⟩
  | working h => exact h.invariant inv hstep hx hs
  | worked h => exact ⟨trivial, hs⟩
  | leave h => exact ⟨trivial, (hstep _ _ _ _ (hrelease _) hs h).2⟩

/-- What every allowed call keeps, a lifecycle keeps, wherever it is broken off. -/
theorem Reached.invariant (hacquire : allowed (.acquire connection))
    (hrelease : ∀ guard, allowed (.release guard))
    (hopen : OpensSafely allowed answers (tasks mode pace connection).run)
    (hstep : ∀ c s answer t, allowed c → inv s → step c s answer t → answers c answer ∧ inv t)
    {s : σ} {x : State κ ω × σ} (h : Reached mode pace connection limit step s x) (hs : inv s) :
    inv x.2 := by
  have hstart : (start connection : State κ ω).Safe allowed answers := by
    unfold start
    split
    · trivial
    · trivial
  have hall : x.1.Safe allowed answers ∧ inv x.2 := by
    induction h with
    | refl => exact ⟨hstart, hs⟩
    | tail _ h ih => exact h.invariant inv hacquire hrelease hopen hstep ih.1 ih.2
  exact hall.2

end

section

open Program (Division)

variable {mode : Mode} {pace : Pace} {connection : String} {limit : Nat}
  {good : State κ ω × σ → Prop}

/-- What comes of the opening when it is run alone comes of it in a lifecycle. -/
theorem inevitable_of_opening {handle : (c : Call κ ω) → σ → Answer c × σ} {guard : Guard}
    {work : Work κ ω (Except Error (List (Task κ ω)))} {ts : List (Task κ ω)} {s t : σ}
    (hwork : work.run handle s = (some (.ok ts), t))
    (h : Inevitable (Step mode pace connection limit fun c s answer t => handle c s = (answer, t))
      good (.working guard ⟨[], [], ts⟩, t)) :
    Inevitable (Step mode pace connection limit fun c s answer t => handle c s = (answer, t)) good
      (.opening guard work, s) := by
  induction work generalizing s with
  | done outcome =>
    obtain ⟨houtcome, rfl⟩ := Prod.mk.inj hwork
    obtain rfl := Option.some.inj houtcome
    refine .later ⟨_, .opened⟩ fun y hy => ?_
    cases hy with
    | opened => exact h
  | ask c next ih =>
    refine .later ⟨_, .opening rfl⟩ fun y hy => ?_
    cases hy with
    | @opening _ _ _ answer _ u hcall =>
      refine ih answer ?_
      rw [Program.run, hcall] at hwork
      exact hwork
  | spent => cases hwork

/-- A lifecycle whose pool inevitably finishes goes on with the results of all tasks. -/
theorem inevitable_of_working {ι ν : Type} {D : Division (Call κ ω) Answer σ ι ν} {guard : Guard}
    {origin : σ} {jobs : List (Division.Job ι ν (Option TableReport))}
    {x : Pool (Call κ ω) Answer Error (Option TableReport) × σ}
    (hpool : Inevitable (Pool.Step limit D.step) (D.Finished origin jobs) x)
    (h : ∀ y : Pool (Call κ ω) Answer Error (Option TableReport) × σ, D.Finished origin jobs y →
      Inevitable (Step mode pace connection limit D.step) good
        (.leaving guard (.ok (jobs.filterMap (·.result))), y.2)) :
    Inevitable (Step mode pace connection limit D.step) good (.working guard x.1, x.2) := by
  induction hpool with
  | @now x hfinished =>
    obtain ⟨pool, t⟩ := x
    have hleaving := h _ hfinished
    obtain rfl : pool = ⟨jobs.map (·.result), [], []⟩ := hfinished.pool
    refine .later ⟨_, .worked rfl⟩ fun y hy => ?_
    cases hy with
    | working hstep => exact absurd hstep Pool.Step.not_empty
    | worked hout =>
      obtain rfl := Option.some.inj hout
      rw [Except.map, List.flatMap_map, ← List.filterMap_eq_flatMap_toList]
      exact hleaving
  | @later x progress all ih =>
    obtain ⟨⟨pool', t'⟩, hstep⟩ := progress
    refine .later ⟨_, .working hstep⟩ fun y hy => ?_
    cases hy with
    | working hstep' => exact ih _ hstep'
    | worked hout =>
      have hfinished := Division.Finished.of_outcome? (.later ⟨_, hstep⟩ all) hout
      obtain ⟨pool, t⟩ := x
      obtain rfl : pool = ⟨jobs.map (·.result), [], []⟩ := hfinished.pool
      exact absurd hstep Pool.Step.not_empty

end

end Lifecycle
end Replica
end Granary
