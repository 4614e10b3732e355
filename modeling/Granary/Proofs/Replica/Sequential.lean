import Granary.Proofs.Fleet
import Granary.Proofs.Replica.Machine

/-!
# One table at a time

With one task at a time a lifecycle, as a machine, has one next move in every state, and these moves
make the calls of the program `lifecycle` in their order.  So what the program does alone, the
machine comes to in local moves (`Lifecycle.gets_of_performs`).
-/

namespace Granary

namespace Program.Pool

variable {Ask : Type} {Answer : Ask → Type} {ε α σ : Type}

/-- What a pool with one task at a time can do. -/
theorem Step.cases_one {step : (c : Ask) → σ → Answer c → σ → Prop}
    {results : List α} {running waiting : List (Program Ask Answer (Except ε α))} {s : σ}
    {y : Pool Ask Answer ε α × σ} (h : Step 1 step (⟨results, running, waiting⟩, s) y)
    (hrunning : running.length ≤ 1) :
    (∃ task rest, running = [] ∧ waiting = task :: rest ∧ y = (⟨results, [task], rest⟩, s)) ∨
    (∃ c next answer t, running = [.ask c next] ∧ step c s answer t ∧
      y = (⟨results, [next answer], waiting⟩, t)) ∨
    ∃ a, running = [.done (.ok a)] ∧ y = (⟨results ++ [a], [], waiting⟩, s) := by
  cases h with
  | @start _ _ waiting task _ hfree =>
    obtain rfl := List.length_eq_zero_iff.1 (Nat.lt_one_iff.1 hfree)
    exact .inl ⟨task, waiting, rfl, rfl, rfl⟩
  | @advance _ before after _ c next answer _ t hstep =>
    simp only [List.length_append, List.length_cons] at hrunning
    obtain rfl := List.length_eq_zero_iff.1 (show before.length = 0 by omega)
    obtain rfl := List.length_eq_zero_iff.1 (show after.length = 0 by omega)
    exact .inr (.inl ⟨c, next, answer, t, rfl, hstep, rfl⟩)
  | @collect _ running _ a _ =>
    simp only [List.length_cons] at hrunning
    obtain rfl := List.length_eq_zero_iff.1 (show running.length = 0 by omega)
    exact .inr (.inr ⟨a, rfl, rfl⟩)

end Program.Pool

namespace Replica.Lifecycle

open Program (Division Pool)

variable {κ ω σ ι ν : Type} {mode : Mode} {pace : Pace} {connection : String}
  {D : Division (Call κ ω) Answer σ ι ν} {i : ι} {guard : Guard} {v w u : ν} {b : State κ ω}

/-- The moves of a lifecycle that works on one table at a time. -/
def moves (mode : Mode) (pace : Pace) (connection : String)
    (D : Division (Call κ ω) Answer σ ι ν) :
    Division (State κ ω) (fun _ => State κ ω) σ ι ν :=
  .ofMoves (Step mode pace connection 1 D.step) D.inv D.view

section

variable {results : List (Option TableReport)} {waiting : List (Task κ ω)}

theorem gets_task {task : Task κ ω} {outcome : Except Error (Option TableReport)}
    (h : D.Performs i task v outcome w)
    (hrest : (moves mode pace connection D).Gets i
      (.working guard ⟨results, [.done outcome], waiting⟩) w b u) :
    (moves mode pace connection D).Gets i (.working guard ⟨results, [task], waiting⟩) v b u := by
  induction task generalizing v with
  | done a =>
    obtain ⟨rfl, rfl⟩ := h.of_done
    exact hrest
  | ask c next ih =>
    obtain ⟨answer, w', hlocal, hperforms⟩ := h.of_ask
    refine .move ?_ (ih answer hperforms)
    refine Division.local_of_call
      (fun answer => State.working guard ⟨results, [next answer], waiting⟩) hlocal
      (fun s answer t ht => ?_) fun s y hy => ?_
    · exact .working (@Pool.Step.advance _ _ _ _ _ _ _ _ [] [] _ _ _ _ _ _ ht)
    · cases hy with
      | working hstep =>
        obtain ⟨_, _, hnil, _⟩ | ⟨c, next, answer, t, hask, ht, hy⟩ | ⟨a, hdone, _⟩ :=
          hstep.cases_one (Nat.le_refl 1)
        · cases hnil
        · cases hask
          cases hy
          exact ⟨answer, _, ht, rfl⟩
        · cases hdone
      | worked hout => cases hout
  | spent =>
    obtain ⟨k, hk⟩ := h
    cases hk

theorem gets_start {task : Task κ ω}
    (hrest : (moves mode pace connection D).Gets i
      (.working guard ⟨results, [task], waiting⟩) v b w) :
    (moves mode pace connection D).Gets i
      (.working guard ⟨results, [], task :: waiting⟩) v b w := by
  refine .move (Division.local_of_silent (fun s => .working (.start Nat.zero_lt_one))
    fun s y hy => ?_) hrest
  cases hy with
  | working hstep =>
    obtain ⟨_, _, _, hwaiting, hy⟩ | ⟨_, _, _, _, hask, _⟩ | ⟨_, hdone, _⟩ :=
      hstep.cases_one (Nat.zero_le 1)
    · cases hwaiting
      cases hy
      rfl
    · cases hask
    · cases hdone
  | worked hout => cases hout

theorem gets_collect {a : Option TableReport}
    (hrest : (moves mode pace connection D).Gets i
      (.working guard ⟨results ++ [a], [], waiting⟩) v b w) :
    (moves mode pace connection D).Gets i
      (.working guard ⟨results, [.done (.ok a)], waiting⟩) v b w := by
  refine .move (Division.local_of_silent (fun s => .working .collect) fun s y hy => ?_) hrest
  cases hy with
  | working hstep =>
    obtain ⟨_, _, hnil, _⟩ | ⟨_, _, _, _, hask, _⟩ | ⟨_, hdone, hy⟩ :=
      hstep.cases_one (Nat.le_refl 1)
    · cases hnil
    · cases hask
    · cases hdone
      cases hy
      rfl
  | worked hout => cases hout

/-- A pool that cannot go on has come to its outcome. -/
theorem gets_outcome {pool : Pool (Call κ ω) Answer Error (Option TableReport)}
    {outcome : Except Error (List (Option TableReport))} (hout : pool.outcome? = some outcome)
    (hstuck : ∀ s y, ¬Pool.Step 1 D.step (pool, s) y)
    (hrest : (moves mode pace connection D).Gets i
      (.leaving guard (outcome.map (·.flatMap Option.toList))) v b w) :
    (moves mode pace connection D).Gets i (.working guard pool) v b w := by
  refine .move (Division.local_of_silent (fun s => .worked hout) fun s y hy => ?_) hrest
  cases hy with
  | working hstep => exact absurd hstep (hstuck s _)
  | worked hout' =>
    obtain rfl := Option.some.inj (hout.symm.trans hout')
    rfl

theorem gets_failure {e : Error}
    (hrest : (moves mode pace connection D).Gets i (.leaving guard (.error e)) v b w) :
    (moves mode pace connection D).Gets i
      (.working guard ⟨results, [.done (.error e)], waiting⟩) v b w := by
  refine gets_outcome rfl (fun s y hstep => ?_) hrest
  obtain ⟨_, _, hnil, _⟩ | ⟨_, _, _, _, hask, _⟩ | ⟨_, hdone, _⟩ := hstep.cases_one (Nat.le_refl 1)
  · cases hnil
  · cases hask
  · cases hdone

/-- Tasks one after another in a pool do what they do in a row. -/
theorem gets_inOrder {ts : List (Task κ ω)} {outcome : Except Error (List TableReport)}
    (h : D.Performs i (inOrder (ts.map .mk) : Attempt κ ω (List TableReport)).run v outcome w)
    (hrest : (moves mode pace connection D).Gets i
      (.leaving guard (outcome.map (results.flatMap Option.toList ++ ·))) w b u) :
    (moves mode pace connection D).Gets i (.working guard ⟨results, [], ts⟩) v b u := by
  induction ts generalizing results v outcome with
  | nil =>
    obtain ⟨rfl, rfl⟩ := Division.Performs.of_done h
    refine gets_outcome rfl (fun s y => Pool.Step.not_empty) ?_
    have hnil : (Except.ok [] : Except Error (List TableReport)).map
        (results.flatMap Option.toList ++ ·) = .ok (results.flatMap Option.toList) :=
      congrArg Except.ok (List.append_nil _)
    rw [hnil] at hrest
    exact hrest
  | cons task rest ih =>
    -- The first task is started, makes its calls, and is collected before the next one is started.
    obtain ⟨first, v', htask, hrow⟩ := Division.Performs.of_bind (p := task) h
    refine gets_start (gets_task htask ?_)
    cases first with
    | error e =>
      obtain ⟨rfl, rfl⟩ := Division.Performs.of_done hrow
      exact gets_failure hrest
    | ok a =>
      obtain ⟨others, v'', hothers, hdone⟩ := Division.Performs.of_bind
        (p := (inOrder (rest.map .mk) : Attempt κ ω (List TableReport)).run) hrow
      refine gets_collect ?_
      cases others with
      | error e =>
        obtain ⟨rfl, rfl⟩ := Division.Performs.of_done hdone
        exact ih hothers hrest
      | ok reports =>
        obtain ⟨rfl, rfl⟩ := Division.Performs.of_done hdone
        refine ih hothers ?_
        simpa [Except.map] using hrest

end

theorem gets_opening {work : Work κ ω (Except Error (List (Task κ ω)))}
    {opened : Except Error (List (Task κ ω))} (h : D.Performs i work v opened w)
    (hrest : (moves mode pace connection D).Gets i (.opening guard (.done opened)) w b u) :
    (moves mode pace connection D).Gets i (.opening guard work) v b u := by
  induction work generalizing v with
  | done a =>
    obtain ⟨rfl, rfl⟩ := h.of_done
    exact hrest
  | ask c next ih =>
    obtain ⟨answer, w', hlocal, hperforms⟩ := h.of_ask
    refine .move ?_ (ih answer hperforms)
    refine Division.local_of_call (fun answer => State.opening guard (next answer)) hlocal
      (fun s answer t ht => .opening ht) fun s y hy => ?_
    cases hy with
    | opening ht => exact ⟨_, _, ht, rfl⟩
  | spent =>
    obtain ⟨k, hk⟩ := h
    cases hk

/-- With the lease in hand a lifecycle comes to what its tables come to. -/
theorem gets_tables {outcome : Except Error (List TableReport)}
    (h : D.Performs i (tables mode pace connection : Attempt κ ω (List TableReport)).run v outcome
      w)
    (hrest : (moves mode pace connection D).Gets i (.leaving guard outcome) w b u) :
    (moves mode pace connection D).Gets i (.opening guard (tasks mode pace connection).run) v b
      u := by
  rw [tables_eq] at h
  obtain ⟨opened, v', htasks, hrow⟩ := Division.Performs.of_bind
    (p := (tasks mode pace connection : Attempt κ ω (List (Task κ ω))).run) h
  refine gets_opening htasks ?_
  cases opened with
  | error e =>
    obtain ⟨rfl, rfl⟩ := Division.Performs.of_done hrow
    refine .move (Division.local_of_silent (fun s => .failed) fun s y hy => ?_) hrest
    cases hy with
    | failed => rfl
  | ok ts =>
    have hpool : (moves mode pace connection D).Gets i (.working guard ⟨[], [], ts⟩) v' b u := by
      refine gets_inOrder hrow ?_
      cases outcome with
      | error e => exact hrest
      | ok reports => exact hrest
    refine .move (Division.local_of_silent (fun s => .opened) fun s y hy => ?_) hpool
    cases hy with
    | opened => rfl

theorem gets_leave {outcome : Except Error (List TableReport)}
    (h : D.Local i (.release guard) v () w) :
    (moves mode pace connection D).Gets i (.leaving guard outcome) v
      (.ended (outcome.map fun reports => ⟨connection, mode, reports⟩)) w := by
  refine .move ?_ (.here _ w)
  refine Division.local_of_call
    (fun _ => State.ended (outcome.map fun reports => ⟨connection, mode, reports⟩)) h
    (fun s answer t ht => .leave ht) fun s y hy => ?_
  cases hy with
  | leave ht => exact ⟨(), _, ht, rfl⟩

/-- Where a lifecycle goes with the answer about its lease. -/
def entered (mode : Mode) (pace : Pace) (connection : String) : Except Error Guard → State κ ω
  | .error e => .ended (.error e)
  | .ok guard => .opening guard (tasks mode pace connection).run

theorem local_enter {answer : Except Error Guard}
    (h : D.Local i (.acquire connection) v answer w) :
    (moves mode pace connection D).Local i .entering v (entered mode pace connection answer) w := by
  refine Division.local_of_call (c := Call.acquire connection)
    (entered mode pace connection) h (fun s answer t ht => ?_) fun s y hy => ?_
  · cases answer with
    | error e => exact .refused ht
    | ok guard => exact .enter ht
  · cases hy with
    | enter ht => exact ⟨_, _, ht, rfl⟩
    | refused ht => exact ⟨_, _, ht, rfl⟩

theorem gets_holding {outcome : Except Error (List TableReport)}
    (h : D.Performs i (Attempt.holding connection (tables mode pace connection) :
      Attempt κ ω (List TableReport)).run v outcome w) :
    (moves mode pace connection D).Gets i .entering v
      (.ended (outcome.map fun reports => ⟨connection, mode, reports⟩)) w := by
  obtain ⟨answer, v', hlocal, hanswer⟩ := h.of_ask
  refine .move (local_enter hlocal) ?_
  cases answer with
  | error e =>
    obtain ⟨rfl, rfl⟩ := Division.Performs.of_done hanswer
    exact .here _ _
  | ok guard =>
    obtain ⟨reports, v'', htables, hreleased⟩ := Division.Performs.of_bind
      (p := (tables mode pace connection : Attempt κ ω (List TableReport)).run) hanswer
    obtain ⟨_, w', hrelease, hdone⟩ := hreleased.of_ask
    obtain ⟨rfl, rfl⟩ := hdone.of_done
    exact gets_tables htables (gets_leave hrelease)

/-- What the program of a lifecycle does alone, the machine gets to. -/
theorem gets_of_performs {outcome : Except Error Report}
    (h : D.Performs i (lifecycle mode pace connection : Attempt κ ω Report).run v outcome w) :
    (moves mode pace connection D).Gets i (start connection) v (.ended outcome) w := by
  unfold start
  unfold lifecycle at h
  cases hname : checkName connection with
  | error e =>
    rw [hname] at h
    obtain ⟨rfl, rfl⟩ := Division.Performs.of_done (a := Except.error e) h
    exact .here _ _
  | ok _ =>
    rw [hname] at h
    obtain ⟨reports, w', hholding, hdone⟩ := Division.Performs.of_bind
      (p := (Attempt.holding connection (tables mode pace connection) :
        Attempt κ ω (List TableReport)).run) h
    have hgets := gets_holding hholding
    cases reports with
    | error e =>
      obtain ⟨rfl, rfl⟩ := Division.Performs.of_done hdone
      exact hgets
    | ok reports =>
      obtain ⟨rfl, rfl⟩ := Division.Performs.of_done hdone
      exact hgets

end Replica.Lifecycle
end Granary
