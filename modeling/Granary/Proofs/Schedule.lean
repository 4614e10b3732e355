import Granary.Proofs.Runs
import Mathlib.Data.List.Nodup
import Mathlib.Logic.Relation

/-!
# Tasks side by side

A pool runs tasks side by side, a limited number at a time.  It starts them in order, any task that
runs may make its next call, and results are collected in order, so the same pool has as many runs
as there are orders of these steps.

`Inevitable` says that every run ends, and ends well.  To prove it of a pool, the state is divided
among owners: each task makes calls that see and change what its owner has, and nothing else that is
divided (`Division.Local`).  What a task does on its own (`Division.Does`) it then does in any
company, which is `Division.inevitable`.
-/

namespace Granary

/-- Wherever a system goes from a state, it gets to a good state, and it can always go on. -/
inductive Inevitable {σ : Type} (step : σ → σ → Prop) (good : σ → Prop) : σ → Prop where
  | now {s : σ} (h : good s) : Inevitable step good s
  | later {s : σ} (progress : ∃ t, step s t) (all : ∀ t, step s t → Inevitable step good t) :
      Inevitable step good s

theorem Inevitable.trans {σ : Type} {step : σ → σ → Prop} {mid good : σ → Prop} {s : σ}
    (h : Inevitable step mid s) (hmid : ∀ t, mid t → Inevitable step good t) :
    Inevitable step good s := by
  induction h with
  | now h => exact hmid _ h
  | later progress _ ih => exact .later progress ih

namespace Program

variable {Ask : Type} {Answer : Ask → Type} {ε α β γ σ ι ν : Type}

/-- Results that have been collected, tasks that run and tasks that wait, all in order. -/
structure Pool (Ask : Type) (Answer : Ask → Type) (ε α : Type) where
  results : List α := []
  running : List (Program Ask Answer (Except ε α)) := []
  waiting : List (Program Ask Answer (Except ε α)) := []

namespace Pool

/-- What a pool has come to: the results of all tasks, or the error of a task that failed after all
before it succeeded. -/
def outcome? (pool : Pool Ask Answer ε α) : Option (Except ε (List α)) :=
  match pool.running, pool.waiting with
  | [], [] => some (.ok pool.results)
  | .done (.error e) :: _, _ => some (.error e)
  | _, _ => none

/-- One step of a pool, for calls that are answered by `step`. -/
inductive Step (limit : Nat) (step : (c : Ask) → σ → Answer c → σ → Prop) :
    Pool Ask Answer ε α × σ → Pool Ask Answer ε α × σ → Prop where
  | start {results : List α} {running waiting : List (Program Ask Answer (Except ε α))}
      {task : Program Ask Answer (Except ε α)} {s : σ} (h : running.length < limit) :
      Step limit step (⟨results, running, task :: waiting⟩, s)
        (⟨results, running ++ [task], waiting⟩, s)
  | advance {results : List α} {before after waiting : List (Program Ask Answer (Except ε α))}
      {c : Ask} {next : Answer c → Program Ask Answer (Except ε α)} {answer : Answer c} {s t : σ}
      (h : step c s answer t) :
      Step limit step (⟨results, before ++ .ask c next :: after, waiting⟩, s)
        (⟨results, before ++ next answer :: after, waiting⟩, t)
  | collect {results : List α} {running waiting : List (Program Ask Answer (Except ε α))} {a : α}
      {s : σ} :
      Step limit step (⟨results, .done (.ok a) :: running, waiting⟩, s)
        (⟨results ++ [a], running, waiting⟩, s)

theorem outcome?_eq_ok_iff {pool : Pool Ask Answer ε α} {results : List α} :
    pool.outcome? = some (.ok results) ↔ pool = ⟨results, [], []⟩ := by
  obtain ⟨collected, running, waiting⟩ := pool
  unfold outcome?
  split <;> simp_all

theorem outcome?_eq_error_iff {pool : Pool Ask Answer ε α} {e : ε} :
    pool.outcome? = some (.error e) ↔ ∃ rest, pool.running = .done (.error e) :: rest := by
  obtain ⟨collected, running, waiting⟩ := pool
  unfold outcome?
  split <;> simp_all

theorem Step.not_empty {limit : Nat} {step : (c : Ask) → σ → Answer c → σ → Prop}
    {results : List α} {s : σ} {y : Pool Ask Answer ε α × σ} :
    ¬Step limit step (⟨results, [], []⟩, s) y := by
  intro h
  generalize hx : ((⟨results, [], []⟩ : Pool Ask Answer ε α), s) = x at h
  cases h <;> simp at hx

/-- A pool that has failed stays so, whatever the tasks behind the failed one still do. -/
theorem Step.outcome?_error {limit : Nat} {step : (c : Ask) → σ → Answer c → σ → Prop}
    {x y : Pool Ask Answer ε α × σ} {e : ε} (h : Step limit step x y)
    (hx : x.1.outcome? = some (.error e)) : y.1.outcome? = some (.error e) := by
  rw [outcome?_eq_error_iff] at hx ⊢
  obtain ⟨rest, hrest⟩ := hx
  cases h with
  | start h => exact ⟨_, congrArg (· ++ _) hrest⟩
  | @advance results before after waiting c next answer s t h =>
    cases before with
    | nil => cases hrest
    | cons first before =>
      obtain ⟨rfl, rfl⟩ := List.cons.inj hrest
      exact ⟨_, rfl⟩
  | collect => cases hrest

variable {allowed : Ask → Prop} {answers : (c : Ask) → Answer c → Prop}

/-- All tasks of a pool make allowed calls only. -/
def Safe (allowed : Ask → Prop) (answers : (c : Ask) → Answer c → Prop)
    (pool : Pool Ask Answer ε α) : Prop :=
  ∀ task ∈ pool.running ++ pool.waiting, task.Safe allowed answers fun _ => True

/-- A step of a pool makes an allowed call or leaves alone what the tasks share. -/
theorem Step.call {limit : Nat} {step : (c : Ask) → σ → Answer c → σ → Prop}
    {x y : Pool Ask Answer ε α × σ} (h : Step limit step x y) (hx : x.1.Safe allowed answers) :
    y.2 = x.2 ∨ ∃ c answer, allowed c ∧ step c x.2 answer y.2 := by
  cases h with
  | start h => exact .inl rfl
  | @advance results before after waiting c next answer s t h =>
    have hask : (Program.ask c next).Safe allowed answers fun _ => True := hx _ (by simp)
    exact .inr ⟨c, answer, hask.1, h⟩
  | collect => exact .inl rfl

/-- What every allowed call keeps, a step of a pool keeps. -/
theorem Step.invariant {limit : Nat} {step : (c : Ask) → σ → Answer c → σ → Prop} (inv : σ → Prop)
    (hstep : ∀ c s answer t, allowed c → inv s → step c s answer t → answers c answer ∧ inv t)
    {x y : Pool Ask Answer ε α × σ} (h : Step limit step x y) (hx : x.1.Safe allowed answers)
    (hs : inv x.2) : y.1.Safe allowed answers ∧ inv y.2 := by
  cases h with
  | start h =>
    refine ⟨fun task htask => hx task ?_, hs⟩
    simpa using htask
  | @advance results before after waiting c next answer s t h =>
    have hask : (Program.ask c next).Safe allowed answers fun _ => True := hx _ (by simp)
    obtain ⟨hanswer, ht⟩ := hstep c s answer t hask.1 hs h
    refine ⟨fun task htask => ?_, ht⟩
    simp only [List.mem_append, List.mem_cons] at htask
    obtain (hbefore | rfl | hafter) | hwaiting := htask
    · exact hx task (by simp [hbefore])
    · exact hask.2 answer hanswer
    · exact hx task (by simp [hafter])
    · exact hx task (by simp [hwaiting])
  | collect => exact ⟨fun task htask => hx task (List.mem_cons_of_mem _ htask), hs⟩

end Pool

/-! ## Owners -/

/-- A state that is divided among owners, and what all of them rely on. -/
structure Division (Ask : Type) (Answer : Ask → Type) (σ ι ν : Type) where
  step : (c : Ask) → σ → Answer c → σ → Prop
  inv : σ → Prop
  /-- What an owner has. -/
  view : ι → σ → ν

namespace Division

variable (D : Division Ask Answer σ ι ν)

/-- A call of an owner who has `v`: there is one answer, the owner then has `w`, and the others have
what they had. -/
structure Local (i : ι) (c : Ask) (v : ν) (answer : Answer c) (w : ν) : Prop where
  answered : ∀ s, D.inv s → D.view i s = v → ∃ t, D.step c s answer t
  effect : ∀ s other t, D.inv s → D.view i s = v → D.step c s other t →
    other = answer ∧ D.inv t ∧ D.view i t = w ∧ ∀ j, j ≠ i → D.view j t = D.view j s

/-- In so many local calls a program of an owner who has `v` comes to a result, and the owner then
has `w`. -/
inductive Does (i : ι) : Nat → Program Ask Answer β → ν → β → ν → Prop where
  | done (b : β) (v : ν) : Does i 0 (.done b) v b v
  | ask {c : Ask} {next : Answer c → Program Ask Answer β} {answer : Answer c} {v w u : ν} {b : β}
      {k : Nat} (h : D.Local i c v answer w) (hrest : Does i k (next answer) w b u) :
      Does i (k + 1) (.ask c next) v b u

variable {D}

theorem Does.bind {i : ι} {k m : Nat} {p : Program Ask Answer β}
    {f : β → Program Ask Answer γ} {v w u : ν} {b : β} {c : γ} (hp : D.Does i k p v b w)
    (hf : D.Does i m (f b) w c u) : D.Does i (k + m) (p.bind f) v c u := by
  induction hp with
  | done b v => rwa [Nat.zero_add]
  | ask h _ ih =>
    rw [Nat.add_right_comm]
    exact .ask h (ih hf)

theorem Does.of_done {i : ι} {k : Nat} {v w : ν} {a b : β}
    (h : D.Does i k (.done a) v b w) : b = a ∧ w = v := by
  cases h with
  | done => exact ⟨rfl, rfl⟩

theorem Does.of_ask {i : ι} {k : Nat} {c : Ask} {next : Answer c → Program Ask Answer β} {v u : ν}
    {b : β} (h : D.Does i k (.ask c next) v b u) :
    ∃ answer w m, k = m + 1 ∧ D.Local i c v answer w ∧ D.Does i m (next answer) w b u := by
  cases h with
  | ask hlocal hrest => exact ⟨_, _, _, rfl, hlocal, hrest⟩

/-- A program comes to a result in some number of local calls. -/
def Performs (D : Division Ask Answer σ ι ν) (i : ι) (p : Program Ask Answer β) (v : ν) (b : β)
    (w : ν) : Prop :=
  ∃ k, D.Does i k p v b w

theorem Performs.done (i : ι) (b : β) (v : ν) : D.Performs i (.done b) v b v := ⟨0, .done b v⟩

theorem Performs.ask {i : ι} {c : Ask} {next : Answer c → Program Ask Answer β} {answer : Answer c}
    {v w u : ν} {b : β} (h : D.Local i c v answer w) (hrest : D.Performs i (next answer) w b u) :
    D.Performs i (.ask c next) v b u := by
  obtain ⟨k, hk⟩ := hrest
  exact ⟨k + 1, .ask h hk⟩

theorem Performs.bind {i : ι} {p : Program Ask Answer β} {f : β → Program Ask Answer γ}
    {v w u : ν} {b : β} {c : γ} (hp : D.Performs i p v b w) (hf : D.Performs i (f b) w c u) :
    D.Performs i (p.bind f) v c u := by
  obtain ⟨k, hk⟩ := hp
  obtain ⟨m, hm⟩ := hf
  exact ⟨k + m, hk.bind hm⟩

/-- What is done by two programs one after the other is done by each of them. -/
theorem Performs.of_bind {i : ι} {p : Program Ask Answer β} {f : β → Program Ask Answer γ}
    {v u : ν} {c : γ} (h : D.Performs i (p.bind f) v c u) :
    ∃ b w, D.Performs i p v b w ∧ D.Performs i (f b) w c u := by
  induction p generalizing v with
  | done b => exact ⟨b, v, .done i b v, h⟩
  | ask call next ih =>
    obtain ⟨k, hk⟩ := h
    obtain ⟨answer, w, m, rfl, hlocal, hrest⟩ := hk.of_ask
    obtain ⟨b, w', hp, hf⟩ := ih answer ⟨m, hrest⟩
    exact ⟨b, w', .ask hlocal hp, hf⟩
  | spent =>
    obtain ⟨k, hk⟩ := h
    cases hk

theorem Performs.of_ask {i : ι} {c : Ask} {next : Answer c → Program Ask Answer β} {v u : ν}
    {b : β} (h : D.Performs i (.ask c next) v b u) :
    ∃ answer w, D.Local i c v answer w ∧ D.Performs i (next answer) w b u := by
  obtain ⟨k, hk⟩ := h
  obtain ⟨answer, w, m, rfl, hlocal, hrest⟩ := hk.of_ask
  exact ⟨answer, w, hlocal, m, hrest⟩

theorem Performs.of_done {i : ι} {v w : ν} {a b : β} (h : D.Performs i (.done a) v b w) :
    b = a ∧ w = v := by
  obtain ⟨k, hk⟩ := h
  exact hk.of_done

/-- A program that is run alone does what it does. -/
theorem Does.run {handle : (c : Ask) → σ → Answer c × σ}
    (hhandle : ∀ c s answer t, D.step c s answer t ↔ handle c s = (answer, t)) {i : ι} {k : Nat}
    {p : Program Ask Answer β} {v w : ν} {b : β} (h : D.Does i k p v b w) {s : σ} (hs : D.inv s)
    (hv : D.view i s = v) : ∃ t, p.run handle s = (some b, t) ∧ D.inv t ∧ D.view i t = w ∧
      ∀ j, j ≠ i → D.view j t = D.view j s := by
  induction h generalizing s with
  | done b v => exact ⟨s, rfl, hs, hv, fun j _ => rfl⟩
  | ask h _ ih =>
    obtain ⟨t, ht⟩ := h.answered s hs hv
    obtain ⟨_, hinv, hview, hothers⟩ := h.effect s _ t hs hv ht
    obtain ⟨u, hrun, huinv, huview, huothers⟩ := ih hinv hview
    refine ⟨u, ?_, huinv, huview, fun j hj => (huothers j hj).trans (hothers j hj)⟩
    rw [Program.run, (hhandle _ _ _ _).1 ht]
    exact hrun

/-- What is to come of a task: its owner, its result, and what the owner has in the end. -/
structure Job (ι ν α : Type) where
  owner : ι
  result : α
  final : ν

/-- Tasks that have yet to do their jobs, and how many calls and ends of tasks this takes. -/
inductive Underway (D : Division Ask Answer σ ι ν) (s : σ) :
    List (Program Ask Answer (Except ε α)) → List (Job ι ν α) → Nat → Prop where
  | nil : Underway D s [] [] 0
  | cons {task : Program Ask Answer (Except ε α)} {tasks : List (Program Ask Answer (Except ε α))}
      {job : Job ι ν α} {jobs : List (Job ι ν α)} {k n : Nat}
      (h : D.Does job.owner k task (D.view job.owner s) (.ok job.result) job.final)
      (hrest : Underway D s tasks jobs n) : Underway D s (task :: tasks) (job :: jobs) (k + 1 + n)

variable {s t : σ} {tasks tasks' : List (Program Ask Answer (Except ε α))}
  {jobs jobs' : List (Job ι ν α)} {m n : Nat}

theorem Underway.congr (h : D.Underway s tasks jobs n)
    (heq : ∀ job ∈ jobs, D.view job.owner t = D.view job.owner s) :
    D.Underway t tasks jobs n := by
  induction h with
  | nil => exact .nil
  | cons h _ ih =>
    rw [List.forall_mem_cons] at heq
    exact .cons (heq.1 ▸ h) (ih heq.2)

theorem Underway.append (h : D.Underway s tasks jobs m) (h' : D.Underway s tasks' jobs' n) :
    D.Underway s (tasks ++ tasks') (jobs ++ jobs') (m + n) := by
  induction h with
  | nil => rwa [Nat.zero_add]
  | cons h _ ih =>
    rw [Nat.add_assoc]
    exact .cons h ih

theorem Underway.of_append (h : D.Underway s (tasks ++ tasks') jobs n) :
    ∃ before after k m, jobs = before ++ after ∧ n = k + m ∧ D.Underway s tasks before k ∧
      D.Underway s tasks' after m := by
  induction tasks generalizing jobs n with
  | nil => exact ⟨[], jobs, 0, n, rfl, (Nat.zero_add n).symm, .nil, h⟩
  | cons task rest ih =>
    cases h with
    | cons hdoes hrest =>
      obtain ⟨before, after, k, m, rfl, rfl, hbefore, hafter⟩ := ih hrest
      exact ⟨_ :: before, after, _, m, rfl, (Nat.add_assoc _ _ _).symm, .cons hdoes hbefore, hafter⟩

/-- A pool on its way to the results of some jobs: those collected have been done, those running and
waiting are underway, and nobody else has lost or gained anything. -/
structure Progress (D : Division Ask Answer σ ι ν) (origin : σ) (jobs : List (Job ι ν α)) (n : Nat)
    (x : Pool Ask Answer ε α × σ) (collected active idle : List (Job ι ν α)) (k m : Nat) :
    Prop where
  split : jobs = collected ++ active ++ idle
  results : x.1.results = collected.map (·.result)
  running : D.Underway x.2 x.1.running active k
  waiting : D.Underway x.2 x.1.waiting idle m
  /-- A task that waits has yet to be started. -/
  count : n = k + m + x.1.waiting.length
  inv : D.inv x.2
  final : ∀ job ∈ collected, D.view job.owner x.2 = job.final
  others : ∀ j, j ∉ jobs.map (·.owner) → D.view j x.2 = D.view j origin

/-- All results have been collected, every owner has what was to come of the task, and nobody else
has lost or gained anything. -/
structure Finished (D : Division Ask Answer σ ι ν) (origin : σ) (jobs : List (Job ι ν α))
    (x : Pool Ask Answer ε α × σ) : Prop where
  pool : x.1 = ⟨jobs.map (·.result), [], []⟩
  inv : D.inv x.2
  final : ∀ job ∈ jobs, D.view job.owner x.2 = job.final
  others : ∀ j, j ∉ jobs.map (·.owner) → D.view j x.2 = D.view j origin

variable {origin : σ} {limit : Nat} {collected active idle : List (Job ι ν α)} {k : Nat}
  {x y : Pool Ask Answer ε α × σ}

theorem Job.owner_ne {job other : Job ι ν α} {front back : List (Job ι ν α)}
    (hnodup : ((front ++ job :: back).map (·.owner)).Nodup) (hother : other ∈ front ++ back) :
    other.owner ≠ job.owner := by
  rw [List.map_append, List.map_cons, List.nodup_middle, List.nodup_cons,
    ← List.map_append] at hnodup
  intro hsame
  exact hnodup.1 (hsame ▸ List.mem_map_of_mem hother)

/-- A pool that has fewer than `n` calls and ends of tasks to come. -/
def Closer (D : Division Ask Answer σ ι ν) (origin : σ) (jobs : List (Job ι ν α)) (n : Nat)
    (y : Pool Ask Answer ε α × σ) : Prop :=
  ∃ n' collected active idle k m, n' < n ∧ D.Progress origin jobs n' y collected active idle k m

section

variable {results : List α} {running waiting before after : List (Program Ask Answer (Except ε α))}
  {task : Program Ask Answer (Except ε α)}

theorem Progress.start
    (hx : D.Progress origin jobs n (⟨results, running, task :: waiting⟩, s) collected active idle
      k m) :
    D.Closer origin jobs n (⟨results, running ++ [task], waiting⟩, s) := by
  obtain ⟨hjobs, hresults, hrunning, hwaiting, hcount, hinv, hfinal, hothers⟩ := hx
  cases hwaiting with
  | @cons _ _ job idle k' m' hdoes hrest =>
    refine ⟨_, collected, active ++ [job], idle, k + (k' + 1 + 0), m', ?_,
      ⟨?_, hresults, hrunning.append (.cons hdoes .nil), hrest, rfl, hinv, hfinal, hothers⟩⟩
    · simp only [List.length_cons] at hcount ⊢
      omega
    · rw [hjobs]
      simp

theorem Progress.advance (hnodup : (jobs.map (·.owner)).Nodup) {c : Ask}
    {next : Answer c → Program Ask Answer (Except ε α)} {answer : Answer c}
    (hx : D.Progress origin jobs n (⟨results, before ++ .ask c next :: after, waiting⟩, s)
      collected active idle k m)
    (hstep : D.step c s answer t) :
    D.Closer origin jobs n (⟨results, before ++ next answer :: after, waiting⟩, t) := by
  obtain ⟨hjobs, hresults, hrunning, hwaiting, hcount, hinv, hfinal, hothers⟩ := hx
  obtain ⟨jobsBefore, jobsRest, kb, kr, rfl, rfl, hbefore, hrest⟩ := hrunning.of_append
  cases hrest with
  | @cons _ _ job jobsAfter k' ka hdoes hafter =>
    obtain ⟨_, w, k'', rfl, hlocal, hdoes⟩ := hdoes.of_ask
    obtain ⟨rfl, htinv, htview, htothers⟩ := hlocal.effect s answer t hinv rfl hstep
    have hsplit : jobs = (collected ++ jobsBefore) ++ job :: (jobsAfter ++ idle) := by
      rw [hjobs]
      simp
    -- The calls of one owner do not touch what the others have.
    have hapart : ∀ other ∈ (collected ++ jobsBefore) ++ (jobsAfter ++ idle),
        D.view other.owner t = D.view other.owner s := by
      intro other hother
      exact htothers _ (Job.owner_ne (hsplit ▸ hnodup) hother)
    simp only [List.forall_mem_append] at hapart
    obtain ⟨⟨hcollected, hbefore'⟩, hafter', hidle⟩ := hapart
    have hmine : D.Does job.owner k'' (next answer) (D.view job.owner t) (.ok job.result)
        job.final := htview.symm ▸ hdoes
    refine ⟨_, collected, jobsBefore ++ job :: jobsAfter, idle, kb + (k'' + 1 + ka), m, ?_,
      ⟨hjobs, hresults, ?_, hwaiting.congr hidle, rfl, htinv, fun other h => ?_, fun j hj => ?_⟩⟩
    · simp only at hcount ⊢
      omega
    · exact (hbefore.congr hbefore').append (.cons hmine (hafter.congr hafter'))
    · exact (hcollected other h).trans (hfinal other h)
    · refine (htothers j fun hsame => hj ?_).trans (hothers j hj)
      rw [hjobs, hsame]
      simp

theorem Progress.collect {a : α}
    (hx : D.Progress origin jobs n (⟨results, .done (.ok a) :: running, waiting⟩, s) collected
      active idle k m) :
    D.Closer origin jobs n (⟨results ++ [a], running, waiting⟩, s) := by
  obtain ⟨hjobs, hresults, hrunning, hwaiting, hcount, hinv, hfinal, hothers⟩ := hx
  cases hrunning with
  | @cons _ _ job active k' ka hdoes hrest =>
    obtain ⟨hresult, hview⟩ := hdoes.of_done
    refine ⟨_, collected ++ [job], active, idle, ka, m, ?_,
      ⟨?_, ?_, hrest, hwaiting, rfl, hinv, ?_, hothers⟩⟩
    · simp only at hcount ⊢
      omega
    · rw [hjobs]
      simp
    · rw [List.map_append, ← hresults, List.map_singleton, Except.ok.inj hresult]
    · exact List.forall_mem_append.2 ⟨hfinal, List.forall_mem_singleton.2 hview.symm⟩

end

/-- Every step brings a pool closer to its end. -/
theorem Progress.step (hnodup : (jobs.map (·.owner)).Nodup)
    (hx : D.Progress origin jobs n x collected active idle k m)
    (h : Pool.Step limit D.step x y) : D.Closer origin jobs n y := by
  cases h with
  | start _ => exact hx.start
  | advance hstep => exact hx.advance hnodup hstep
  | collect => exact hx.collect

/-- A pool that has not finished can go on. -/
theorem Progress.finished_or_step (hlimit : 0 < limit)
    (hx : D.Progress origin jobs n x collected active idle k m) :
    D.Finished origin jobs x ∨ ∃ y, Pool.Step limit D.step x y := by
  obtain ⟨⟨results, running, waiting⟩, s⟩ := x
  obtain ⟨hjobs, hresults, hrunning, hwaiting, _, hinv, hfinal, hothers⟩ := hx
  cases hrunning with
  | nil =>
    cases hwaiting with
    | nil =>
      rw [List.append_nil, List.append_nil] at hjobs
      subst hjobs
      left
      obtain rfl : results = jobs.map (·.result) := hresults
      exact ⟨rfl, hinv, hfinal, hothers⟩
    | cons _ _ => exact .inr ⟨_, .start hlimit⟩
  | @cons task _ job _ _ _ hdoes _ =>
    right
    cases task with
    | done out =>
      obtain ⟨rfl, _⟩ := hdoes.of_done
      exact ⟨_, .collect⟩
    | spent => cases hdoes
    | ask c next =>
      obtain ⟨_, _, _, _, hlocal, _⟩ := hdoes.of_ask
      obtain ⟨t, ht⟩ := hlocal.answered s hinv rfl
      exact ⟨_, @Pool.Step.advance _ _ _ _ _ _ _ _ [] _ _ _ _ _ _ _ ht⟩

/-- A pool that inevitably finishes comes to an outcome in no other way. -/
theorem Finished.of_outcome? {out : Except ε (List α)}
    (h : Inevitable (Pool.Step limit D.step) (D.Finished origin jobs) x)
    (hout : x.1.outcome? = some out) : D.Finished origin jobs x := by
  induction h with
  | now h => exact h
  | @later x progress _ ih =>
    obtain ⟨y, hy⟩ := progress
    cases out with
    | ok results =>
      obtain ⟨pool, s⟩ := x
      obtain rfl : pool = ⟨results, [], []⟩ := Pool.outcome?_eq_ok_iff.1 hout
      exact absurd hy Pool.Step.not_empty
    | error e =>
      have herror := hy.outcome?_error hout
      have hfinished := ih y hy herror
      rw [Pool.outcome?_eq_ok_iff.2 hfinished.pool] at herror
      cases herror

/-- In whatever order the tasks of different owners are run, they do their jobs. -/
theorem inevitable (hlimit : 0 < limit) (hnodup : (jobs.map (·.owner)).Nodup)
    (hinv : D.inv s) (h : D.Underway s tasks jobs n) :
    Inevitable (Pool.Step limit D.step) (D.Finished s jobs) (⟨[], [], tasks⟩, s) := by
  have hstart : D.Progress s jobs (0 + n + tasks.length) (⟨[], [], tasks⟩, s) [] [] jobs 0 n :=
    ⟨rfl, rfl, .nil, h, rfl, hinv, fun _ hjob => absurd hjob List.not_mem_nil, fun _ _ => rfl⟩
  -- Induction on how many steps there are left.
  have hall : ∀ n (x : Pool Ask Answer ε α × σ) collected active idle k m,
      D.Progress s jobs n x collected active idle k m →
        Inevitable (Pool.Step limit D.step) (D.Finished s jobs) x := by
    intro n
    induction n using Nat.strongRecOn with
    | ind n ih =>
      intro x collected active idle k m hx
      obtain hfinished | hstep := hx.finished_or_step hlimit
      · exact .now hfinished
      · refine .later hstep fun y hy => ?_
        obtain ⟨n', _, _, _, _, _, hlt, hy⟩ := hx.step hnodup hy
        exact ih n' hlt y _ _ _ _ _ hy
  exact hall _ _ _ _ _ _ _ hstart

end Division
end Program
end Granary
