import Granary.Proofs.Replica.Sequential
import Granary.Proofs.Replica.Settling

/-!
# The program of a lifecycle

Where the ends of a lifecycle are known as a machine, they are known of its program: the program
makes the calls that the machine makes with one task at a time.  So it leads to the ends that are
inevitable there (`leads_of_inevitable`), and as an inevitable end is always reached, it cannot have
been spent before.
-/

namespace Granary.Replica.Lifecycle

open Program (Pool)

variable {κ ω σ : Type} {mode : Mode} {pace : Pace} {connection : String} {limit : Nat}
  {final : Except Error Report → σ → Prop} {step : (c : Call κ ω) → σ → Answer c → σ → Prop}
  {guard : Guard} {s : σ}

/-- What has not ended can go on, and to nowhere but where the ends are still inevitable. -/
theorem moves_of_inevitable {state : State κ ω}
    (h : Inevitable (Step mode pace connection limit step) (Ended final) (state, s))
    (hgoing : ∀ outcome, state ≠ .ended outcome) :
    (∃ y, Step mode pace connection limit step (state, s) y) ∧
      ∀ y, Step mode pace connection limit step (state, s) y →
        Inevitable (Step mode pace connection limit step) (Ended final) y := by
  cases h with
  | now h =>
    obtain ⟨outcome, hend, _⟩ := h
    exact absurd hend (hgoing outcome)
  | later hmove hall => exact ⟨hmove, hall⟩

theorem final_of_inevitable {outcome : Except Error Report}
    (h : Inevitable (Step mode pace connection limit step) (Ended final) (.ended outcome, s)) :
    final outcome s := by
  cases h with
  | now h =>
    obtain ⟨_, hend, hfinal⟩ := h
    cases hend
    exact hfinal
  | later hmove _ =>
    obtain ⟨y, hy⟩ := hmove
    cases hy

theorem leads_of_opening {work : Work κ ω (Except Error (List (Task κ ω)))}
    (h : Inevitable (Step mode pace connection limit step) (Ended final)
      (.opening guard work, s)) :
    work.Leads step (fun outcome t => Inevitable (Step mode pace connection limit step)
      (Ended final) (.opening guard (.done outcome), t)) s := by
  induction work generalizing s with
  | done outcome => exact h
  | ask c next ih =>
    obtain ⟨⟨y, hy⟩, hall⟩ := moves_of_inevitable h nofun
    refine ⟨?_, fun answer t ht => ih answer (hall _ (.opening ht))⟩
    cases hy with
    | opening ht => exact ⟨_, _, ht⟩
  | spent =>
    obtain ⟨⟨y, hy⟩, _⟩ := moves_of_inevitable h nofun
    cases hy

/-- What a pool with one task does is what the task does. -/
theorem leads_of_task {task : Task κ ω} {results : List (Option TableReport)}
    {waiting : List (Task κ ω)}
    (h : Inevitable (Step mode pace connection 1 step) (Ended final)
      (.working guard ⟨results, [task], waiting⟩, s)) :
    task.Leads step (fun outcome t => Inevitable (Step mode pace connection 1 step)
      (Ended final) (.working guard ⟨results, [.done outcome], waiting⟩, t)) s := by
  induction task generalizing s with
  | done outcome => exact h
  | ask c next ih =>
    obtain ⟨⟨y, hy⟩, hall⟩ := moves_of_inevitable h nofun
    refine ⟨?_, fun answer t ht => ih answer (hall _ (.working ?_))⟩
    · cases hy with
      | working hpool =>
        obtain ⟨_, _, h, _⟩ | ⟨_, _, answer, t, h, ht, _⟩ | ⟨_, h, _⟩ :=
          hpool.cases_one (Nat.le_refl 1)
        · cases h
        · cases h
          exact ⟨answer, t, ht⟩
        · cases h
      | worked hout => cases hout
    · exact @Pool.Step.advance _ _ _ _ _ _ _ _ [] _ _ _ _ _ _ _ ht
  | spent =>
    obtain ⟨⟨y, hy⟩, _⟩ := moves_of_inevitable h nofun
    cases hy with
    | working hpool =>
      obtain ⟨_, _, h, _⟩ | ⟨_, _, _, _, h, _, _⟩ | ⟨_, h, _⟩ := hpool.cases_one (Nat.le_refl 1)
      all_goals cases h
    | worked hout => cases hout

theorem leads_of_tasks {ts : List (Task κ ω)} {results : List (Option TableReport)}
    (h : Inevitable (Step mode pace connection 1 step) (Ended final)
      (.working guard ⟨results, [], ts⟩, s)) :
    (inOrder (ts.map .mk)).run.Leads step (fun outcome t =>
      Inevitable (Step mode pace connection 1 step) (Ended final)
        (.leaving guard (outcome.map (results.flatMap Option.toList ++ ·)), t)) s := by
  induction ts generalizing results s with
  | nil =>
    have hleaving := (moves_of_inevitable h nofun).2 _ (.worked rfl)
    show Inevitable _ _ (_, _)
    simpa [Except.map] using hleaving
  | cons task rest ih =>
    have hstarted := (moves_of_inevitable h nofun).2 _
      (.working (.start Nat.zero_lt_one))
    refine (leads_of_task hstarted).bind fun outcome t ht => ?_
    cases outcome with
    | error e =>
      have hleaving := (moves_of_inevitable ht nofun).2 _ (.worked rfl)
      exact hleaving
    | ok a =>
      have hcollected := (moves_of_inevitable ht nofun).2 _ (.working .collect)
      refine (ih hcollected).bind fun outcome u hu => ?_
      cases outcome with
      | error e => exact hu
      | ok reports =>
        show Inevitable _ _ (_, _)
        simpa [Except.map] using hu

theorem leads_of_leaving {outcome : Except Error (List TableReport)}
    (h : Inevitable (Step mode pace connection limit step) (Ended final)
      (.leaving guard outcome, s)) :
    (∃ t, step (.release guard) s () t) ∧ ∀ t, step (.release guard) s () t →
      final (outcome.map fun reports => ⟨connection, mode, reports⟩) t := by
  obtain ⟨⟨y, hy⟩, hall⟩ := moves_of_inevitable h nofun
  refine ⟨?_, fun t ht => final_of_inevitable (hall _ (.leave ht))⟩
  cases hy with
  | leave ht => exact ⟨_, ht⟩

theorem leads_of_tables (h : Inevitable (Step mode pace connection 1 step) (Ended final)
      (.opening guard (tasks mode pace connection).run, s)) :
    (tables mode pace connection : Attempt κ ω (List TableReport)).run.Leads step
      (fun outcome t => Inevitable (Step mode pace connection 1 step) (Ended final)
        (.leaving guard outcome, t)) s := by
  rw [tables_eq]
  refine (leads_of_opening h).bind fun outcome u hu => ?_
  cases outcome with
  | error e => exact (moves_of_inevitable hu nofun).2 _ .failed
  | ok ts =>
    have hworking := (moves_of_inevitable hu nofun).2 _ .opened
    refine (leads_of_tasks hworking).mono fun outcome v hv => ?_
    cases outcome <;> exact hv

/-- From taking the lease to giving it back. -/
theorem leads_of_entering (h : Inevitable (Step mode pace connection 1 step) (Ended final)
      (.entering, s)) :
    (Attempt.holding connection (tables mode pace connection) :
      Attempt κ ω (List TableReport)).run.Leads step (fun outcome t =>
        final (outcome.map fun reports => ⟨connection, mode, reports⟩) t) s := by
  obtain ⟨⟨y, hy⟩, hall⟩ := moves_of_inevitable h nofun
  refine ⟨?_, fun answer t ht => ?_⟩
  · cases hy with
    | enter ht => exact ⟨_, _, ht⟩
    | refused ht => exact ⟨_, _, ht⟩
  · cases answer with
    | error e => exact final_of_inevitable (hall _ (.refused ht))
    | ok guard =>
      refine (leads_of_tables (hall _ (.enter ht))).bind fun outcome u hu => ?_
      obtain ⟨⟨v, hv⟩, hfinal⟩ := leads_of_leaving hu
      exact ⟨⟨(), v, hv⟩, fun _ v hv => hfinal v hv⟩

/-- The ends that are inevitable with one task at a time are those that the program leads to. -/
theorem leads_of_inevitable
    (h : Inevitable (Step mode pace connection 1 step) (Ended final) (start connection, s)) :
    (lifecycle mode pace connection).run.Leads step final s := by
  unfold start at h
  unfold lifecycle
  cases hname : checkName connection with
  | error e =>
    rw [hname] at h
    exact final_of_inevitable h
  | ok _ =>
    rw [hname] at h
    refine (leads_of_entering h).bind fun outcome t ht => ?_
    cases outcome with
    | error e => exact ht
    | ok reports => exact ht

/-- Where calls have one answer each, a lifecycle that is bound to end as wanted does so in every
order of its tasks, and when they are run one after another. -/
theorem Bound.ends {ι ν : Type} {D : Program.Division (Call κ ω) Answer σ ι ν}
    {handle : (c : Call κ ω) → σ → Answer c × σ}
    (hD : D.step = fun c s answer t => handle c s = (answer, t))
    (h : Bound D mode pace connection final (start connection, s)) :
    (∀ limit, Inevitable (Step mode pace connection (max limit 1)
      fun c s answer t => handle c s = (answer, t)) (Ended final) (start connection, s)) ∧
    ∃ outcome t, (lifecycle mode pace connection).run.run handle s = (some outcome, t) ∧
      final outcome t := by
  rw [← hD]
  refine ⟨fun limit => h.inevitable (Nat.lt_of_lt_of_le Nat.zero_lt_one (Nat.le_max_right _ _)), ?_⟩
  have hleads : (lifecycle mode pace connection).run.Leads D.step final s :=
    leads_of_inevitable (h.inevitable Nat.zero_lt_one)
  rw [hD] at hleads
  exact hleads.run

end Granary.Replica.Lifecycle
