import Granary.Proofs.Custody
import Granary.Proofs.Replica.Machine

/-!
# Where lifecycles end

A lifecycle whose calls may fail ends in many ways.  `Lifecycle.Bound` says of a point of a
lifecycle that whatever end it comes to from there is as wanted: the opening leads to tasks that are
attended, their pool leaves what it leaves, and the lease is given back.  It is kept by every step
(`Bound.step`), so it holds of whatever can be reached, and from where it holds an end is inevitable
(`Bound.inevitable`).
-/

namespace Granary.Replica.Lifecycle

open Program (Division Pool)
open Program.Division (Charge)

variable {κ ω σ ι ν : Type} {D : Division (Call κ ω) Answer σ ι ν} {mode : Mode} {pace : Pace}
  {connection : String} {limit : Nat} {final : Except Error Report → σ → Prop}

/-- Once the lease has been given back, the lifecycle has ended as wanted. -/
structure Leaves (D : Division (Call κ ω) Answer σ ι ν) (mode : Mode) (connection : String)
    (final : Except Error Report → σ → Prop) (guard : Guard)
    (outcome : Except Error (List TableReport)) (s : σ) : Prop where
  answered : ∃ t, D.step (.release guard) s () t
  effect : ∀ t, D.step (.release guard) s () t →
    final (outcome.map fun reports => ⟨connection, mode, reports⟩) t

/-- Whatever the tasks come to, the lifecycle then ends as wanted. -/
def Closes (D : Division (Call κ ω) Answer σ ι ν) (mode : Mode) (connection : String)
    (final : Except Error Report → σ → Prop) (guard : Guard) (origin : σ)
    (charges : List (Charge ι ν Error (Option TableReport))) : Prop :=
  ∀ outcome t, D.Concluded charges t outcome → D.inv t →
    (∀ j, j ∉ charges.map (·.owner) → D.view j t = D.view j origin) →
      Leaves D mode connection final guard (outcome.map (·.flatMap Option.toList)) t

/-- What an opening has to come to: tasks that are ready to be run side by side, or the end of the
lifecycle. -/
def Ready (D : Division (Call κ ω) Answer σ ι ν) (mode : Mode) (connection : String)
    (final : Except Error Report → σ → Prop) (guard : Guard) :
    Except Error (List (Task κ ω)) → σ → Prop
  | .ok ts, s => ∃ charges : List (Charge ι ν Error (Option TableReport)),
    (charges.map (·.owner)).Nodup ∧ D.inv s ∧ List.Forall₂ (Charge.Held D s) charges ts ∧
      Closes D mode connection final guard s charges
  | .error e, s => Leaves D mode connection final guard (.error e) s

/-- Whatever end is come to from here is as wanted. -/
def Bound (D : Division (Call κ ω) Answer σ ι ν) (mode : Mode) (pace : Pace) (connection : String)
    (final : Except Error Report → σ → Prop) : State κ ω × σ → Prop
  | (.entering, s) => (∃ answer t, D.step (.acquire connection) s answer t) ∧
    (∀ guard t, D.step (.acquire connection) s (.ok guard) t →
      (tasks mode pace connection).run.Leads D.step (Ready D mode connection final guard) t) ∧
    ∀ e t, D.step (.acquire connection) s (.error e) t → final (.error e) t
  | (.opening guard work, s) => work.Leads D.step (Ready D mode connection final guard) s
  | (.working guard pool, s) => ∃ origin charges collected active idle,
    (charges.map (·.owner)).Nodup ∧
      D.Attended origin charges (pool, s) collected active idle ∧
      Closes D mode connection final guard origin charges
  | (.leaving guard outcome, s) => Leaves D mode connection final guard outcome s
  | (.ended outcome, s) => final outcome s

/-- A step of a lifecycle does not lead away from the wanted ends. -/
theorem Bound.step {x y : State κ ω × σ} (hx : Bound D mode pace connection final x)
    (h : Step mode pace connection limit D.step x y) : Bound D mode pace connection final y := by
  cases h with
  | enter h => exact hx.2.1 _ _ h
  | refused h => exact hx.2.2 _ _ h
  | opening h => exact hx.2 _ _ h
  | opened =>
    obtain ⟨charges, hnodup, hinv, hheld, hcloses⟩ := hx
    exact ⟨_, charges, _, _, _, hnodup, Division.attended_start hinv hheld, hcloses⟩
  | failed => exact hx
  | working h =>
    obtain ⟨origin, charges, collected, active, idle, hnodup, hattended, hcloses⟩ := hx
    obtain ⟨collected, active, idle, hattended⟩ := hattended.step hnodup h
    exact ⟨origin, charges, collected, active, idle, hnodup, hattended, hcloses⟩
  | worked h =>
    obtain ⟨origin, charges, collected, active, idle, _, hattended, hcloses⟩ := hx
    exact hcloses _ _ (hattended.concluded h) hattended.inv hattended.others
  | leave h => exact hx.effect _ h

/-- A lifecycle that has ended has ended as wanted. -/
theorem Bound.of_reached {s t : σ} {outcome : Except Error Report}
    (hstart : Bound D mode pace connection final (start connection, s))
    (h : Reached mode pace connection limit D.step s (.ended outcome, t)) : final outcome t := by
  have hall : ∀ x, Reached mode pace connection limit D.step s x →
      Bound D mode pace connection final x := by
    intro x hx
    induction hx with
    | refl => exact hstart
    | tail _ h ih => exact ih.step h
  exact hall _ h

section

variable {guard : Guard} {s : σ}

/-- An end as wanted. -/
def Ended (final : Except Error Report → σ → Prop) (x : State κ ω × σ) : Prop :=
  ∃ outcome, x.1 = .ended outcome ∧ final outcome x.2

theorem Leaves.inevitable {outcome : Except Error (List TableReport)}
    (h : Leaves D mode connection final guard outcome s) :
    Inevitable (Step mode pace connection limit D.step) (Ended final)
      (.leaving guard outcome, s) := by
  obtain ⟨t, ht⟩ := h.answered
  refine .later ⟨_, .leave ht⟩ fun y hy => .now ?_
  cases hy with
  | leave hstep => exact ⟨_, rfl, h.effect _ hstep⟩

theorem inevitable_of_attended (hlimit : 0 < limit) {origin : σ}
    {charges collected active idle : List (Charge ι ν Error (Option TableReport))}
    (hnodup : (charges.map (·.owner)).Nodup)
    (hcloses : Closes D mode connection final guard origin charges)
    (x : Pool (Call κ ω) Answer Error (Option TableReport) × σ)
    (hx : D.Attended origin charges x collected active idle) :
    Inevitable (Step mode pace connection limit D.step) (Ended final)
      (.working guard x.1, x.2) := by
  -- Induction on the steps that the pool can still make.
  have hwf : WellFounded fun y x : Pool (Call κ ω) Answer Error (Option TableReport) × σ =>
      Pool.Step limit D.step x y := Pool.wellFounded_step
  induction x using hwf.induction generalizing collected active idle with
  | h x ih =>
    obtain ⟨pool, s⟩ := x
    have hprogress : ∃ y, Step mode pace connection limit D.step (.working guard pool, s) y := by
      obtain ⟨outcome, hout⟩ | ⟨⟨pool', t⟩, hstep⟩ := hx.outcome_or_step hlimit
      · exact ⟨_, .worked hout⟩
      · exact ⟨_, .working hstep⟩
    refine .later hprogress fun y hy => ?_
    cases hy with
    | @working _ _ pool' _ t hstep =>
      obtain ⟨collected, active, idle, hy⟩ := hx.step hnodup hstep
      exact ih (pool', t) hstep hy
    | worked hout =>
      exact (hcloses _ _ (hx.concluded hout) hx.inv hx.others).inevitable

theorem inevitable_of_leads (hlimit : 0 < limit) {work : Work κ ω (Except Error (List (Task κ ω)))}
    (h : work.Leads D.step (Ready D mode connection final guard) s) :
    Inevitable (Step mode pace connection limit D.step) (Ended final) (.opening guard work, s) := by
  induction work generalizing s with
  | done outcome =>
    cases outcome with
    | error e =>
      refine .later ⟨_, .failed⟩ fun y hy => ?_
      cases hy with
      | failed => exact Leaves.inevitable h
    | ok ts =>
      obtain ⟨charges, hnodup, hinv, hheld, hcloses⟩ := h
      refine .later ⟨_, .opened⟩ fun y hy => ?_
      cases hy with
      | opened =>
        exact inevitable_of_attended hlimit hnodup hcloses (⟨[], [], ts⟩, s)
          (Division.attended_start hinv hheld)
  | ask c next ih =>
    obtain ⟨⟨answer, t, hstep⟩, hall⟩ := h
    refine .later ⟨_, .opening hstep⟩ fun y hy => ?_
    cases hy with
    | opening hstep => exact ih _ (hall _ _ hstep)
  | spent => exact h.elim

end

/-- A lifecycle that is bound to end as wanted inevitably ends. -/
theorem Bound.inevitable (hlimit : 0 < limit) {s : σ}
    (h : Bound D mode pace connection final (start connection, s)) :
    Inevitable (Step mode pace connection limit D.step) (Ended final) (start connection, s) := by
  rw [start] at h ⊢
  cases hname : checkName connection with
  | error e =>
    rw [hname] at h
    exact .now ⟨_, rfl, h⟩
  | ok _ =>
    rw [hname] at h
    obtain ⟨⟨answer, t, hstep⟩, hopening, hrefused⟩ := h
    refine .later ?_ fun y hy => ?_
    · cases answer with
      | error e => exact ⟨_, .refused hstep⟩
      | ok guard => exact ⟨_, .enter hstep⟩
    · cases hy with
      | enter hstep => exact inevitable_of_leads hlimit (hopening _ _ hstep)
      | refused hstep => exact .now ⟨_, rfl, hrefused _ _ hstep⟩

end Granary.Replica.Lifecycle
