import Granary.Proofs.Fleet
import Granary.Proofs.Replica.Asking
import Granary.Proofs.Replica.Share

/-!
# Lifecycles beside each other

Lifecycles that share a warehouse and the leases of connections, each with a source of its own.  A
lifecycle is inside from the moment it has got its lease until it gives it back, and in between it
does nothing to the leases (`Lifecycle.Step.lease`).  So a name is held as long as a lifecycle of
this name is inside, and two of one name are never inside together: `guarded_of_reached`.
-/

namespace Granary.Replica

open Program (Pool)
open Rehearsal (Breakdown Cursor Event Failure Index Indexed Loader Source Stage Warehouse)

/-! ## Inside a lifecycle -/

namespace Lifecycle

variable {κ ω σ : Type}

/-- The lease that has been taken and has yet to be given back. -/
def State.guard? : State κ ω → Option Guard
  | .opening guard _ | .working guard _ | .leaving guard _ => some guard
  | .entering | .ended _ => none

def State.Inside (state : State κ ω) : Prop := state.guard?.isSome = true

/-- No call for a lease is still to come before the lease is given back. -/
def State.Quiet (connection : String) (state : State κ ω) : Prop :=
  state.Safe (Call.Inner connection) fun _ _ => True

variable {mode : Mode} {pace : Pace} {connection : String} {limit : Nat}
  {step : (c : Call κ ω) → σ → Answer c → σ → Prop} {a b : State κ ω} {s t : σ}

theorem quiet_start : (start connection : State κ ω).Quiet connection := by
  unfold start
  cases checkName connection with
  | error e => trivial
  | ok _ => trivial

theorem opensSafely_tasks (mode : Mode) (pace : Pace) (connection : String) :
    OpensSafely (Call.Inner connection) (fun _ _ => True)
      (tasks mode pace connection : Attempt κ ω (List (Task κ ω))).run := by
  have hspent : True ∨ Exhausts (fun (_ : Call κ ω) _ => True) (fun _ => 0) pace.fetches :=
    .inl trivial
  have htasks : (tasks mode pace connection : Attempt κ ω (List (Task κ ω))).Heeds True
      (Call.Inner connection) (fun _ _ => True) fun ts => ∀ task ∈ ts,
        Work.Inner True connection (fun _ _ => True) task :=
    inner_tasks hspent mode
  exact htasks.safe.mono fun outcome houtcome ts hts task htask => (houtcome ts hts task htask).safe

/-- What a step does to the leases. -/
inductive LeaseStep (connection : String) (step : (c : Call κ ω) → σ → Answer c → σ → Prop)
    (a b : State κ ω) (s t : σ) : Prop where
  | taken {guard : Guard} (ha : a = .entering) (hb : b.guard? = some guard)
      (h : step (.acquire connection) s (.ok guard) t)
  | refused {e : Error} (ha : a = .entering) (hb : b = .ended (.error e))
      (h : step (.acquire connection) s (.error e) t)
  | kept {guard : Guard} (ha : a.guard? = some guard) (hb : b.guard? = some guard)
      (h : t = s ∨ ∃ (c : Call κ ω) (answer : Answer c), c.Inner connection ∧ step c s answer t)
  | returned {guard : Guard} {outcome : Except Error Report} (ha : a.guard? = some guard)
      (hb : b = .ended outcome) (h : step (.release guard) s () t)

theorem Step.lease (h : Step mode pace connection limit step (a, s) (b, t))
    (ha : a.Quiet connection) : LeaseStep connection step a b s t ∧ b.Quiet connection := by
  cases h with
  | enter h => exact ⟨.taken rfl rfl h, opensSafely_tasks mode pace connection⟩
  | refused h => exact ⟨.refused rfl rfl h, trivial⟩
  | opening h => exact ⟨.kept rfl rfl (.inr ⟨_, _, ha.1, h⟩), ha.2 _ trivial⟩
  | opened => exact ⟨.kept rfl rfl (.inl rfl), fun task htask => ha _ rfl task htask⟩
  | failed => exact ⟨.kept rfl rfl (.inl rfl), trivial⟩
  | working h =>
    -- The tasks of the pool ask for no lease, so no step of the pool does.
    have hquiet := h.invariant (fun _ => True) (fun _ _ _ _ _ _ _ => ⟨trivial, trivial⟩) ha trivial
    exact ⟨.kept rfl rfl (h.call ha), hquiet.1⟩
  | worked h => exact ⟨.kept rfl rfl (.inl rfl), trivial⟩
  | leave h => exact ⟨.returned rfl rfl h, trivial⟩

theorem LeaseStep.ne_entering (h : LeaseStep connection step a b s t) : b ≠ .entering := by
  rintro rfl
  cases h with
  | taken _ hb _ => cases hb
  | refused _ hb _ => cases hb
  | kept _ hb _ => cases hb
  | returned _ hb _ => cases hb

theorem LeaseStep.unchanged {α : Type} {f : σ → α} (h : LeaseStep connection step a b s t)
    (hf : ∀ (c : Call κ ω) (answer : Answer c), step c s answer t → f t = f s) : f t = f s := by
  cases h with
  | taken _ _ h => exact hf _ _ h
  | refused _ _ h => exact hf _ _ h
  | kept _ _ h =>
    obtain rfl | ⟨c, answer, _, h⟩ := h
    · rfl
    · exact hf c answer h
  | returned _ _ h => exact hf _ _ h

theorem Step.not_ended {outcome : Except Error Report} {y : State κ ω × σ} :
    ¬Step mode pace connection limit step (.ended outcome, s) y := nofun

end Lifecycle

/-! ## Shared databases -/

/-- What the lifecycles share: the tables, the indexes and all other relations of the warehouse, and
the leases; and the calls that each of them has made so far. -/
structure Site (ι : Type) where
  warehouse : Warehouse := {}
  indexes : List Index := []
  relations : List String := []
  leases : Leases := {}
  trace : ι → List Event

namespace Site

variable {ι : Type} [DecidableEq ι]

/-- The databases that one lifecycle calls. -/
def databases (s : Site ι) (i : ι) (source : Source) (failures : List (Failure Breakdown)) :
    Indexed where
  stage := {
    source := source
    warehouse := s.warehouse
    leases := s.leases
    failures := failures
    trace := s.trace i }
  indexes := s.indexes
  relations := s.relations

def after (s : Site ι) (i : ι) (t : Indexed) : Site ι where
  warehouse := t.stage.warehouse
  indexes := t.indexes
  relations := t.relations
  leases := t.stage.leases
  trace := Function.update s.trace i t.stage.trace

/-- A call of one lifecycle to databases that may fail at any call. -/
def Unreliable (source : Source) (i : ι) (c : Call Cursor Loader) (s : Site ι) (answer : Answer c)
    (t : Site ι) : Prop :=
  ∃ failures u, Indexed.handle c (s.databases i source failures) = (answer, u) ∧ t = s.after i u

variable {source : Source} {i j : ι} {s t : Site ι}

theorem Unreliable.trace {c : Call Cursor Loader} {answer : Answer c}
    (h : Unreliable source i c s answer t) (hj : j ≠ i) : t.trace j = s.trace j := by
  obtain ⟨_, u, _, rfl⟩ := h
  exact Function.update_of_ne hj _ _

/-- A lease is refused if it is held, and taken if it is not. -/
theorem Unreliable.acquire {name : String} {answer : Except Error Guard}
    (h : Unreliable source i (.acquire name) s answer t) :
    if s.leases.isHeld name = true then answer = .error (.etlInProgress name) ∧ t = s
    else answer = .ok ⟨name⟩ ∧ t = { s with leases := ⟨s.leases.held ++ [name]⟩ } := by
  obtain ⟨failures, u, hhandle, rfl⟩ := h
  obtain ⟨hheld, hanswer⟩ | ⟨hfree, hanswer⟩ :=
    Stage.handle_acquire_cases name (s.databases i source failures).stage
  · simp only [Indexed.handle, hanswer] at hhandle
    cases hhandle
    rw [if_pos (show s.leases.isHeld name = true from hheld)]
    exact ⟨rfl, by simp [after, databases]⟩
  · simp only [Indexed.handle, hanswer] at hhandle
    cases hhandle
    rw [if_neg (Bool.eq_false_iff.1 (show s.leases.isHeld name = false from hfree))]
    exact ⟨rfl, by simp [after, databases]⟩

theorem Unreliable.acquired {name : String} {guard : Guard}
    (h : Unreliable source i (.acquire name) s (.ok guard) t) :
    s.leases.isHeld name = false ∧ guard = ⟨name⟩ ∧
      t = { s with leases := ⟨s.leases.held ++ [name]⟩ } := by
  have hanswer := h.acquire
  by_cases hheld : s.leases.isHeld name = true
  · rw [if_pos hheld] at hanswer
    cases hanswer.1
  · rw [if_neg hheld] at hanswer
    exact ⟨Bool.eq_false_iff.2 hheld, Except.ok.inj hanswer.1, hanswer.2⟩

theorem Unreliable.refused {name : String} {e : Error}
    (h : Unreliable source i (.acquire name) s (.error e) t) :
    e = .etlInProgress name ∧ t = s := by
  have hanswer := h.acquire
  by_cases hheld : s.leases.isHeld name = true
  · rw [if_pos hheld] at hanswer
    exact ⟨Except.error.inj hanswer.1, hanswer.2⟩
  · rw [if_neg hheld] at hanswer
    cases hanswer.1

theorem Unreliable.release {guard : Guard} (h : Unreliable source i (.release guard) s () t) :
    t = { s with leases := s.leases.drop guard } := by
  obtain ⟨failures, u, hhandle, rfl⟩ := h
  cases hhandle
  simp [after, databases]

theorem Unreliable.inner {c : Call Cursor Loader} {answer : Answer c} {connection : String}
    (h : Unreliable source i c s answer t) (hinner : c.Inner connection) : t.leases = s.leases := by
  obtain ⟨failures, u, hhandle, rfl⟩ := h
  have hleases := Stage.leases_of_inner (s := (s.databases i source failures).stage) hinner
  rw [← (Indexed.effect_of_handle hhandle).1] at hleases
  exact hleases

end Site

/-! ## Any number of lifecycles -/

/-- A lifecycle that is to be run, with the source that it reads. -/
structure Errand where
  mode : Mode
  pace : Pace
  connection : String
  source : Source

variable {ι : Type} [DecidableEq ι]

/-- Lifecycles that share a site. -/
abbrev Company (ι : Type) := (ι → Lifecycle.State Cursor Loader) × Site ι

/-- A step of one lifecycle; `limits` are the numbers of tasks that each runs side by side. -/
abbrev Together (errands : ι → Errand) (limits : ι → Nat)
    (call : (i : ι) → (c : Call Cursor Loader) → Site ι → Answer c → Site ι → Prop) :
    Company ι → Company ι → Prop :=
  Beside fun i => Lifecycle.Step (errands i).mode (errands i).pace (errands i).connection (limits i)
    (call i)

def Errand.starts (errands : ι → Errand) : ι → Lifecycle.State Cursor Loader :=
  fun i => Lifecycle.start (errands i).connection

/-- A name is held for the lifecycle of this name that is inside, or as it was from the start. -/
structure Exclusive (errands : ι → Errand) (origin : Leases)
    (states : ι → Lifecycle.State Cursor Loader) (leases : Leases) : Prop where
  held : ∀ name, leases.isHeld name = true ↔ origin.isHeld name = true ∨
    ∃ i, (states i).Inside ∧ (errands i).connection = name
  free : ∀ i, (states i).Inside → origin.isHeld (errands i).connection = false
  apart : ∀ i j, (states i).Inside → (states j).Inside →
    (errands i).connection = (errands j).connection → i = j

namespace Exclusive

variable {errands : ι → Errand} {origin leases : Leases}
  {states : ι → Lifecycle.State Cursor Loader} {i : ι} {b : Lifecycle.State Cursor Loader}

theorem take (hx : Exclusive errands origin states leases) (hb : b.Inside)
    (hfree : leases.isHeld (errands i).connection = false) :
    Exclusive errands origin (Function.update states i b)
      ⟨leases.held ++ [(errands i).connection]⟩ := by
  have hinside : ∀ j, (Function.update states i b j).Inside ↔ j = i ∨ (states j).Inside := by
    intro j
    by_cases hj : j = i
    · subst hj
      simp [hb]
    · simp [hj]
  -- If another of this name were inside, the name would be held.
  have hother : ∀ j, (states j).Inside → (errands j).connection ≠ (errands i).connection := by
    intro j hj hsame
    rw [(hx.held _).2 (.inr ⟨j, hj, hsame⟩)] at hfree
    cases hfree
  refine ⟨fun name => ?_, fun j hj => ?_, fun j k hj hk hsame => ?_⟩
  · rw [Leases.isHeld_taken, hx.held]
    constructor
    · rintro ((horigin | ⟨j, hj, hname⟩) | hname)
      · exact .inl horigin
      · exact .inr ⟨j, (hinside j).2 (.inr hj), hname⟩
      · exact .inr ⟨i, (hinside i).2 (.inl rfl), hname.symm⟩
    · rintro (horigin | ⟨j, hj, hname⟩)
      · exact .inl (.inl horigin)
      · obtain rfl | hj := (hinside j).1 hj
        · exact .inr hname.symm
        · exact .inl (.inr ⟨j, hj, hname⟩)
  · obtain rfl | hj := (hinside j).1 hj
    · rw [Bool.eq_false_iff]
      intro horigin
      rw [(hx.held _).2 (.inl horigin)] at hfree
      cases hfree
    · exact hx.free j hj
  · rw [hinside] at hj hk
    obtain rfl | hj := hj
    · obtain rfl | hk := hk
      · rfl
      · exact absurd hsame.symm (hother k hk)
    · obtain rfl | hk := hk
      · exact absurd hsame (hother j hj)
      · exact hx.apart j k hj hk hsame

theorem give (hx : Exclusive errands origin states leases) (hi : (states i).Inside)
    (hb : ¬b.Inside) :
    Exclusive errands origin (Function.update states i b)
      (leases.drop ⟨(errands i).connection⟩) := by
  have hinside : ∀ j, (Function.update states i b j).Inside ↔ j ≠ i ∧ (states j).Inside := by
    intro j
    by_cases hj : j = i
    · subst hj
      simp [hb]
    · simp [hj]
  refine ⟨fun name => ?_, fun j hj => hx.free j ((hinside j).1 hj).2,
    fun j k hj hk => hx.apart j k ((hinside j).1 hj).2 ((hinside k).1 hk).2⟩
  rw [Leases.isHeld_drop, hx.held]
  constructor
  · rintro ⟨horigin | ⟨j, hj, hname⟩, hne⟩
    · exact .inl horigin
    · refine .inr ⟨j, (hinside j).2 ⟨?_, hj⟩, hname⟩
      rintro rfl
      exact hne hname.symm
  · rintro (horigin | ⟨j, hj, hname⟩)
    · refine ⟨.inl horigin, ?_⟩
      rintro rfl
      rw [hx.free i hi] at horigin
      cases horigin
    · -- One of this very name that is still inside would be the one that gives its lease back.
      obtain ⟨hne, hj⟩ := (hinside j).1 hj
      exact ⟨.inr ⟨j, hj, hname⟩, fun hsame => hne (hx.apart j i hj hi (hname.trans hsame))⟩

theorem keep (hx : Exclusive errands origin states leases) (hb : b.guard? = (states i).guard?) :
    Exclusive errands origin (Function.update states i b) leases := by
  have hinside : ∀ j, (Function.update states i b j).Inside ↔ (states j).Inside := by
    intro j
    by_cases hj : j = i
    · subst hj
      rw [Function.update_self, Lifecycle.State.Inside, hb, Lifecycle.State.Inside]
    · rw [Function.update_of_ne hj]
  refine ⟨fun name => ?_, fun j hj => hx.free j ((hinside j).1 hj),
    fun j k hj hk => hx.apart j k ((hinside j).1 hj) ((hinside k).1 hk)⟩
  simp only [hinside]
  exact hx.held name

end Exclusive

/-- The invariant of lifecycles beside each other. -/
structure Guarded (errands : ι → Errand) (origin : Site ι) (x : Company ι) : Prop where
  quiet : ∀ i, (x.1 i).Quiet (errands i).connection
  guards : ∀ i guard, (x.1 i).guard? = some guard → guard.connection = (errands i).connection
  idle : ∀ i, x.1 i = .entering → x.2.trace i = origin.trace i
  exclusive : Exclusive errands origin.leases x.1 x.2.leases

section

variable {errands : ι → Errand} {limits : ι → Nat} {origin s : Site ι}
  {states : ι → Lifecycle.State Cursor Loader} {i : ι}
  {y : Lifecycle.State Cursor Loader × Site ι}

theorem Guarded.step (hx : Guarded errands origin (states, s))
    (h : Lifecycle.Step (errands i).mode (errands i).pace (errands i).connection (limits i)
      (Site.Unreliable (errands i).source i) (states i, s) y) :
    Guarded errands origin (Function.update states i y.1, y.2) := by
  obtain ⟨b, t⟩ := y
  obtain ⟨hlease, hquiet⟩ := h.lease (hx.quiet i)
  -- What does not concern the leases is the same in all four cases.
  have hwhole : (∀ guard, b.guard? = some guard → guard.connection = (errands i).connection) →
      Exclusive errands origin.leases (Function.update states i b) t.leases →
      Guarded errands origin (Function.update states i b, t) := by
    intro hguard hexclusive
    have htrace : ∀ j, j ≠ i → t.trace j = s.trace j := fun j hj =>
      hlease.unchanged (f := fun u : Site ι => u.trace j) fun c answer hc => hc.trace hj
    refine ⟨(Function.forall_update_iff states fun j a => a.Quiet (errands j).connection).2
        ⟨hquiet, fun j _ => hx.quiet j⟩,
      (Function.forall_update_iff states fun j a => ∀ guard, a.guard? = some guard →
        guard.connection = (errands j).connection).2 ⟨hguard, fun j _ => hx.guards j⟩,
      (Function.forall_update_iff states fun j a => a = .entering →
        t.trace j = origin.trace j).2 ⟨fun hb => absurd hb hlease.ne_entering, fun j hj ha => ?_⟩,
      hexclusive⟩
    exact (htrace j hj).trans (hx.idle j ha)
  have hold : Exclusive errands origin.leases states s.leases := hx.exclusive
  cases hlease with
  | @taken guard ha hb hcall =>
    obtain ⟨hfree, rfl, rfl⟩ := hcall.acquired
    refine hwhole (fun g hg => ?_) (hold.take ?_ hfree)
    · rw [hb] at hg
      cases hg
      rfl
    · rw [Lifecycle.State.Inside, hb]
      rfl
  | @refused e ha hb hcall =>
    obtain ⟨_, rfl⟩ := hcall.refused
    subst hb
    exact hwhole (fun _ hg => nomatch hg) (hold.keep (congrArg (·.guard?) ha).symm)
  | @kept guard ha hb hcall =>
    have hleases : t.leases = s.leases := by
      obtain rfl | ⟨c, answer, hinner, hcall⟩ := hcall
      · rfl
      · exact hcall.inner hinner
    rw [← hleases] at hold
    refine hwhole (fun g hg => hx.guards i g ?_) (hold.keep (hb.trans ha.symm))
    exact (ha.trans hb.symm).trans hg
  | @returned guard outcome ha hb hcall =>
    obtain rfl := hcall.release
    subst hb
    have hguard := hx.guards i guard ha
    obtain ⟨name⟩ := guard
    obtain rfl : name = (errands i).connection := hguard
    refine hwhole (fun _ hg => nomatch hg) (hold.give ?_ nofun)
    rw [Lifecycle.State.Inside, show (states i).guard? = _ from ha]
    rfl

/-- A lifecycle that is at its end without having been inside was refused, and changed nothing. -/
theorem Guarded.refused (hx : Guarded errands origin (states, s)) (ha : states i = .entering)
    {outcome : Except Error Report} {t : Site ι}
    (h : Lifecycle.Step (errands i).mode (errands i).pace (errands i).connection (limits i)
      (Site.Unreliable (errands i).source i) (states i, s) (.ended outcome, t)) :
    outcome = .error (.etlInProgress (errands i).connection) ∧ t = s := by
  obtain ⟨hlease, _⟩ := h.lease (hx.quiet i)
  cases hlease with
  | taken _ hb _ => cases hb
  | @refused e _ hb hcall =>
    obtain ⟨rfl, hsame⟩ := hcall.refused
    cases hb
    exact ⟨rfl, hsame⟩
  | kept _ hb _ => cases hb
  | returned hguard _ _ =>
    rw [show states i = _ from ha] at hguard
    cases hguard

theorem Guarded.returned (hx : Guarded errands origin (states, s)) (hi : (states i).Inside)
    {outcome : Except Error Report} {t : Site ι}
    (h : Lifecycle.Step (errands i).mode (errands i).pace (errands i).connection (limits i)
      (Site.Unreliable (errands i).source i) (states i, s) (.ended outcome, t)) :
    t.leases.isHeld (errands i).connection = false := by
  obtain ⟨hlease, _⟩ := h.lease (hx.quiet i)
  have hnot : states i ≠ .entering := fun ha => by
    rw [Lifecycle.State.Inside, ha] at hi
    cases hi
  cases hlease with
  | taken ha _ _ => exact absurd ha hnot
  | refused ha _ _ => exact absurd ha hnot
  | kept _ hb _ => cases hb
  | @returned guard _ ha _ hcall =>
    obtain rfl := hcall.release
    rw [Bool.eq_false_iff, ← hx.guards i guard ha]
    exact fun hheld => (Leases.isHeld_drop.1 hheld).2 rfl

/-- A lifecycle that has ended makes no more calls. -/
theorem Guarded.ended {x z : Company ι} (hx : Guarded errands origin x)
    {outcome : Except Error Report} (hi : x.1 i = .ended outcome)
    (h : Relation.ReflTransGen
      (Together errands limits fun i => Site.Unreliable (errands i).source i) x z) :
    z.1 i = .ended outcome ∧ z.2.trace i = x.2.trace i := by
  have hall : Guarded errands origin z ∧ z.1 i = .ended outcome ∧ z.2.trace i = x.2.trace i := by
    refine Beside.invariant (fun z => Guarded errands origin z ∧ z.1 i = .ended outcome ∧
      z.2.trace i = x.2.trace i) (fun j states s y hz hstep => ?_) h ⟨hx, hi, rfl⟩
    obtain ⟨hz, hended, htrace⟩ := hz
    have hne : i ≠ j := by
      rintro rfl
      rw [show states i = .ended outcome from hended] at hstep
      exact Lifecycle.Step.not_ended hstep
    refine ⟨hz.step hstep, (Function.update_of_ne hne _ _).trans hended, ?_⟩
    obtain ⟨hlease, _⟩ := hstep.lease (hz.quiet j)
    exact (hlease.unchanged (f := fun u : Site ι => u.trace i)
      fun c answer hc => hc.trace hne).trans htrace
  exact hall.2

omit [DecidableEq ι] in
theorem guarded_starts (errands : ι → Errand) (s : Site ι) :
    Guarded errands s (Errand.starts errands, s) := by
  have houtside : ∀ i, (Errand.starts errands i).guard? = none := by
    intro i
    unfold Errand.starts Lifecycle.start
    cases checkName (errands i).connection with
    | error e => rfl
    | ok _ => rfl
  have hnot : ∀ i, ¬(Errand.starts errands i).Inside := by
    intro i
    rw [Lifecycle.State.Inside, houtside]
    exact nofun
  refine ⟨fun i => Lifecycle.quiet_start, fun i guard hguard => ?_, fun _ _ => rfl,
    fun name => ?_, fun i hi => absurd hi (hnot i), fun i j hi => absurd hi (hnot i)⟩
  · cases (houtside i).symm.trans hguard
  · exact ⟨.inl, fun h => h.resolve_right fun ⟨i, hi, _⟩ => hnot i hi⟩

theorem guarded_of_reached {x : Company ι} (h : Relation.ReflTransGen
    (Together errands limits fun i => Site.Unreliable (errands i).source i)
    (Errand.starts errands, s) x) : Guarded errands s x :=
  Beside.invariant (Guarded errands s) (fun _ _ _ _ hx hstep => hx.step hstep) h
    (guarded_starts errands s)

end

end Granary.Replica
