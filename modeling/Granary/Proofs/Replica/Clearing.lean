import Granary.Proofs.Replica.Failing
import Granary.Proofs.Replica.Opening
import Granary.Proofs.Replica.Settling

/-!
# From the lease to the tasks

The calls that list the tables of a connection and drop them leave none of them, whichever of the
calls fail (`opens_clearing`).  So a first run and a full refresh come to their tasks once no table
of the connection is left, or they fail with an error of one of their own calls (`leads_tasks`).
From there every task can be attended, each with a table that is not there yet, so the pool ends as
`Concluded` has it, and that is still so once the lease has been given back (`Clearing.ready`).
-/

namespace Granary.Replica

open Program (Division)
open Program.Division (Charge)
open Rehearsal (Cursor Event finalizes Loader Stage StoredSource Warehouse)

section

variable {step : (c : Call Cursor Loader) → Stage → Answer c → Stage → Prop}

/-! ## Before the tables -/

/-- The tables of the connection that are left are among those still to be dropped, and nothing else
has changed. -/
structure Clearing (connection : String) (s : Stage) (names : List String) (u : Stage) : Prop where
  source : u.source = s.source
  left : ∀ x, u.warehouse.has (tableName connection x) = true → tableName connection x ∈ names
  others : ∀ name, ¬Under connection name → u.warehouse.table? name = s.warehouse.table? name
  ordered : s.warehouse.Ordered → u.warehouse.Ordered
  trace : ∃ new, u.trace = s.trace ++ new ∧ ∀ table, finalizes table new = false

variable {connection : String} {s u t : Stage} {names : List String} {failure : Error → Prop}

/-- A lease is no part of what is to be cleared. -/
theorem Clearing.of_same (h : Clearing connection t names u) (hsource : t.source = s.source)
    (hwarehouse : t.warehouse = s.warehouse) (htrace : t.trace = s.trace) :
    Clearing connection s names u where
  source := h.source.trans hsource
  left := h.left
  others := hwarehouse ▸ h.others
  ordered := hwarehouse ▸ h.ordered
  trace := htrace ▸ h.trace

/-- A lease is taken, and nothing else changes, or it is refused. -/
theorem acquire_cases {answer : Except Error Guard}
    (h : Stage.Unreliable (.acquire connection) s answer t) :
    (∃ guard, answer = .ok guard ∧ t.source = s.source ∧ t.warehouse = s.warehouse ∧
      t.trace = s.trace) ∨ answer = .error (.etlInProgress connection) := by
  obtain ⟨failures, hhandle⟩ := h
  obtain ⟨_, hanswer⟩ | ⟨_, hanswer⟩ := Stage.handle_acquire_cases connection { s with failures }
  · exact .inr (congrArg Prod.fst (hanswer.symm.trans hhandle)).symm
  · obtain ⟨rfl, rfl⟩ := Prod.mk.inj (hanswer.symm.trans hhandle)
    exact .inl ⟨_, rfl, rfl, rfl, rfl⟩

/-- A call that asks for no key lets the calls since then ask for none. -/
theorem Clearing.written (h : Clearing connection s names u) {c : Call Cursor Loader}
    {answer : Answer c} (hcall : Stage.Unreliable c u answer t)
    (hquiet : ∀ table, c.finalizes table = false) :
    ∃ new, t.trace = s.trace ++ new ∧ ∀ table, finalizes table new = false := by
  obtain ⟨failures, hhandle⟩ := hcall
  obtain ⟨new, htrace, hnew⟩ := Stage.written_of_handle hhandle
  obtain ⟨old, hold, hnone⟩ := h.trace
  refine ⟨old ++ new, ?_, fun table => ?_⟩
  · rw [← List.append_assoc, ← hold]
    exact htrace
  · rw [finalizes, List.any_append]
    exact Bool.or_eq_false_iff.2 ⟨hnone table, (hnew table).trans (hquiet table)⟩

theorem Clearing.quiet (h : Clearing connection s names u) {c : Call Cursor Loader}
    {answer : Answer c} (hcall : Stage.Unreliable c u answer t)
    (hquiet : ∀ table, c.finalizes table = false) (hsame : t.warehouse = u.warehouse) :
    Clearing connection s names t := by
  refine ⟨hcall.effect.1.trans h.source, ?_, ?_, ?_, h.written hcall hquiet⟩
  · rw [hsame]
    exact h.left
  · rw [hsame]
    exact h.others
  · rw [hsame]
    exact h.ordered

theorem clearing_listed (s : Stage) :
    Clearing connection s (s.warehouse.startingWith (stem connection)) s := by
  refine ⟨rfl, fun x hx => ?_, fun _ _ => rfl, id, [], (List.append_nil _).symm, fun _ => rfl⟩
  exact Warehouse.mem_startingWith.2 ⟨under_tableName connection x, hx⟩

theorem Clearing.drop {name : String} (h : Clearing connection s (name :: names) u)
    (hname : Under connection name) (hcall : Stage.Unreliable (.dropTable name) u (.ok ()) t)
    (hwarehouse : t.warehouse = u.warehouse.drop name) : Clearing connection s names t := by
  have hchange : Warehouse.Change name u.warehouse t.warehouse := hwarehouse ▸ .drop
  refine ⟨hcall.effect.1.trans h.source, fun x hx => ?_, fun other hother => ?_,
    fun ho => hchange.ordered (h.ordered ho), h.written hcall fun _ => rfl⟩
  · have hne : tableName connection x ≠ name := by
      rintro rfl
      rw [hwarehouse, Warehouse.has_drop_self] at hx
      cases hx
    rw [Warehouse.has, hchange.table? hne] at hx
    exact (List.mem_cons.1 (h.left x hx)).resolve_left hne
  · have hne : other ≠ name := fun hsame => hother (hsame ▸ hname)
    exact (hchange.table? hne).trans (h.others other hother)

theorem copyFailure_of_operational {e : Error} (h : e.Operational) (table : String) :
    copyFailure table e = .bulkCopyFailure table e := by
  cases e with
  | bulkCopyFailure inner cause => exact absurd rfl (h inner cause)
  | _ => rfl

theorem operational_sourceFailure (cause : Error) : (sourceFailure cause).Operational := by
  cases cause <;> rintro _ _ ⟨⟩

/-- A kind of error that also those are of with which a lifecycle itself ends before its tasks. -/
structure Covers (failure : Error → Prop) : Prop where
  name : ∀ connection, failure (.invalidConnectionName connection)
  lease : ∀ connection, failure (.etlInProgress connection)
  conflict : ∀ connection, failure (.connectionNameConflict connection)
  source : ∀ cause, failure (sourceFailure cause)

theorem covers_operational : Covers Error.Operational :=
  ⟨fun _ _ _ => nofun, fun _ _ _ => nofun, fun _ _ _ => nofun, operational_sourceFailure⟩

theorem covers_any : Covers fun _ => True :=
  ⟨fun _ => trivial, fun _ => trivial, fun _ => trivial, fun _ => trivial⟩

/-- The tables of the connection are cleared away unless a call fails. -/
theorem opens_clearing (hstep : Answering failure step) (hfailure : Covers failure)
    (hlisted : s.source.listed = none) :
    Opens step connection s
      (fun names u => Clearing connection s names u ∧ ∀ name ∈ names, Under connection name)
      failure (s.source.tables.map (·.name)) where
  list := by
    refine ⟨hstep.answered _ s, fun outcome t ht => ?_⟩
    have hcall := hstep.failing _ _ _ _ ht
    have ⟨failures, hs, hhandle⟩ := hcall
    obtain ⟨hwarehouse, hfares⟩ := fares_of_attempt hs hhandle fun u _ hw => by rw [hw]
    obtain rfl | ⟨e, he, rfl⟩ := hfares
    · exact ⟨(clearing_listed s).quiet hcall.unreliable (fun _ => rfl) hwarehouse,
        fun name hname => (List.mem_filter.1 hname).2⟩
    · exact he
  drop name rest u hu := by
    obtain ⟨hu, hnames⟩ := hu
    rw [List.forall_mem_cons] at hnames
    refine ⟨hstep.answered _ u, fun outcome t ht => ?_⟩
    have hcall := hstep.failing _ _ _ _ ht
    have ⟨failures, hs, hhandle⟩ := hcall
    obtain ⟨_, e, he, rfl⟩ | ⟨hwarehouse, rfl⟩ := Stage.Faulty.change hs hhandle
    · exact he
    · exact ⟨hu.drop hnames.1 hcall.unreliable hwarehouse, hnames.2⟩
  source u hu := by
    refine ⟨hstep.answered _ u, fun outcome t ht => ?_⟩
    have hcall := hstep.failing _ _ _ _ ht
    have ⟨failures, hs, hhandle⟩ := hcall
    have hlist : ∀ v : Stage, v.source = u.source → v.warehouse = u.warehouse →
        (Except.ok v.source.list : Except Error (List String)) =
          .ok (s.source.tables.map (·.name)) := fun v hv _ => by
      rw [hv, hu.1.source, Rehearsal.Source.list, hlisted, Option.getD_none]
    obtain ⟨hwarehouse, rfl | ⟨e, he, rfl⟩⟩ := fares_of_attempt hs hhandle hlist
    · exact ⟨rfl, hu.1.quiet hcall.unreliable (fun _ => rfl) hwarehouse, hu.2⟩
    · exact hfailure.source e

/-- A first run or a full refresh comes to its tasks once there is no table of the connection left,
if no call fails before. -/
theorem leads_tasks (hstep : Answering failure step) (hfailure : Covers failure) {mode : Mode}
    (hmode : mode ≠ .refresh) (pace : Pace) (hlisted : s.source.listed = none) :
    (tasks mode pace connection : Attempt Cursor Loader (List (Task Cursor Loader))).run.Leads step
      (Ends (fun ts u => ts = s.source.tables.map (fun x => (loadTask pace connection x.name).run) ∧
        Clearing connection s [] u) failure) s := by
  have hopens : Opens step connection s _ _ _ := opens_clearing hstep hfailure hlisted
  have htasks := hopens.tasks hmode pace fun _ _ _ _ _ => hfailure.conflict connection
  refine htasks.mono fun outcome u hu => ?_
  cases outcome with
  | error e => exact hu
  | ok ts =>
    obtain ⟨rfl, hu, _⟩ := hu
    rw [List.map_map]
    exact ⟨rfl, hu⟩

/-! ## Once no table is left -/

variable {mode : Mode} {pace : Pace} {guard : Guard} {final : Except Error Report → Stage → Prop}
  {charge : StoredSource → Charge String Holding Error (Option TableReport)}

theorem nodup_charges {ν : Type}
    {charge : StoredSource → Charge String ν Error (Option TableReport)}
    (hname : isName connection = true)
    (howner : ∀ x, (charge x).owner = tableName connection x.name)
    {tables : List StoredSource} (h : (tables.map (·.name)).Nodup) :
    ((tables.map charge).map (·.owner)).Nodup := by
  have howners : (tables.map charge).map (·.owner) =
      (tables.map (loading connection)).map (·.owner) := by
    rw [List.map_map, List.map_map]
    exact List.map_congr_left fun x _ => howner x
  rw [howners]
  exact nodup_owners hname h

theorem Clearing.inv (h : Clearing connection s [] u) : (byHolding step s).inv u := by
  obtain ⟨new, htrace, _⟩ := h.trace
  exact ⟨h.source, htrace ▸ List.prefix_append _ _, h.ordered⟩

/-- No table of the connection is there, and no key has been asked for. -/
theorem Clearing.view (h : Clearing connection s [] u) (x : String) :
    (byHolding step s).view (tableName connection x) u = ⟨none, false⟩ := by
  obtain ⟨new, htrace, hnone⟩ := h.trace
  have htable : u.warehouse.table? (tableName connection x) = none := by
    refine Option.not_isSome_iff_eq_none.1 fun hsome => ?_
    exact List.not_mem_nil (h.left x hsome)
  simp only [byHolding, htable, htrace, List.drop_left, hnone]

/-- The connection has no tables but those of its source tables, and nothing else has changed. -/
structure Cleared (connection : String) (s t : Stage) : Prop where
  absent : ∀ x, (∀ y ∈ s.source.tables, y.name ≠ x) →
    t.warehouse.table? (tableName connection x) = none
  others : ∀ name, ¬Under connection name → t.warehouse.table? name = s.warehouse.table? name
  ordered : s.warehouse.Ordered → t.warehouse.Ordered

/-- Once no table of the connection is left, changing those of its source tables keeps it clear. -/
theorem Clearing.cleared (h : Clearing connection s [] u) (hname : isName connection = true)
    (hordered : s.warehouse.Ordered → t.warehouse.Ordered)
    (hothers : ∀ name, (∀ y ∈ s.source.tables, tableName connection y.name ≠ name) →
      t.warehouse.table? name = u.warehouse.table? name) : Cleared connection s t where
  absent x hx := by
    refine (hothers _ fun y hy hsame => hx y hy (tableName_inj hname hname hsame).2).trans ?_
    exact Option.not_isSome_iff_eq_none.1 fun hthere => List.not_mem_nil (h.left x hthere)
  others name hunder := by
    refine (hothers name fun y _ hsame => hunder ?_).trans (h.others name hunder)
    exact hsame ▸ under_tableName connection y.name
  ordered := hordered

/-- Once no table of the connection is left, the tasks can be attended, and when they have come to
something the lease is given back. -/
theorem Clearing.ready (h : Clearing connection s [] u) (hstep : Answering failure step)
    (hname : isName connection = true) (hplain : s.source.Plain)
    (howner : ∀ x, (charge x).owner = tableName connection x.name)
    (htasks : ∀ x ∈ s.source.tables, (byHolding step s).Tends (tableName connection x.name)
      (charge x).halt (charge x).post (loadTask pace connection x.name).run ⟨none, false⟩)
    (hfinal : ∀ outcome t, (byHolding step s).Concluded (s.source.tables.map charge) t outcome →
      Cleared connection s t → final ((outcome.map (·.flatMap Option.toList)).map fun reports =>
        ⟨connection, mode, reports⟩) t) :
    Lifecycle.Ready (byHolding step s) mode connection final guard
      (.ok (s.source.tables.map fun x => (loadTask pace connection x.name).run)) u := by
  refine ⟨s.source.tables.map charge, nodup_charges hname howner hplain.names, h.inv, ?_, ?_⟩
  · rw [List.forall₂_map_left_iff, List.forall₂_map_right_iff, List.forall₂_same]
    intro x hx
    have hview : (byHolding step s).view (charge x).owner u = ⟨none, false⟩ :=
      (congrArg (fun name => (byHolding step s).view name u) (howner x)).trans (h.view x.name)
    rw [Charge.Held, hview, howner x]
    exact htasks x hx
  · intro outcome t hconcluded hinv hothers
    obtain ⟨answer, v, hv⟩ := hstep.answered (.release guard) t
    refine ⟨⟨v, hv⟩, fun v hv => ?_⟩
    -- Giving back the lease is no call to the databases.
    have hsame : v.warehouse = t.warehouse ∧ v.trace = t.trace := by
      obtain ⟨failures, _, hrelease⟩ := hstep.failing _ _ _ _ hv
      cases hrelease
      exact ⟨rfl, rfl⟩
    refine hfinal outcome v (hconcluded.of_view fun name => ?_)
      (h.cleared hname (hsame.1 ▸ hinv.2.2) fun name htargets => ?_)
    · simp only [byHolding, hsame]
    rw [hsame.1]
    refine congrArg Holding.table (hothers name fun hmem => ?_)
    rw [List.map_map, List.mem_map] at hmem
    obtain ⟨y, hy, rfl⟩ := hmem
    exact htargets y hy (howner y).symm

/-- The task of a source table while any call may fail. -/
def attending (failure : Error → Prop) (connection : String) (x : StoredSource) :
    Charge String Holding Error (Option TableReport) where
  owner := tableName connection x.name
  halt := Found x ⟨none, false⟩ ⟨some (copyOf connection x), false⟩
    ⟨some { copyOf connection x with primaryKey := x.primaryKey }, true⟩
    ⟨some (copyOf connection x), true⟩
  post := Worked connection x (fun answer => True ∧ Fares failure x.description answer) failure
    ⟨none, false⟩ ⟨some { copyOf connection x with primaryKey := x.primaryKey }, true⟩
    ⟨some (copyOf connection x), true⟩

/-- A first run or a full refresh ends as wanted if that is so once all its tasks have come to
something, and whenever it ends before. -/
theorem bound_of_attending (hstep : Answering failure step) (hfailure : Covers failure)
    (hmode : mode ≠ .refresh) (hplain : s.source.Plain)
    (hfetches : ∀ x ∈ s.source.tables, x.rows.length < pace.fetches)
    (herror : ∀ e t, failure e → final (.error e) t)
    (hfinal : isName connection = true → ∀ outcome t,
      (byHolding step s).Concluded (s.source.tables.map (attending failure connection)) t outcome →
      Cleared connection s t → final ((outcome.map (·.flatMap Option.toList)).map fun reports =>
        ⟨connection, mode, reports⟩) t) :
    Lifecycle.Bound (byHolding step s) mode pace connection final
      (Lifecycle.start connection, s) := by
  rw [Lifecycle.start]
  by_cases hname : isName connection = true
  · rw [checkName_eq_ok_iff.2 hname]
    refine ⟨hstep.answered _ _, fun guard t ht => ?_, fun e t ht => ?_⟩
    · obtain ⟨_, _, hsource, hwarehouse, htrace⟩ | he :=
        acquire_cases (hstep.failing _ _ _ _ ht).unreliable
      · have hlisted : t.source.listed = none := hsource ▸ hplain.listed
        refine (leads_tasks hstep hfailure hmode pace hlisted).mono fun outcome u hu => ?_
        cases outcome with
        | error e =>
          obtain ⟨answer, v, hv⟩ := hstep.answered (.release guard) u
          exact ⟨⟨v, hv⟩, fun _ _ => herror _ _ hu⟩
        | ok ts =>
          obtain ⟨rfl, hclear⟩ := hu
          rw [hsource]
          refine (hclear.of_same hsource hwarehouse htrace).ready hstep hname hplain
            (fun _ => rfl) (fun x hx => ?_) (hfinal hname)
          exact tends_loadTask ((hstep.serving _).serves hplain hx fun _ _ _ _ _ _ => trivial)
            (hplain.described x hx) (hfetches x hx)
      · cases he
    · obtain ⟨_, hok, _⟩ | he := acquire_cases (hstep.failing _ _ _ _ ht).unreliable
      · cases hok
      · cases he
        exact herror _ _ (hfailure.lease connection)
  · rw [checkName, if_neg hname]
    exact herror _ _ (hfailure.name connection)

end

end Granary.Replica
