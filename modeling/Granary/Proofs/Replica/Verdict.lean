import Granary.Proofs.Replica.Clearing
import Granary.Proofs.Replica.Serial

/-!
# The table that a lifecycle fails with

When it is settled for every call whether it fails, each task comes to one outcome, whatever the
others do: that to which it comes by itself (`verdict`), since its calls are answered from the
source and from its own table alone (`fated_alike`).  The pool ends with the first task that fails
in the order of the source, so the error of a lifecycle and the tables in front of it do not depend
on who is faster; of the tables behind it each is there as a whole or not at all.
-/

namespace Granary

namespace Rehearsal.Stage

open Replica (Answer Call)

/-- Stages with the same source and the same table of one name. -/
structure Alike (name : String) (s t : Stage) : Prop where
  source : s.source = t.source
  table : s.warehouse.table? name = t.warehouse.table? name

variable {α : Type} {name : String} {s t : Stage}
  {fate : Call Cursor Loader → List (Failure Breakdown)}

theorem attempt_alike {event : Event} {point table : String} {act : Stage → Except Error α × Stage}
    (h : Alike name s t) (failures : List (Failure Breakdown))
    (hact : ∀ u v, Alike name u v → (act u).1 = (act v).1 ∧ Alike name (act u).2 (act v).2) :
    (attempt { s with failures } event point table act).1 =
      (attempt { t with failures } event point table act).1 ∧
    Alike name (attempt { s with failures } event point table act).2
      (attempt { t with failures } event point table act).2 := by
  unfold attempt
  dsimp only
  cases Failure.check (·.appliesTo point table) failures with
  | mk due failures =>
    cases due with
    | none => exact hact _ _ ⟨h.source, h.table⟩
    | some breakdown => exact ⟨rfl, h.source, h.table⟩

theorem answer_alike {value : Stage → Except Error α}
    (hvalue : ∀ u v, Alike name u v → value u = value v) (u v : Stage) (h : Alike name u v) :
    (answer value u).1 = (answer value v).1 ∧ Alike name (answer value u).2 (answer value v).2 :=
  ⟨hvalue u v h, h⟩

theorem change_alike {f : Warehouse → Warehouse}
    (hf : ∀ w w' : Warehouse, w.table? name = w'.table? name →
      (f w).table? name = (f w').table? name) (u v : Stage) (h : Alike name u v) :
    (change f u).1 = (change f v).1 ∧ Alike name (change f u).2 (change f v).2 :=
  ⟨rfl, h.source, hf _ _ h.table⟩

/-- A call for one table is answered from the source and from that table, and so is what becomes of
it. -/
theorem fated_alike {c : Call Cursor Loader} (hc : c.Alone name) (h : Alike name s t) :
    (fated fate c s).1 = (fated fate c t).1 ∧
      Alike name (fated fate c s).2 (fated fate c t).2 := by
  cases c with
  | listSource =>
    exact attempt_alike h _ (answer_alike fun u v huv => by rw [huv.source])
  | describeSource table =>
    exact attempt_alike h _ (answer_alike fun u v huv => by rw [huv.source])
  | openCursor table columns chunk =>
    exact attempt_alike h _ (answer_alike fun u v huv => by rw [huv.source])
  | nextChunk cursor =>
    refine And.imp_left (congrArg (Prod.mk _)) ?_
    exact attempt_alike h _ (answer_alike fun _ _ _ => rfl)
  | closeCursor cursor => exact attempt_alike h _ (answer_alike fun _ _ _ => rfl)
  | dropCursor cursor => exact ⟨rfl, h.source, h.table⟩
  | tableExists table =>
    obtain rfl : table = name := hc
    exact attempt_alike h _ (answer_alike fun u v huv => by rw [Warehouse.has, huv.table]; rfl)
  | dropTable table =>
    obtain rfl : table = name := hc
    refine attempt_alike h _ (change_alike fun w w' _ => ?_)
    have hgone : ∀ w : Warehouse, (w.drop table).table? table = none := fun w =>
      Option.not_isSome_iff_eq_none.1 (Bool.eq_false_iff.1 (w.has_drop_self table))
    rw [hgone w, hgone w']
  | beginLoad table columns mode =>
    obtain rfl : table = name := hc
    refine attempt_alike h _ (answer_alike fun u v huv => ?_)
    rw [Warehouse.has, Warehouse.has, huv.table]
  | insertBatch loader rows =>
    have hcall := @attempt_alike Nat name s t ⟨.insertBatch loader rows, 0⟩ "loader.insert_batch"
      loader.table (answer fun _ => .ok rows.length) h (fate (.insertBatch loader rows))
      (answer_alike fun _ _ _ => rfl)
    simp only [fated, handle]
    generalize attempt { s with failures := fate _ } _ _ _ _ = left at hcall ⊢
    generalize attempt { t with failures := fate _ } _ _ _ _ = right at hcall ⊢
    obtain ⟨outcome, u⟩ := left
    obtain ⟨outcome', v⟩ := right
    obtain ⟨rfl, huv⟩ := hcall
    cases outcome with
    | error e => exact ⟨rfl, huv⟩
    | ok n => exact ⟨rfl, huv⟩
  | commit loader =>
    obtain rfl : loader.table = name := hc
    refine attempt_alike h _ (change_alike fun w w' hw => ?_)
    cases hmode : loader.mode with
    | create => simp only [Warehouse.commit, Warehouse.table?_put, if_true]
    | replace => simp only [Warehouse.commit, hw, Warehouse.table?_put]
  | rollback loader => exact attempt_alike h _ (answer_alike fun _ _ _ => rfl)
  | finalize table key columns =>
    obtain rfl : table = name := hc
    refine attempt_alike h _ (change_alike fun w w' hw => ?_)
    rw [Warehouse.table?_setPrimaryKey, if_pos rfl, Warehouse.table?_setPrimaryKey, if_pos rfl, hw]
  | _ => exact hc.elim

end Rehearsal.Stage

namespace Replica

open Program (Division)
open Program.Division (Charge)
open Rehearsal (Breakdown Cursor Failure Loader Stage StoredSource StoredTable)

variable {fate : Call Cursor Loader → List (Failure Breakdown)} {mode : Mode} {pace : Pace}
  {connection name : String} {origin s t : Stage} {x : StoredSource}

/-! ## One outcome for each task -/

theorem answering_fated (hfate : ∀ c, ∀ f ∈ fate c, f.pattern.error.Operational) :
    Answering Error.Operational fun c s answer t => Stage.fated fate c s = (answer, t) where
  answered _ _ := ⟨_, _, rfl⟩
  failing c _ _ _ h := ⟨fate c, hfate c, h⟩

/-- The warehouse divided by the names of its tables, where calls fail as planned. -/
abbrev byFate (fate : Call Cursor Loader → List (Failure Breakdown)) (origin : Stage) :
    Division (Call Cursor Loader) Answer Stage String Holding :=
  byHolding (fun c s answer t => Stage.fated fate c s = (answer, t)) origin

/-- Answers to the calls for one table, and to no others. -/
def fatedAt (fate : Call Cursor Loader → List (Failure Breakdown)) (name : String)
    (c : Call Cursor Loader) (s : Stage) (answer : Answer c) (t : Stage) : Prop :=
  c.Alone name ∧ Stage.fated fate c s = (answer, t)

theorem serving_fatedAt (hfate : ∀ c, ∀ f ∈ fate c, f.pattern.error.Operational) (name : String) :
    Serving Error.Operational name (fatedAt fate name) where
  answered _ _ hc := ⟨_, _, hc, rfl⟩
  failing c _ _ _ h := ⟨fate c, hfate c, h.2⟩

/-- A program that makes calls for one table only comes to the outcome that it comes to by itself,
from any stage that is alike. -/
theorem tends_fated {α : Type} {halt : Holding → Prop} {post : α → Holding → Prop}
    {p : Work Cursor Loader α} {v : Holding}
    (h : (byHolding (fatedAt fate name) origin).Tends name halt post p v)
    (hs : (byHolding (fatedAt fate name) origin).inv s)
    (hview : (byHolding (fatedAt fate name) origin).view name s = v)
    (halike : Stage.Alike name s t) :
    (byFate fate origin).Tends name halt
      (fun a w => post a w ∧ (p.run (Stage.fated fate) t).1 = some a) p v := by
  have hcall : ∀ c u answer w u', c.Alone name → (byFate fate origin).inv u →
      (byFate fate origin).step c u answer w →
      origin.source = u'.source ∧ u.warehouse.table? name = u'.warehouse.table? name →
      (Stage.fated fate c u').1 = answer ∧ origin.source = (Stage.fated fate c u').2.source ∧
        w.warehouse.table? name = (Stage.fated fate c u').2.warehouse.table? name := by
    intro c u answer w u' halone hu hw halike
    have hstep : Stage.fated fate c u = (answer, w) := hw
    have hsource : w.source = u.source := (Stage.effect_of_handle hstep).1
    obtain ⟨hanswer, hafter⟩ : _ ∧ Stage.Alike name (Stage.fated fate c u).2 _ :=
      Stage.fated_alike halone ⟨hu.1.trans halike.1, halike.2⟩
    rw [hstep] at hanswer hafter
    exact ⟨hanswer.symm, hu.1.symm.trans (hsource.symm.trans hafter.source), hafter.table⟩
  have hgated : ((byFate fate origin).gated (·.Alone name)).Tends name halt post p v := h
  have helsewhere := hgated.elsewhere
    (fun v (u : Stage) => origin.source = u.source ∧ v.table = u.warehouse.table? name) hcall hs
    hview ⟨hs.1.symm.trans halike.source, hview ▸ halike.table⟩
  refine helsewhere.mono (fun _ hv => hv) fun a w ha => ?_
  obtain ⟨hpost, u, hrun, _⟩ := ha
  exact ⟨hpost, congrArg Prod.fst hrun⟩

/-- What the task of a source table comes to by itself, with an empty warehouse. -/
def verdict (fate : Call Cursor Loader → List (Failure Breakdown)) (pace : Pace)
    (connection : String) (s : Stage) (x : StoredSource) :
    Option (Except Error (Option TableReport)) :=
  ((loadTask pace connection x.name).run.run (Stage.fated fate) { source := s.source }).1

/-- What describing a source table comes to. -/
def description (fate : Call Cursor Loader → List (Failure Breakdown)) (s : Stage)
    (x : StoredSource) : Except Error SourceTable :=
  (Stage.fated fate (.describeSource x.name) { source := s.source }).1

/-- How a task whose table is not there comes to its outcome. -/
def deciding (fate : Call Cursor Loader → List (Failure Breakdown)) (pace : Pace)
    (connection : String) (s : Stage) (x : StoredSource) :
    Charge String Holding Error (Option TableReport) where
  owner := tableName connection x.name
  halt := Found x ⟨none, false⟩ ⟨some (copyOf connection x), false⟩
    ⟨some { copyOf connection x with primaryKey := x.primaryKey }, true⟩
    ⟨some (copyOf connection x), true⟩
  post outcome v := Worked connection x (fun answer => answer = description fate s x ∧
      Fares Error.Operational x.description answer) Error.Operational ⟨none, false⟩
    ⟨some { copyOf connection x with primaryKey := x.primaryKey }, true⟩
    ⟨some (copyOf connection x), true⟩ outcome v ∧ verdict fate pace connection s x = some outcome

theorem tends_deciding (hfate : ∀ c, ∀ f ∈ fate c, f.pattern.error.Operational)
    (hplain : s.source.Plain) (hx : x ∈ s.source.tables) (hfetches : x.rows.length < pace.fetches) :
    (byFate fate s).Tends
      (tableName connection x.name) (deciding fate pace connection s x).halt
      (deciding fate pace connection s x).post (loadTask pace connection x.name).run
      ⟨none, false⟩ := by
  have hserves : Serves (byHolding (fatedAt fate (tableName connection x.name)) s) connection x
      (fun answer => answer = description fate s x ∧ Fares Error.Operational x.description answer)
      Error.Operational ⟨none, false⟩ ⟨some (copyOf connection x), false⟩
      ⟨some { copyOf connection x with primaryKey := x.primaryKey }, true⟩
      ⟨some (copyOf connection x), true⟩ := by
    refine (serving_fatedAt hfate _).serves hplain hx fun u answer t hsource htable ht => ?_
    have halike : Stage.Alike (tableName connection x.name) u { source := s.source } :=
      ⟨hsource, htable⟩
    obtain ⟨halone, hanswer⟩ := ht
    rw [description, ← (Stage.fated_alike halone halike).1, hanswer]
  have hempty : (byHolding (fatedAt fate (tableName connection x.name)) s).view
      (tableName connection x.name) { s with warehouse := {} } = ⟨none, false⟩ := by
    simp only [byHolding, List.drop_length]
    rfl
  exact tends_fated (s := { s with warehouse := {} })
    (tends_loadTask hserves (hplain.described x hx) hfetches)
    ⟨rfl, List.prefix_refl _, fun _ => List.Pairwise.nil⟩ hempty ⟨rfl, rfl⟩

/-! ## The first table to fail -/

/-- The error of a table tells what failed: to describe it, or to copy it. -/
def Blames (fate : Call Cursor Loader → List (Failure Breakdown)) (connection : String) (s : Stage)
    (x : StoredSource) (e : Error) : Prop :=
  ∃ cause, e = match description fate s x with
    | .error _ => .schemaUnavailable cause
    | .ok _ => .bulkCopyFailure (tableName connection x.name) cause

/-- What a lifecycle leaves that stopped at a table: the replicas of all tables before it, and no
table without all its rows. -/
structure Stopped (connection : String) (s : Stage) (before : List StoredSource) (t : Stage) :
    Prop where
  replicas : ∀ y ∈ before, t.warehouse.table? (tableName connection y.name) = replica? connection y
  whole : ∀ y ∈ s.source.tables, t.warehouse.table? (tableName connection y.name) = none ∨
    ∃ key, t.warehouse.table? (tableName connection y.name) =
      some { copyOf connection y with primaryKey := key }

theorem blames_of_deciding {e : Error} {v : Holding}
    (h : (deciding fate pace connection s x).post (.error e) v) : Blames fate connection s x e := by
  obtain ⟨⟨_, cause, ⟨hdescribed, _⟩, rfl⟩ | ⟨_, _, ⟨hdescribed, _⟩, cause, hcause, rfl⟩, _⟩ := h
  · rw [Blames, ← hdescribed]
    cases cause <;> exact ⟨_, rfl⟩
  · rw [Blames, ← hdescribed, copyFailure_of_operational hcause]
    exact ⟨_, rfl⟩

theorem replica_of_deciding {report : Option TableReport}
    (h : (deciding fate pace connection s x).Met
      (byFate fate s) t report) :
    t.warehouse.table? (tableName connection x.name) = replica? connection x := by
  obtain ⟨⟨_, hview⟩, _⟩ := h
  have htable := congrArg Holding.table hview
  refine htable.trans ?_
  by_cases hempty : x.columns.isEmpty = true
  · rw [if_pos hempty, replica?, if_pos hempty]
  · rw [if_neg hempty, replica?_of_columns (Bool.eq_false_iff.2 hempty)]

theorem whole_of_halted
    (h : (deciding fate pace connection s x).halt
      ((byFate fate s).view
        (tableName connection x.name) t)) :
    t.warehouse.table? (tableName connection x.name) = none ∨
      ∃ key, t.warehouse.table? (tableName connection x.name) =
        some { copyOf connection x with primaryKey := key } := by
  obtain hview | ⟨_, hview | hview | hview⟩ := h
  · exact .inl (congrArg Holding.table hview)
  · exact .inr ⟨[], congrArg Holding.table hview⟩
  · exact .inr ⟨x.primaryKey, congrArg Holding.table hview⟩
  · exact .inr ⟨[], congrArg Holding.table hview⟩

theorem first_unique {α : Type} {kind : α → Prop} {before before' after after' : List α} {a a' : α}
    (h : before ++ a :: after = before' ++ a' :: after') (hbefore : ∀ b ∈ before, ¬kind b)
    (hbefore' : ∀ b ∈ before', ¬kind b) (ha : kind a) (ha' : kind a') :
    before = before' ∧ a = a' ∧ after = after' := by
  induction before generalizing before' with
  | nil =>
    cases before' with
    | nil =>
      obtain ⟨rfl, rfl⟩ := List.cons.inj h
      exact ⟨rfl, rfl, rfl⟩
    | cons b rest =>
      obtain ⟨rfl, _⟩ := List.cons.inj h
      exact absurd ha (hbefore' _ List.mem_cons_self)
  | cons b rest ih =>
    cases before' with
    | nil =>
      obtain ⟨rfl, _⟩ := List.cons.inj h
      exact absurd ha' (hbefore _ List.mem_cons_self)
    | cons b' rest' =>
      rw [List.forall_mem_cons] at hbefore hbefore'
      obtain ⟨rfl, hrest⟩ := List.cons.inj h
      obtain ⟨rfl, rfl, rfl⟩ := ih hrest hbefore.2 hbefore'.2
      exact ⟨rfl, rfl, rfl⟩

section

variable {before after : List StoredSource} {e : Error}

/-- Of tasks that come to their outcomes, the first that fails is the one that stops the pool. -/
theorem stopped_of_concluded (htables : s.source.tables = before ++ x :: after)
    (hbefore : ∀ y ∈ before, ∀ e, verdict fate pace connection s y ≠ some (.error e))
    (hx : verdict fate pace connection s x = some (.error e))
    {outcome : Except Error (List (Option TableReport))}
    (h : (byFate fate s).Concluded
      (s.source.tables.map (deciding fate pace connection s)) t outcome) :
    outcome = .error e ∧ Blames fate connection s x e ∧ Stopped connection s before t := by
  obtain ⟨results, rfl, hall⟩ |
    ⟨front, y, back, e', results, hsplit, rfl, hfront, hfailed, hback⟩ := h.of_map
  · have hmem : x ∈ s.source.tables := htables ▸ by simp
    obtain ⟨report, _, hverdict⟩ := Division.exists_of_forall₂ hall hmem
    cases hverdict.symm.trans hx
  · have hsucceeded : ∀ z ∈ front, ∀ e, verdict fate pace connection s z ≠ some (.error e) := by
      intro z hz e he
      obtain ⟨report, _, hverdict⟩ := Division.exists_of_forall₂ hfront hz
      cases hverdict.symm.trans he
    obtain ⟨rfl, rfl, rfl⟩ := first_unique (htables.symm.trans hsplit)
      (fun z hz (hfails : ∃ e, verdict fate pace connection s z = some (.error e)) =>
        hfails.elim (hbefore z hz))
      (fun z hz hfails => hfails.elim (hsucceeded z hz)) ⟨e, hx⟩ ⟨e', hfailed.2⟩
    obtain ⟨rfl⟩ : e = e' := Except.error.inj (Option.some.inj (hx.symm.trans hfailed.2))
    have hhalted : ∀ y ∈ s.source.tables, (deciding fate pace connection s y).halt
        ((byFate fate s).view (tableName connection y.name) t) := by
      intro y hy
      rw [htables, List.mem_append, List.mem_cons] at hy
      obtain hy | rfl | hy := hy
      · obtain ⟨report, hreport⟩ := Division.exists_of_forall₂ hfront hy
        exact hreport.1.found
      · exact hfailed.1.found
      · exact hback y hy
    refine ⟨rfl, blames_of_deciding hfailed, fun y hy => ?_, fun y hy =>
      whole_of_halted (hhalted y hy)⟩
    obtain ⟨report, hreport⟩ := Division.exists_of_forall₂ hfront hy
    exact replica_of_deciding hreport

/-- Calls that fail as planned for each of them do not mind what is planned besides. -/
theorem fst_run_fated {α : Type} (p : Work Cursor Loader α) (s : Stage)
    (failures : List (Failure Breakdown)) :
    (p.run (Stage.fated fate) { s with failures }).1 = (p.run (Stage.fated fate) s).1 := by
  cases p <;> rfl

/-- A lifecycle that comes to its tables ends as its tasks let it end. -/
theorem bound_concluded (hconnection : checkName connection = .ok ())
    (hlease : s.leases.isHeld connection = false) (hmode : mode ≠ .refresh)
    (hplain : s.source.Plain) (hfetches : ∀ y ∈ s.source.tables, y.rows.length < pace.fetches)
    (hfate : ∀ c, ∀ f ∈ fate c, f.pattern.error.Operational)
    (hopening : ∃ ts, ((tasks mode pace connection).run.run (Stage.fated fate)
      (acquired connection s)).1 = some (.ok ts))
    {final : Except Error Report → Stage → Prop}
    (hfinal : ∀ outcome t, (byFate fate s).Concluded
      (s.source.tables.map (deciding fate pace connection s)) t outcome →
        final ((outcome.map (·.flatMap Option.toList)).map fun reports =>
          ⟨connection, mode, reports⟩) t) :
    Lifecycle.Bound (byFate fate s) mode pace connection final (Lifecycle.start connection, s) := by
  have hacquire : Stage.fated fate (.acquire connection) s = (.ok ⟨connection⟩,
      { acquired connection s with failures := fate (.acquire connection) }) :=
    handle_acquire (s := { s with failures := fate (.acquire connection) }) hlease
  rw [Lifecycle.start, hconnection]
  refine ⟨⟨_, _, rfl⟩, fun guard t ht => ?_, fun e' t ht => ?_⟩
  · cases hacquire.symm.trans ht
    have hleads : (tasks mode pace connection).run.Leads (byFate fate s).step (Ends _ _)
        { acquired connection s with failures := fate (.acquire connection) } :=
      leads_tasks (answering_fated hfate) covers_operational hmode pace (by exact hplain.listed)
    obtain ⟨outcome, u, hrun, hcleared⟩ := hleads.run
    -- Taking the lease leaves a plan behind, which the next call does not go by.
    obtain ⟨ts, hts⟩ := hopening
    rw [← fst_run_fated _ _ (fate (.acquire connection)), hrun] at hts
    cases hts
    obtain ⟨rfl, hclear⟩ := hcleared
    refine Program.Leads.of_run hrun ?_
    exact (hclear.of_same (s := s) rfl rfl rfl).ready (answering_fated hfate)
      (checkName_eq_ok_iff.1 hconnection) hplain (fun _ => rfl)
      (fun y hy => tends_deciding hfate hplain hy (hfetches y hy)) fun outcome t h _ =>
        hfinal outcome t h
  · cases hacquire.symm.trans ht

theorem bound_stopped (hconnection : checkName connection = .ok ())
    (hlease : s.leases.isHeld connection = false) (hmode : mode ≠ .refresh)
    (hplain : s.source.Plain) (hfetches : ∀ y ∈ s.source.tables, y.rows.length < pace.fetches)
    (hfate : ∀ c, ∀ f ∈ fate c, f.pattern.error.Operational)
    (hopening : ∃ ts, ((tasks mode pace connection).run.run (Stage.fated fate)
      (acquired connection s)).1 = some (.ok ts))
    (htables : s.source.tables = before ++ x :: after)
    (hbefore : ∀ y ∈ before, ∀ e, verdict fate pace connection s y ≠ some (.error e))
    (hx : verdict fate pace connection s x = some (.error e)) :
    Lifecycle.Bound (byFate fate s) mode pace
      connection (fun outcome t => outcome = .error e ∧ Blames fate connection s x e ∧
        Stopped connection s before t) (Lifecycle.start connection, s) := by
  refine bound_concluded hconnection hlease hmode hplain hfetches hfate hopening
    fun outcome t h => ?_
  obtain ⟨rfl, hstopped⟩ := stopped_of_concluded htables hbefore hx h
  exact ⟨rfl, hstopped⟩

/-- When it is settled for every call whether it fails, a first run or a full refresh that comes to
its tables fails with the first table, in the order of the source, whose task fails by itself.  So
it goes in every order of the tasks, however many of them run side by side, and one after
another. -/
theorem first_failure_decides (hconnection : checkName connection = .ok ())
    (hlease : s.leases.isHeld connection = false) (hmode : mode ≠ .refresh)
    (hplain : s.source.Plain) (hfetches : ∀ y ∈ s.source.tables, y.rows.length < pace.fetches)
    (hfate : ∀ c, ∀ f ∈ fate c, f.pattern.error.Operational)
    (hopening : ∃ ts, ((tasks mode pace connection).run.run (Stage.fated fate)
      (acquired connection s)).1 = some (.ok ts))
    (htables : s.source.tables = before ++ x :: after)
    (hbefore : ∀ y ∈ before, ∀ e, verdict fate pace connection s y ≠ some (.error e))
    (hx : verdict fate pace connection s x = some (.error e)) :
    (∀ limit, Inevitable
      (Lifecycle.Step mode pace connection (max limit 1)
        fun c s answer t => Stage.fated fate c s = (answer, t))
      (fun y => y.1 = .ended (.error e) ∧ Blames fate connection s x e ∧
        Stopped connection s before y.2)
      (Lifecycle.start connection, s)) ∧
    ∃ t, (lifecycle mode pace connection).run.run (Stage.fated fate) s = (some (.error e), t) ∧
      Blames fate connection s x e ∧ Stopped connection s before t := by
  have hbound := bound_stopped hconnection hlease hmode hplain hfetches hfate hopening htables
    hbefore hx
  refine ⟨fun limit => ?_, ?_⟩
  · have hlimit : 0 < max limit 1 := Nat.lt_of_lt_of_le Nat.zero_lt_one (Nat.le_max_right _ _)
    refine (hbound.inevitable hlimit).trans fun y hy => .now ?_
    obtain ⟨outcome, hend, rfl, hstopped⟩ := hy
    exact ⟨hend, hstopped⟩
  · obtain ⟨outcome, t, hrun, rfl, hstopped⟩ :=
      (Lifecycle.leads_of_inevitable (hbound.inevitable Nat.zero_lt_one)).run
    exact ⟨t, hrun, hstopped⟩

end

/-- A shop with a table that has no columns and one whose rows cannot be written. -/
def halfShop : Stage where
  source := { tables := [
    { name := "orders", columns := [⟨"id", "int4", false, {}, 1⟩], primaryKey := ["id"],
      rows := [[some "1"]] },
    { name := "scratch", columns := [], primaryKey := [], rows := [] },
    { name := "users", columns := [⟨"name", "citext", true, {}, 1⟩], primaryKey := [],
      rows := [[some "Ada"]] },
    { name := "visits", columns := [⟨"id", "int4", false, {}, 1⟩], primaryKey := [],
      rows := [] }] }

/-- The plan that no row of the users can be written. -/
def userless : Call Cursor Loader → List (Failure Breakdown)
  | .insertBatch loader _ => if loader.table = "shop__users" then
      [{ pattern := { point := "loader.insert_batch", error := .execution (.statement .refused) } }]
    else []
  | _ => []

theorem operational_userless (c : Call Cursor Loader) :
    ∀ f ∈ userless c, f.pattern.error.Operational := by
  intro f hf
  cases c with
  | insertBatch loader rows =>
    rw [userless] at hf
    by_cases husers : loader.table = "shop__users"
    · rw [if_pos husers] at hf
      obtain rfl := List.mem_singleton.1 hf
      rintro _ _ ⟨⟩
    · rw [if_neg husers] at hf
      cases hf
  | _ => cases hf

theorem verdict_users : verdict userless ⟨1, 1, 3⟩ "shop" halfShop halfShop.source.tables[2] =
    some (.error (.bulkCopyFailure "shop__users" (.execution (.statement .refused)))) := by
  with_unfolding_all rfl

theorem verdict_before_users : ∀ y ∈ halfShop.source.tables.take 2, ∀ e,
    verdict userless ⟨1, 1, 3⟩ "shop" halfShop y ≠ some (.error e) := by
  have horders : verdict userless ⟨1, 1, 3⟩ "shop" halfShop halfShop.source.tables[0] =
      some (.ok (loaded? "shop" halfShop.source.tables[0])) := by with_unfolding_all rfl
  have hscratch : verdict userless ⟨1, 1, 3⟩ "shop" halfShop halfShop.source.tables[1] =
      some (.ok none) := rfl
  intro y hy e he
  obtain rfl | hy := List.mem_cons.1 hy
  · cases horders.symm.trans he
  · obtain rfl := List.mem_singleton.1 hy
    cases hscratch.symm.trans he

theorem users_decide_halfShop :
    (checkName "shop" = .ok () ∧ halfShop.source.Plain) ∧
    ∃ t, (lifecycle .run ⟨1, 1, 3⟩ "shop").run.run (Stage.fated userless) halfShop =
        (some (.error (.bulkCopyFailure "shop__users" (.execution (.statement .refused)))), t) ∧
      Stopped "shop" halfShop (halfShop.source.tables.take 2) t := by
  have hconnection : checkName "shop" = .ok () := checkName_eq_ok_iff.2 (by decide +kernel)
  have hplain : halfShop.source.Plain := ⟨rfl, by decide, by decide⟩
  have hopening : ∃ ts, ((tasks .run ⟨1, 1, 3⟩ "shop").run.run (Stage.fated userless)
      (acquired "shop" halfShop)).1 = some (.ok ts) :=
    ⟨halfShop.source.tables.map fun x => (loadTask ⟨1, 1, 3⟩ "shop" x.name).run, rfl⟩
  have hsplit : halfShop.source.tables = halfShop.source.tables.take 2 ++
      halfShop.source.tables[2] :: halfShop.source.tables.drop 3 := rfl
  obtain ⟨_, t, hrun, _, hstopped⟩ := first_failure_decides hconnection rfl (by decide) hplain
    (by decide) operational_userless hopening hsplit verdict_before_users verdict_users
  exact ⟨⟨hconnection, hplain⟩, t, hrun, hstopped⟩

/-- A table without columns is left out, also where it is before the one that fails. -/
theorem scratch_left_out : ¬∀ (before after : List StoredSource) (x : StoredSource) (e : Error)
    (t : Stage), halfShop.source.tables = before ++ x :: after →
    (lifecycle .run ⟨1, 1, 3⟩ "shop").run.run (Stage.fated userless) halfShop =
      (some (.error e), t) → verdict userless ⟨1, 1, 3⟩ "shop" halfShop x = some (.error e) →
    ∀ y ∈ before, t.warehouse.has (tableName "shop" y.name) = true := by
  intro h
  have hrun : ((lifecycle .run ⟨1, 1, 3⟩ "shop").run.run (Stage.fated userless) halfShop).1 =
      some (.error (.bulkCopyFailure "shop__users" (.execution (.statement .refused)))) := by
    with_unfolding_all rfl
  have hthere := h (halfShop.source.tables.take 2) (halfShop.source.tables.drop 3) _ _ _ rfl
    (Prod.ext hrun rfl) verdict_users halfShop.source.tables[1] (by decide)
  have habsent : ((lifecycle .run ⟨1, 1, 3⟩ "shop").run.run (Stage.fated userless)
      halfShop).2.warehouse.has (tableName "shop" "scratch") = false := by decide +kernel
  cases habsent.symm.trans hthere

end Replica
end Granary
