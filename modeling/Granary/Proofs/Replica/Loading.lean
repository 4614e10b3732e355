import Granary.Proofs.Replica.Copying
import Granary.Proofs.Replica.Machine
import Granary.Proofs.Replica.Naming
import Mathlib.Algebra.GroupWithZero.Nat

/-!
# A first run replicates its source

Each task creates the replica of its own source table (`performs_loadTask`), and distinct source
tables have distinct replicas, so the tasks of a first run are underway side by side.  With that,
`Division.inevitable` leads every order of them to the same tables and the same report.
-/

namespace Granary

namespace Rehearsal.Source

variable {source : Source} {t : StoredSource}

/-- A source that lists its tables, each under the one name that no other has. -/
structure Plain (source : Source) : Prop where
  listed : source.listed = none
  described : ∀ t ∈ source.tables, t.describedAs = none
  names : (source.tables.map (·.name)).Nodup

theorem Plain.describe (h : source.Plain) (ht : t ∈ source.tables) :
    source.describe t.name = .ok t.description := by
  rw [Source.describe, Named.find?_of_nodup h.names ht]

theorem Plain.rowsOf (h : source.Plain) (ht : t ∈ source.tables) :
    source.rowsOf t.name = .ok t.rows := by
  have hsame : ∀ x ∈ source.tables, x.describedName = x.name := fun x hx => by
    rw [StoredSource.describedName, h.described x hx, Option.getD_none]
  have hnodup : (source.tables.map (·.describedName)).Nodup :=
    List.map_congr_left hsame ▸ h.names
  rw [Source.rowsOf, ← hsame t ht, Named.find?_of_nodup hnodup ht]

end Rehearsal.Source

namespace Replica

open Program (Division Pool)
open Rehearsal (Cursor Loader Source Stage StoredSource StoredTable Warehouse)

variable {connection : String} {pace : Pace} {origin s t : Stage}

/-! ## Calls before and after the tables -/

/-- A first run finds no tables of its connection and opens a task for each source table. -/
theorem run_tasks (pace : Pace) (hs : Calm origin s) (hlisted : s.source.listed = none)
    (hfree : s.warehouse.startingWith (stem connection) = []) :
    ∃ trace, (tasks .run pace connection).run.run Stage.handle s =
      (some (.ok (s.source.tables.map fun x => (loadTask pace connection x.name).run)),
        { s with trace }) := by
  have htables : (Attempt.listTables (stem connection)).run.run Stage.handle s =
      (some (.ok []), { s with trace := s.trace ++ [⟨.listTables (stem connection), 0⟩] }) := by
    rw [← hfree]
    exact congrArg (fun r : Except Error (List String) × Stage => (some r.1, r.2))
      (attempt_of_calm hs _ _ _ _)
  have hs' : Calm origin { s with trace := s.trace ++ [⟨.listTables (stem connection), 0⟩] } :=
    ⟨hs.source, hs.failures, hs.leases, hs.ordered⟩
  generalize s.trace ++ [⟨.listTables (stem connection), 0⟩] = trace at htables hs'
  have hsource : sourceTables.run.run Stage.handle { s with trace } =
      (some (.ok (s.source.tables.map (·.name))),
        { s with trace := trace ++ [⟨.listSource, 0⟩] }) := by
    have hlist : s.source.list = s.source.tables.map (·.name) := by
      rw [Source.list, hlisted, Option.getD_none]
    rw [← hlist]
    exact congrArg (fun r : Except Error (List String) × Stage =>
      (some (r.1.mapError sourceFailure), r.2)) (attempt_of_calm hs' _ _ _ _)
  refine ⟨trace ++ [⟨.listSource, 0⟩], (Program.run_bind_ok htables).trans ?_⟩
  refine (Program.run_bind_ok hsource).trans ?_
  rw [List.map_map]
  rfl

/-- The databases once the lease of a connection has been taken. -/
def acquired (connection : String) (s : Stage) : Stage :=
  { s with leases := ⟨s.leases.held ++ [connection]⟩ }

theorem handle_acquire (hfree : s.leases.isHeld connection = false) :
    Stage.handle (.acquire connection) s = (.ok ⟨connection⟩, acquired connection s) := by
  rw [Stage.handle, Leases.acquire_of_free hfree, acquired]

/-- A lease that nobody holds is held, and given back. -/
theorem run_holding {α : Type} {p : Attempt Cursor Loader α} {a : α}
    (hfree : s.leases.isHeld connection = false)
    (hp : p.run.run Stage.handle (acquired connection s) = (some (.ok a), t)) :
    (Attempt.holding connection p).run.run Stage.handle s =
      (some (.ok a), { t with leases := t.leases.drop ⟨connection⟩ }) := by
  show Program.run Stage.handle (.ask (.acquire connection) _) s = _
  rw [Program.run, handle_acquire hfree]
  exact Program.run_bind hp

/-- Dropping a guard undoes the taking of its lease. -/
theorem drop_acquired {leases : Leases} (h : leases.isHeld connection = false) :
    Leases.drop ⟨leases.held ++ [connection]⟩ ⟨connection⟩ = leases := by
  have hkeep : leases.held.filter (· != connection) = leases.held := by
    refine List.filter_eq_self.2 fun name hname => ?_
    rw [bne_iff_ne]
    rintro rfl
    rw [Leases.isHeld, List.contains_iff_mem.2 hname] at h
    cases h
  rw [Leases.drop, List.filter_append, hkeep]
  simp

/-! ## Tables -/

/-- What is to come of the task of a source table. -/
def loading (connection : String) (x : StoredSource) :
    Division.Job String (Option StoredTable) (Option TableReport) :=
  ⟨tableName connection x.name, loaded? connection x, replica? connection x⟩

theorem nodup_owners (hname : isName connection = true) {tables : List StoredSource}
    (h : (tables.map (·.name)).Nodup) :
    ((tables.map (loading connection)).map (·.owner)).Nodup := by
  have howners : (tables.map (loading connection)).map (·.owner) =
      (tables.map (·.name)).map (tableName connection) := by
    rw [List.map_map, List.map_map]
    rfl
  rw [howners]
  exact List.Nodup.map (fun _ _ hsame => (tableName_inj hname hname hsame).2) h

theorem table?_of_startingWith {u : Warehouse} (hfree : u.startingWith (stem connection) = [])
    (x : String) : u.table? (tableName connection x) = none := by
  refine Option.not_isSome_iff_eq_none.1 fun hthere => ?_
  have hmem := Warehouse.mem_startingWith.2 ⟨under_tableName connection x, hthere⟩
  rw [hfree] at hmem
  cases hmem

/-- The tasks of some source tables are underway where none of their replicas is there. -/
theorem underway_loading (pace : Pace) (origin s : Stage) (hplain : origin.source.Plain)
    (hnew : ∀ x, s.warehouse.table? (tableName connection x) = none) {tables : List StoredSource}
    (htables : ∀ x ∈ tables, x ∈ origin.source.tables ∧ x.rows.length < pace.fetches) :
    ∃ n, (byTable origin).Underway s (tables.map fun x => (loadTask pace connection x.name).run)
      (tables.map (loading connection)) n := by
  induction tables with
  | nil => exact ⟨0, .nil⟩
  | cons x rest ih =>
    rw [List.forall_mem_cons] at htables
    obtain ⟨⟨hmem, hfetches⟩, hrest⟩ := htables
    obtain ⟨n, hn⟩ := ih hrest
    obtain ⟨k, hk⟩ := performs_loadTask connection (hplain.described x hmem)
      (hplain.describe hmem) (hplain.rowsOf hmem) hfetches
    have hview : (byTable origin).view (loading connection x).owner s = none := hnew x.name
    exact ⟨k + 1 + n, .cons (hview ▸ hk) hn⟩

/-- Tasks that are underway come to the same end when they are run one after another. -/
theorem run_inOrder {ts : List (Task Cursor Loader)}
    {jobs : List (Division.Job String (Option StoredTable) (Option TableReport))} {n : Nat}
    (h : (byTable origin).Underway s ts jobs n) (hnodup : (jobs.map (·.owner)).Nodup)
    (hs : Calm origin s) :
    ∃ t, (inOrder (ts.map .mk)).run.run Stage.handle s =
        (some (.ok (jobs.filterMap (·.result))), t) ∧
      (byTable origin).Finished s jobs ((⟨jobs.map (·.result), [], []⟩ :
        Pool (Call Cursor Loader) Answer Error (Option TableReport)), t) := by
  induction ts generalizing s jobs n with
  | nil =>
    cases h
    exact ⟨s, rfl, rfl, hs, fun _ hjob => absurd hjob List.not_mem_nil, fun _ _ => rfl⟩
  | cons task rest ih =>
    cases h with
    | @cons _ _ job jobs k n hdoes hrest =>
      rw [List.map_cons, List.nodup_cons] at hnodup
      obtain ⟨u, hrun, hu, huview, huothers⟩ := hdoes.run (fun _ _ _ _ => Iff.rfl) hs rfl
      have hunderway : (byTable origin).Underway u rest jobs n := by
        refine hrest.congr fun other hother => huothers other.owner fun hsame => ?_
        exact hnodup.1 (hsame ▸ List.mem_map_of_mem hother)
      obtain ⟨t, hrun', hfinished⟩ := ih hunderway hnodup.2 hu
      refine ⟨t, ?_, rfl, hfinished.inv, List.forall_mem_cons.2 ⟨?_, hfinished.final⟩,
        fun j hj => ?_⟩
      · refine (Program.run_bind_ok (x := .mk task) hrun).trans ?_
        refine (Program.run_bind_ok hrun').trans ?_
        cases hresult : job.result <;> simp [hresult] <;> rfl
      · exact (hfinished.others _ hnodup.1).trans huview
      · rw [List.map_cons, List.mem_cons, not_or] at hj
        exact (hfinished.others j hj.2).trans (huothers j hj.1)

/-! ## A first run -/

/-- The report of a first run. -/
def runReport (connection : String) (source : Source) : Report :=
  ⟨connection, .run, source.tables.filterMap (loaded? connection)⟩

theorem totalRows_runReport (connection : String) (source : Source) :
    (runReport connection source).totalRows =
      ((source.tables.filter fun x => !x.columns.isEmpty).map (·.rows.length)).sum := by
  show (((source.tables.filterMap (loaded? connection)).map (·.rows)).foldr (· + ·) 0) = _
  induction source.tables with
  | nil => rfl
  | cons x rest ih =>
    by_cases hempty : x.columns.isEmpty = true
    · simpa [loaded?, hempty] using ih
    · simpa [loaded?, hempty, TableReport.copied] using ih

/-- The warehouse has the replica of each source table, and all else is as it was. -/
structure Replicated (connection : String) (s t : Stage) : Prop where
  replicas : ∀ x ∈ s.source.tables,
    t.warehouse.table? (tableName connection x.name) = replica? connection x
  others : ∀ name, (∀ x ∈ s.source.tables, name ≠ tableName connection x.name) →
    t.warehouse.table? name = s.warehouse.table? name
  ordered : s.warehouse.Ordered → t.warehouse.Ordered
  source : t.source = s.source
  leases : t.leases = s.leases

section

variable {u : Stage} {n : Nat}

/-- Once all tasks have finished, giving back the lease is all that is left. -/
theorem replicated_of_finished (hlease : s.leases.isHeld connection = false)
    {y : Pool (Call Cursor Loader) Answer Error (Option TableReport) × Stage}
    (hy : (byTable (acquired connection s)).Finished u (s.source.tables.map (loading connection)) y)
    (hwarehouse : u.warehouse = s.warehouse) :
    Replicated connection s { y.2 with leases := y.2.leases.drop ⟨connection⟩ } where
  replicas x hx := hy.final (loading connection x) (List.mem_map_of_mem hx)
  others name hname := by
    rw [← hwarehouse]
    refine hy.others name fun hmem => ?_
    rw [List.map_map] at hmem
    obtain ⟨x, hx, hsame⟩ := List.mem_map.1 hmem
    exact hname x hx hsame.symm
  ordered := hy.inv.ordered
  source := hy.inv.source
  leases := (congrArg (·.drop ⟨connection⟩) hy.inv.leases).trans (drop_acquired hlease)

/-- A first run whose tasks are underway once it has opened. -/
structure Opened (pace : Pace) (connection : String) (s u : Stage) (n : Nat) : Prop where
  lease : s.leases.isHeld connection = false
  names : ((s.source.tables.map (loading connection)).map (·.owner)).Nodup
  opening : (tasks .run pace connection).run.run Stage.handle (acquired connection s) =
    (some (.ok (s.source.tables.map fun x => (loadTask pace connection x.name).run)), u)
  calm : Calm (acquired connection s) u
  warehouse : u.warehouse = s.warehouse
  underway : (byTable (acquired connection s)).Underway u
    (s.source.tables.map fun x => (loadTask pace connection x.name).run)
    (s.source.tables.map (loading connection)) n

theorem results_loading (tables : List StoredSource) :
    (tables.map (loading connection)).filterMap (·.result) =
      tables.filterMap (loaded? connection) := by
  rw [List.filterMap_map]
  rfl

theorem Opened.inevitable (h : Opened pace connection s u n) (limit : Nat) :
    Inevitable
      (Lifecycle.Step .run pace connection (max limit 1) fun c s a t => Stage.handle c s = (a, t))
      (fun y => y.1 = .ended (.ok (runReport connection s.source)) ∧ Replicated connection s y.2)
      (.entering, s) := by
  have hlimit : 0 < max limit 1 := Nat.lt_of_lt_of_le Nat.zero_lt_one (Nat.le_max_right _ _)
  have hpool := Division.inevitable hlimit h.names h.calm h.underway
  refine .later ⟨_, .enter (handle_acquire h.lease)⟩ fun y hy => ?_
  cases hy with
  | refused hstep => cases (handle_acquire h.lease).symm.trans hstep
  | enter hstep =>
    cases (handle_acquire h.lease).symm.trans hstep
    refine Lifecycle.inevitable_of_opening h.opening (Lifecycle.inevitable_of_working hpool ?_)
    intro y hfinished
    refine .later ⟨_, .leave rfl⟩ fun z hz => .now ?_
    cases hz with
    | leave hstep =>
      cases hstep
      refine ⟨?_, replicated_of_finished h.lease hfinished h.warehouse⟩
      rw [results_loading]
      rfl

theorem Opened.run (hconnection : checkName connection = .ok ())
    (h : Opened pace connection s u n) :
    ∃ t, (lifecycle .run pace connection).run.run Stage.handle s =
      (some (.ok (runReport connection s.source)), t) ∧ Replicated connection s t := by
  obtain ⟨t, hrun, hfinished⟩ := run_inOrder h.underway h.names h.calm
  rw [results_loading] at hrun
  refine ⟨_, ?_, replicated_of_finished h.lease hfinished h.warehouse⟩
  have htables : (tables .run pace connection).run.run Stage.handle (acquired connection s) =
      (some (.ok (s.source.tables.filterMap (loaded? connection))), t) := by
    rw [tables_eq]
    exact (Program.run_bind_ok h.opening).trans hrun
  have hchecked : (liftM (checkName connection) : Attempt Cursor Loader Unit).run.run Stage.handle
      s = (some (.ok ()), s) := by
    rw [hconnection]
    rfl
  refine (Program.run_bind_ok hchecked).trans ?_
  refine (Program.run_bind_ok (run_holding h.lease htables)).trans ?_
  rfl

end

/-- Whatever tables there are and whatever the sizes of chunks and batches, a first run of a
connection that has no tables yet replicates its source when nothing fails: it reports every table
with columns, in the order of the source, and the warehouse has the replica of each and nothing else
that is new.  So it goes in every order of the tasks, however many of them run side by side, and
when they are run one after another.  Any allowance of fetches above the number of rows will do,
since no chunk but the last is empty. -/
theorem run_replicates (hconnection : checkName connection = .ok ())
    (hlease : s.leases.isHeld connection = false) (hfailures : s.failures = [])
    (hsource : s.source.Plain) (hfree : s.warehouse.startingWith (stem connection) = [])
    (hfetches : ∀ x ∈ s.source.tables, x.rows.length < pace.fetches) :
    (∀ limit, Inevitable
      (Lifecycle.Step .run pace connection (max limit 1) fun c s a t => Stage.handle c s = (a, t))
      (fun y => y.1 = .ended (.ok (runReport connection s.source)) ∧ Replicated connection s y.2)
      (Lifecycle.start connection, s)) ∧
    (∃ t, (lifecycle .run pace connection).run.run Stage.handle s =
      (some (.ok (runReport connection s.source)), t) ∧ Replicated connection s t) ∧
    (runReport connection s.source).totalRows =
      ((s.source.tables.filter fun x => !x.columns.isEmpty).map (·.rows.length)).sum := by
  have hcalm : Calm (acquired connection s) (acquired connection s) := ⟨rfl, hfailures, rfl, id⟩
  obtain ⟨trace, hopening⟩ := run_tasks pace hcalm hsource.listed hfree
  obtain ⟨n, hunderway⟩ := underway_loading pace (acquired connection s)
    { acquired connection s with trace } hsource (table?_of_startingWith hfree)
    fun x hx => ⟨hx, hfetches x hx⟩
  have hopened : Opened pace connection s { acquired connection s with trace } n :=
    ⟨hlease, nodup_owners (checkName_eq_ok_iff.1 hconnection) hsource.names, hopening,
      ⟨rfl, hfailures, rfl, id⟩, rfl, hunderway⟩
  have hstart : (Lifecycle.start connection : Lifecycle.State Cursor Loader) = .entering := by
    rw [Lifecycle.start, hconnection]
  refine ⟨fun limit => ?_, hopened.run hconnection, totalRows_runReport connection s.source⟩
  rw [hstart]
  exact hopened.inevitable limit

/-- A shop with three tables, one of them without columns, and a warehouse that has a table of
another shop. -/
def newShop : Stage where
  source := { tables := [
    { name := "orders", columns := [⟨"id", "int4", false, {}, 1⟩], primaryKey := ["id"],
      rows := [[some "1"], [some "2"], [some "3"]] },
    { name := "scratch", columns := [], primaryKey := [], rows := [] },
    { name := "users", columns := [⟨"name", "citext", true, {}, 1⟩], primaryKey := [],
      rows := [[some "Ada"]] }] }
  warehouse := { tables := [{ name := "shop-2__orders", rows := [[some "7"]] }] }

theorem run_replicates_newShop :
    (checkName "shop" = .ok () ∧ newShop.source.Plain ∧
      newShop.warehouse.startingWith (stem "shop") = []) ∧
    ∃ t, (lifecycle .run ⟨2, 2, 10⟩ "shop").run.run Stage.handle newShop =
        (some (.ok (runReport "shop" newShop.source)), t) ∧
      (t.warehouse.table? "shop__orders").map (·.rows) =
        some [[some "1"], [some "2"], [some "3"]] ∧
      t.warehouse.table? "shop__scratch" = none ∧
      (t.warehouse.table? "shop-2__orders").map (·.rows) = some [[some "7"]] ∧
      (runReport "shop" newShop.source).tables.map (·.table) = ["shop__orders", "shop__users"] ∧
      (runReport "shop" newShop.source).totalRows = 4 := by
  have hconnection : checkName "shop" = .ok () := checkName_eq_ok_iff.2 (by decide +kernel)
  have hsource : newShop.source.Plain := ⟨rfl, by decide, by decide⟩
  have hfree : newShop.warehouse.startingWith (stem "shop") = [] := by decide +kernel
  have hfetches : ∀ x ∈ newShop.source.tables, x.rows.length < (⟨2, 2, 10⟩ : Pace).fetches := by
    decide
  obtain ⟨_, ⟨t, hrun, ht⟩, htotal⟩ :=
    run_replicates (s := newShop) hconnection rfl rfl hsource hfree hfetches
  have horders := ht.replicas newShop.source.tables[0] (by decide)
  have hscratch := ht.replicas newShop.source.tables[1] (by decide)
  have hother := ht.others "shop-2__orders" (by decide +kernel)
  refine ⟨⟨hconnection, hsource, hfree⟩, t, hrun, ?_, ?_, ?_, by decide +kernel, htotal⟩
  · rw [show "shop__orders" = tableName "shop" "orders" by decide +kernel]
    exact congrArg (Option.map (·.rows)) horders
  · rw [show "shop__scratch" = tableName "shop" "scratch" by decide +kernel]
    exact hscratch
  · rw [hother]
    decide +kernel

end Replica
end Granary
