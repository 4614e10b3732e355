import Granary.Proofs.Replica.Refilling
import Granary.Proofs.Replica.Serial

/-!
# A refresh in which calls fail

A refresh goes on past a table that fails.  Once it has its lease and the names of the source tables
it always comes to a report, each table being reported and left as it is by its task alone
(`Refreshed`).
-/

namespace Granary

/-- What a table has beside its rows. -/
def Rehearsal.StoredTable.shape (t : Rehearsal.StoredTable) :
    List Schema.ColumnRecord × List String :=
  (t.columns, t.primaryKey)

namespace Replica

open Program (Division)
open Program.Division (Charge)
open Rehearsal (Breakdown Cursor Failure Indexed Loader Stage StoredSource StoredTable)

variable {fate : Call Cursor Loader → List (Failure Breakdown)} {pace : Pace}
  {connection : String} {s t : Indexed} {x : StoredSource}

theorem Refreshes.shape {report : Option TableReport} {v : Option StoredTable}
    (h : Refreshes fate connection s x report v) :
    v.map StoredTable.shape = (replica connection s x).map StoredTable.shape := by
  cases h with
  | skipped | unchecked => rfl
  | undescribed hold | uncopied hold => rw [hold]
  | refreshed hold =>
    rw [hold]
    rfl

/-- What a refresh reports and leaves. -/
structure Refreshed (fate : Call Cursor Loader → List (Failure Breakdown)) (pace : Pace)
    (connection : String) (s : Indexed) (reports : List TableReport) (t : Indexed) : Prop where
  /-- Each table is reported once or not at all, in the order of the source, as if it were alone. -/
  reports : reports = s.stage.source.tables.filterMap fun x =>
    (solo fate pace connection s x).1.join
  alone : ∀ x ∈ s.stage.source.tables,
    replica connection t x = replica connection (solo fate pace connection s x).2 x
  outcomes : ∀ x ∈ s.stage.source.tables, Refreshes fate connection s x
    (solo fate pace connection s x).1.join (replica connection t x)
  others : ∀ name, (∀ x ∈ s.stage.source.tables, name ≠ tableName connection x.name) →
    t.stage.warehouse.table? name = s.stage.warehouse.table? name
  shapes : ∀ name, (t.stage.warehouse.table? name).map StoredTable.shape =
    (s.stage.warehouse.table? name).map StoredTable.shape
  indexes : t.indexes = s.indexes
  relations : t.relations = s.relations
  source : t.stage.source = s.stage.source

/-- What is listed entry by entry is listed from the entries. -/
theorem flatMap_of_forall₂ {α β : Type} {f : α → Option β} {entries : List α}
    {results : List (Option β)} (h : List.Forall₂ (fun x result => f x = result) entries results) :
    results.flatMap Option.toList = entries.filterMap f := by
  induction h with
  | nil => rfl
  | @cons x result entries results hx _ ih =>
    rw [List.flatMap_cons, ih, List.filterMap_cons, hx]
    cases result <;> rfl

/-- Tasks that have met what is known of them leave what they leave alone. -/
theorem refreshed_of_met {results : List (Option TableReport)}
    (hmet : List.Forall₂ (fun x => (refreshing fate pace connection s x).Met (byRefill fate s) t)
      s.stage.source.tables results)
    (hinv : (byRefill fate s).inv t)
    (hothers : ∀ name, (∀ x ∈ s.stage.source.tables, name ≠ tableName connection x.name) →
      t.stage.warehouse.table? name = s.stage.warehouse.table? name) :
    Refreshed fate pace connection s (results.flatMap Option.toList) t := by
  have hall : ∀ x ∈ s.stage.source.tables, Refreshes fate connection s x
      (solo fate pace connection s x).1.join (replica connection t x) ∧
      replica connection t x = replica connection (solo fate pace connection s x).2 x := by
    intro x hx
    obtain ⟨_, report, _, houtcome, hsolo, halone⟩ := Division.exists_of_forall₂ hmet hx
    rw [hsolo]
    exact ⟨houtcome, halone.symm⟩
  refine ⟨?_, fun x hx => (hall x hx).2, fun x hx => (hall x hx).1, hothers, fun name => ?_,
    hinv.2.1, hinv.2.2, hinv.1⟩
  · refine flatMap_of_forall₂ (hmet.imp fun x result h => ?_)
    obtain ⟨report, hresult, _, hsolo, _⟩ := h
    cases hresult
    rw [hsolo]
    rfl
  · by_cases hname : ∃ x ∈ s.stage.source.tables, name = tableName connection x.name
    · obtain ⟨x, hx, rfl⟩ := hname
      exact (hall x hx).1.shape
    · rw [hothers name fun x hx hsame => hname ⟨x, hx, hsame⟩]

/-- The tasks can be attended once the source has been listed, and when they have come to something
the lease is given back. -/
theorem ready_refreshing {u : Indexed} {guard : Guard} (hname : isName connection = true)
    (hplain : s.stage.source.Plain)
    (hfetches : ∀ x ∈ s.stage.source.tables, x.rows.length < pace.fetches)
    (hu : (byRefill fate s).inv u) (hwarehouse : u.stage.warehouse = s.stage.warehouse) :
    Lifecycle.Ready (byRefill fate s) .refresh connection
      (fun outcome t => ∃ reports, outcome = .ok ⟨connection, .refresh, reports⟩ ∧
        Refreshed fate pace connection s reports t) guard
      (.ok ((s.stage.source.tables.map (·.name)).map fun table =>
        (ExceptT.lift (refreshTask pace connection table)).run)) u := by
  refine ⟨s.stage.source.tables.map (refreshing fate pace connection s),
    nodup_charges hname (fun _ => rfl) hplain.names, hu, ?_, fun outcome t hconcluded ht hothers =>
      ⟨⟨_, rfl⟩, fun v hv => ?_⟩⟩
  · rw [List.map_map, List.forall₂_map_left_iff, List.forall₂_map_right_iff, List.forall₂_same]
    intro x hx
    have hview : (byRefill fate s).view (refreshing fate pace connection s x).owner u =
        replica connection s x := congrArg (·.table? (tableName connection x.name)) hwarehouse
    rw [Charge.Held, hview]
    exact tends_refreshing hplain hx (hfetches x hx)
  · obtain ⟨results, rfl, hmet⟩ | ⟨_, _, _, _, _, _, _, _, hfailed, _⟩ := hconcluded.of_map
    · have hrefreshed := refreshed_of_met hmet ht fun name hfree => ?_
      · cases hv
        exact ⟨_, rfl, hrefreshed.reports, hrefreshed.alone, hrefreshed.outcomes, hrefreshed.others,
          hrefreshed.shapes, hrefreshed.indexes, hrefreshed.relations, hrefreshed.source⟩
      · refine (hothers name fun hmem => ?_).trans (congrArg (·.table? name) hwarehouse)
        rw [List.map_map] at hmem
        obtain ⟨x, hx, hsame⟩ := List.mem_map.1 hmem
        exact hfree x hx hsame.symm
    · obtain ⟨_, he, _⟩ := hfailed
      cases he

theorem bound_refreshed (hconnection : checkName connection = .ok ())
    (hlease : s.stage.leases.isHeld connection = false) (hplain : s.stage.source.Plain)
    (hfetches : ∀ x ∈ s.stage.source.tables, x.rows.length < pace.fetches)
    (hlisted : ∃ names, (Indexed.fated fate .listSource s).1 = .ok names) :
    Lifecycle.Bound (byRefill fate s) .refresh pace connection
      (fun outcome t => ∃ reports, outcome = .ok ⟨connection, .refresh, reports⟩ ∧
        Refreshed fate pace connection s reports t)
      (Lifecycle.start connection, s) := by
  have hname := checkName_eq_ok_iff.1 hconnection
  have hacquire : Indexed.fated fate (.acquire connection) s = _ := fated_acquire hlease
  obtain ⟨names, hnames⟩ := hlisted
  rw [Lifecycle.start, hconnection]
  refine ⟨⟨_, _, rfl⟩, fun guard u hu => ?_, fun e u hu => ?_⟩
  · cases hacquire.symm.trans hu
    refine ⟨⟨_, _, rfl⟩, fun answer u hu => ?_⟩
    obtain ⟨hsource, hwarehouse, hindexes, hrelations, htold⟩ := fated_listSource hu
    have hanswer : (Indexed.fated fate .listSource s).1 = answer := answer_listSource hu rfl
    obtain rfl : answer = .ok names := hanswer.symm.trans hnames
    obtain rfl : names = s.stage.source.tables.map (·.name) := by
      rw [htold names rfl, Rehearsal.Source.list]
      exact congrArg (·.getD (s.stage.source.tables.map (·.name))) hplain.listed
    exact ready_refreshing hname hplain hfetches ⟨hsource, hindexes, hrelations⟩ hwarehouse
  · cases hacquire.symm.trans hu

/-- Once a refresh has its lease and the names of the source tables, it ends with a report, whatever
fails then.  No table comes or goes, and nothing of it but its rows changes, nor do indexes and
other relations.  Each source table fares as its task does by itself where no other call fails:
without a table or without columns it is left out unless that cannot be found out, and otherwise it
is reported once, in the order of the source, as refreshed with exactly its rows or as failed with
the table as it was.  So it goes in every order of the tasks, however many of them run side by side,
and one after another. -/
theorem refresh_contains_failures (hconnection : checkName connection = .ok ())
    (hlease : s.stage.leases.isHeld connection = false) (hplain : s.stage.source.Plain)
    (hfetches : ∀ x ∈ s.stage.source.tables, x.rows.length < pace.fetches)
    (hlisted : ∃ names, (Indexed.fated fate .listSource s).1 = .ok names) :
    (∀ limit, Inevitable
      (Lifecycle.Step .refresh pace connection (max limit 1)
        fun c s answer t => Indexed.fated fate c s = (answer, t))
      (fun y => ∃ reports, y.1 = .ended (.ok ⟨connection, .refresh, reports⟩) ∧
        Refreshed fate pace connection s reports y.2)
      (Lifecycle.start connection, s)) ∧
    ∃ reports t, (lifecycle .refresh pace connection).run.run (Indexed.fated fate) s =
        (some (.ok ⟨connection, .refresh, reports⟩), t) ∧
      Refreshed fate pace connection s reports t := by
  obtain ⟨hevery, outcome, t, hserial, reports, rfl, hrefreshed⟩ :=
    (bound_refreshed hconnection hlease hplain hfetches hlisted).ends rfl
  refine ⟨fun limit => (hevery limit).trans fun y hy => .now ?_, reports, t, hserial, hrefreshed⟩
  obtain ⟨outcome, hend, reports, rfl, hrefreshed⟩ := hy
  exact ⟨reports, hend, hrefreshed⟩

/-- The shop whose users cannot be written, with a warehouse that lacks the visits. -/
def partShop : Indexed where
  stage := {
    source := halfShop.source
    warehouse := { tables := [
      { name := "shop__orders", rows := [[some "7"], [some "8"]], primaryKey := ["id"] },
      { name := "shop__scratch" }, { name := "shop__users", rows := [[some "Bob"]] }] } }
  indexes := [⟨"idx_shop__orders_id_num", "shop__orders", "id"⟩]

theorem refresh_of_partShop :
    (checkName "shop" = .ok () ∧ partShop.stage.source.Plain ∧
      ∃ names, (Indexed.fated userless .listSource partShop).1 = .ok names) ∧
    ∃ reports t, (lifecycle .refresh ⟨1, 1, 3⟩ "shop").run.run (Indexed.fated userless) partShop =
        (some (.ok ⟨"shop", .refresh, reports⟩), t) ∧
      reports.map (fun r => (r.sourceTable, r.rows, r.status)) =
        [("orders", 1, .refreshed), ("users", 0, .failed)] ∧
      replica "shop" t partShop.stage.source.tables[0] =
        some {
          name := "shop__orders", rows := [[some "1"]], primaryKey := ["id"], refreshed := 1 } ∧
      replica "shop" t partShop.stage.source.tables[2] =
        replica "shop" partShop partShop.stage.source.tables[2] ∧
      t.indexes = partShop.indexes := by
  have hconnection : checkName "shop" = .ok () := checkName_eq_ok_iff.2 (by decide +kernel)
  have hplain : partShop.stage.source.Plain := ⟨rfl, by decide, by decide⟩
  have hlisted : ∃ names, (Indexed.fated userless .listSource partShop).1 = .ok names := ⟨_, rfl⟩
  have hfetches : ∀ x ∈ partShop.stage.source.tables, x.rows.length < Pace.fetches ⟨1, 1, 3⟩ := by
    decide
  obtain ⟨_, reports, t, hrun, ht⟩ :=
    refresh_contains_failures hconnection rfl hplain hfetches hlisted
  refine ⟨⟨hconnection, hplain, hlisted⟩, reports, t, hrun, ?_, ?_, ?_, ht.indexes⟩
  · rw [ht.reports]
    with_unfolding_all rfl
  · rw [ht.alone _ (by decide)]
    with_unfolding_all rfl
  · rw [ht.alone _ (by decide)]
    with_unfolding_all rfl

end Replica
end Granary
