import Granary.Proofs.Replica.Clearing
import Granary.Proofs.Replica.Serial
import Granary.Proofs.Replica.Share

/-!
# Warehouses that loads have filled

A first run or a full refresh that succeeds leaves the replica of each of its source tables and no
other table of its connection (`Loaded`).  So the last loads of all connections account for a
warehouse: every table is of one source table with one entry of one report, and the other way
round.  `Booked` says so, and each load keeps it (`Booked.load`).
-/

namespace Granary.Replica

open Program (Runs)
open Program.Division (Charge)
open Rehearsal (Cursor Loader Stage StoredSource StoredTable Warehouse)

variable {connection : String} {mode : Mode} {pace : Pace} {s t : Stage} {report : Report}

/-! ## One load -/

/-- What a load leaves, with its report. -/
structure Loaded (connection : String) (s : Stage) (report : Report) (t : Stage) : Prop
    extends Cleared connection s t where
  valid : isName connection = true
  plain : s.source.Plain
  owner : report.connection = connection
  tables : report.tables = s.source.tables.filterMap (loaded? connection)
  replicas : ∀ x ∈ s.source.tables,
    t.warehouse.table? (tableName connection x.name) = replica? connection x

theorem eq_map_of_forall₂ {α β : Type} {f : α → β} {xs : List α} {ys : List β}
    (h : List.Forall₂ (fun x y => y = f x) xs ys) : ys = xs.map f := by
  induction h with
  | nil => rfl
  | cons h _ ih => rw [List.map_cons, h, ih]

/-- A task that has ended well has made the replica of its source table. -/
theorem loaded_of_met {failure : Error → Prop} {x : StoredSource} {result : Option TableReport}
    (h : (attending failure connection x).Met (byHolding Stage.Unreliable s) t result) :
    result = loaded? connection x ∧
      t.warehouse.table? (tableName connection x.name) = replica? connection x := by
  obtain ⟨hreport, hview⟩ := h
  refine ⟨hreport, (congrArg Holding.table hview).trans ?_⟩
  by_cases hempty : x.columns.isEmpty = true
  · rw [if_pos hempty, replica?, if_pos hempty]
  · rw [if_neg hempty, replica?_of_columns (Bool.eq_false_iff.2 hempty)]

theorem loaded_of_concluded {failure : Error → Prop} (hname : isName connection = true)
    (hplain : s.source.Plain) {outcome : Except Error (List (Option TableReport))}
    (h : (byHolding Stage.Unreliable s).Concluded
      (s.source.tables.map (attending failure connection)) t outcome)
    (hcleared : Cleared connection s t)
    (hreport : (outcome.map (·.flatMap Option.toList)).map
      (fun reports => (⟨connection, mode, reports⟩ : Report)) = .ok report) :
    Loaded connection s report t := by
  obtain ⟨results, rfl, hmet⟩ | ⟨_, _, _, _, _, _, rfl, _⟩ := h.of_map
  · obtain rfl := Except.ok.inj hreport
    have hresults : results = s.source.tables.map (loaded? connection) :=
      eq_map_of_forall₂ (hmet.imp fun _ _ hx => (loaded_of_met hx).1)
    refine ⟨hcleared, hname, hplain, rfl, ?_, fun x hx => ?_⟩
    · show results.flatMap Option.toList = _
      rw [hresults, List.filterMap_eq_flatMap_toList, List.flatMap_map]
    · obtain ⟨result, hx⟩ := Program.Division.exists_of_forall₂ hmet hx
      exact (loaded_of_met hx).2
  · cases hreport

/-- A lifecycle succeeds, with its tables one after another or side by side. -/
inductive Succeeds (mode : Mode) (pace : Pace) (connection : String) (s : Stage) (report : Report)
    (t : Stage) : Prop where
  | sequential (h : Runs Stage.Unreliable (lifecycle mode pace connection).run s
      (some (.ok report)) t)
  | concurrent {limit : Nat} (h : Lifecycle.Reached mode pace connection limit Stage.Unreliable s
      (.ended (.ok report), t))

theorem Succeeds.loaded (h : Succeeds mode pace connection s report t) (hmode : mode ≠ .refresh)
    (hplain : s.source.Plain) (hfetches : ∀ x ∈ s.source.tables, x.rows.length < pace.fetches) :
    Loaded connection s report t := by
  have hbound : Lifecycle.Bound (byHolding Stage.Unreliable s) mode pace connection
      (fun outcome t => ∀ report, outcome = .ok report → Loaded connection s report t)
      (Lifecycle.start connection, s) :=
    bound_of_attending answering_unreliable covers_any hmode hplain hfetches
      (fun _ _ _ _ hok => nomatch hok)
      fun hname outcome t h hcleared report => loaded_of_concluded hname hplain h hcleared
  cases h with
  | sequential h =>
    have hleads : (lifecycle mode pace connection).run.Leads Stage.Unreliable _ s :=
      Lifecycle.leads_of_inevitable (hbound.inevitable Nat.zero_lt_one)
    exact hleads.result h report rfl
  | concurrent h => exact hbound.of_reached h report rfl

/-! ## All loads -/

/-- A warehouse that had no replicas has been filled by first runs and full refreshes that
succeeded; of each connection the last report is kept. -/
inductive Filled : Warehouse → List Report → Prop where
  | bare {w : Warehouse} (hordered : w.Ordered)
      (hbare : ∀ t ∈ w.tables, Text.cut separator t.name = none) : Filled w []
  | load {loads : List Report} {mode : Mode} {pace : Pace} {connection : String} {s t : Stage}
      {report : Report} (h : Filled s.warehouse loads) (hmode : mode ≠ .refresh)
      (hplain : s.source.Plain) (hfetches : ∀ x ∈ s.source.tables, x.rows.length < pace.fetches)
      (hload : Succeeds mode pace connection s report t) :
      Filled t.warehouse (loads.filter (·.connection != connection) ++ [report])

/-- A table and the entry of a report are of one source table. -/
def OfOne (connection : String) (entry : TableReport) (t : StoredTable) : Prop :=
  ∃ x : StoredSource, x.describedAs = none ∧ loaded? connection x = some entry ∧
    replica? connection x = some t

/-- The entries of the reports and the tables of a warehouse go together. -/
structure Booked (w : Warehouse) (loads : List Report) : Prop where
  ordered : w.Ordered
  valid : ∀ r ∈ loads, isName r.connection = true
  connections : (loads.map (·.connection)).Nodup
  distinct : ∀ r ∈ loads, (r.tables.map (·.table)).Nodup
  entries : ∀ r ∈ loads, ∀ entry ∈ r.tables, ∃ t ∈ w.tables, OfOne r.connection entry t
  tables : ∀ t ∈ w.tables, Text.cut separator t.name ≠ none →
    ∃ r ∈ loads, ∃ entry ∈ r.tables, OfOne r.connection entry t

variable {x : StoredSource} {entry : TableReport} {table : StoredTable}

theorem exists_loaded (h : replica? connection x = some table) :
    ∃ entry, loaded? connection x = some entry := by
  by_cases hempty : x.columns.isEmpty = true
  · rw [replica?, if_pos hempty] at h
    cases h
  · exact ⟨_, if_neg hempty⟩

theorem exists_replica (h : loaded? connection x = some entry) :
    ∃ table, replica? connection x = some table := by
  by_cases hempty : x.columns.isEmpty = true
  · rw [loaded?, if_pos hempty] at h
    cases h
  · exact ⟨_, if_neg hempty⟩

theorem name_of_replica? (h : replica? connection x = some table) :
    table.name = tableName connection x.name := by
  by_cases hempty : x.columns.isEmpty = true
  · rw [replica?, if_pos hempty] at h
    cases h
  · rw [replica?_of_columns (Bool.eq_false_iff.2 hempty)] at h
    rw [← Option.some.inj h]
    rfl

theorem table_of_loaded? (h : loaded? connection x = some entry) :
    entry.table = tableName connection x.name := by
  by_cases hempty : x.columns.isEmpty = true
  · rw [loaded?, if_pos hempty] at h
    cases h
  · rw [loaded?, if_neg hempty] at h
    rw [← Option.some.inj h]
    rfl

theorem OfOne.under (h : OfOne connection entry table) : Under connection table.name := by
  obtain ⟨x, _, _, hreplica⟩ := h
  rw [name_of_replica? hreplica]
  exact under_tableName connection x.name

theorem OfOne.name (h : OfOne connection entry table) : table.name = entry.table := by
  obtain ⟨x, _, hentry, hreplica⟩ := h
  rw [name_of_replica? hreplica, table_of_loaded? hentry]

/-- The entries of a report are of different tables. -/
theorem Loaded.distinct (h : Loaded connection s report t) :
    (report.tables.map (·.table)).Nodup := by
  have hsublist : ∀ tables : List StoredSource,
      ((tables.filterMap (loaded? connection)).map (·.table)).Sublist
        (tables.map fun x => tableName connection x.name) := by
    intro tables
    induction tables with
    | nil => exact .slnil
    | cons x rest ih =>
      cases hentry : loaded? connection x with
      | none =>
        rw [List.filterMap_cons_none hentry]
        exact ih.cons _
      | some entry =>
        rw [List.filterMap_cons_some hentry, List.map_cons, List.map_cons, table_of_loaded? hentry]
        exact ih.cons_cons _
  have hnames : (s.source.tables.map fun x => tableName connection x.name).Nodup := by
    have howners := nodup_owners h.valid h.plain.names
    rw [List.map_map] at howners
    exact howners
  rw [h.tables]
  exact hnames.sublist (hsublist _)

theorem Loaded.exists_table (h : Loaded connection s report t) (hentry : entry ∈ report.tables) :
    ∃ table ∈ t.warehouse.tables, OfOne connection entry table := by
  rw [h.tables] at hentry
  obtain ⟨x, hx, hentry⟩ := List.mem_filterMap.1 hentry
  obtain ⟨table, hreplica⟩ := exists_replica hentry
  have htable := (h.replicas x hx).trans hreplica
  exact ⟨table, List.mem_of_find?_eq_some htable, x, h.plain.described x hx, hentry, hreplica⟩

theorem Loaded.exists_entry (h : Loaded connection s report t)
    (hunder : Under connection table.name) (htable : t.warehouse.table? table.name = some table) :
    ∃ entry ∈ report.tables, OfOne connection entry table := by
  obtain ⟨name, hname⟩ := under_iff.1 hunder
  rw [hname] at htable
  by_cases hsource : ∃ x ∈ s.source.tables, x.name = name
  · obtain ⟨x, hx, rfl⟩ := hsource
    have hreplica := (h.replicas x hx).symm.trans htable
    obtain ⟨entry, hentry⟩ := exists_loaded hreplica
    refine ⟨entry, ?_, x, h.plain.described x hx, hentry, hreplica⟩
    rw [h.tables]
    exact List.mem_filterMap.2 ⟨x, hx, hentry⟩
  · -- A table of the connection that is of no source table would have been cleared away.
    have habsent := h.absent name fun x hx hsame => hsource ⟨x, hx, hsame⟩
    cases habsent.symm.trans htable

/-- What is on the books after a load: the report, and what it has not replaced. -/
theorem Booked.load {loads : List Report} (h : Booked s.warehouse loads)
    (hload : Loaded connection s report t) :
    Booked t.warehouse (loads.filter (·.connection != connection) ++ [report]) := by
  have hordered := hload.ordered h.ordered
  have hkept : ∀ r ∈ loads.filter (·.connection != connection),
      r ∈ loads ∧ r.connection ≠ connection := fun r hr => by
    rw [List.mem_filter, bne_iff_ne] at hr
    exact hr
  refine ⟨hordered, ?_, ?_, ?_, ?_, fun table htable hcut => ?_⟩
  · rw [List.forall_mem_append, List.forall_mem_singleton, hload.owner]
    exact ⟨fun r hr => h.valid r (hkept r hr).1, hload.valid⟩
  · rw [List.map_append, List.nodup_append]
    refine ⟨h.connections.sublist (List.filter_sublist.map _), List.nodup_singleton _, ?_⟩
    rintro c hc _ hreport rfl
    obtain ⟨r, hr, rfl⟩ := List.mem_map.1 hc
    exact (hkept r hr).2 ((List.mem_singleton.1 hreport).trans hload.owner)
  · rw [List.forall_mem_append, List.forall_mem_singleton]
    exact ⟨fun r hr => h.distinct r (hkept r hr).1, hload.distinct⟩
  · rw [List.forall_mem_append, List.forall_mem_singleton]
    refine ⟨fun r hr entry hentry => ?_, fun entry hentry => ?_⟩
    · obtain ⟨hr, hne⟩ := hkept r hr
      obtain ⟨table, htable, hone⟩ := h.entries r hr entry hentry
      have hother : ¬Under connection table.name := fun hunder => by
        obtain ⟨x, _, _, hreplica⟩ := hone
        rw [name_of_replica? hreplica] at hunder
        exact hne ((under_tableName_iff hload.valid (h.valid r hr)).1 hunder).symm
      refine ⟨table, hordered.mem_iff.2 ?_, hone⟩
      rw [hload.others _ hother]
      exact h.ordered.mem_iff.1 htable
    · rw [hload.owner]
      exact hload.exists_table hentry
  · have hthere := hordered.mem_iff.1 htable
    by_cases hunder : Under connection table.name
    · obtain ⟨entry, hentry, hone⟩ := hload.exists_entry hunder hthere
      exact ⟨report, by simp, entry, hentry, hload.owner.symm ▸ hone⟩
    · rw [hload.others _ hunder] at hthere
      obtain ⟨r, hr, entry, hentry, hone⟩ := h.tables table (h.ordered.mem_iff.2 hthere) hcut
      have hne : r.connection ≠ connection := fun hsame => hunder (hsame ▸ hone.under)
      exact ⟨r, by simp [hr, hne], entry, hentry, hone⟩

theorem Filled.booked {w : Warehouse} {loads : List Report} (h : Filled w loads) :
    Booked w loads := by
  induction h with
  | bare hordered hbare =>
    exact ⟨hordered, nofun, .nil, nofun, nofun, fun t ht hcut => absurd (hbare t ht) hcut⟩
  | load _ hmode hplain hfetches hload ih => exact ih.load (hload.loaded hmode hplain hfetches)

end Granary.Replica
