import Granary.Proofs.Replica.Filling
import Granary.Proofs.Replica.Stats
import Granary.Rehearsal.Description
import Mathlib.Algebra.BigOperators.Group.List.Basic

/-!
# The statistics of a warehouse that loads have filled

A report is made from the columns that a table is to have, and the statistics from the name of the
table and from what the catalog says of its columns.  They agree: the name is cut where it was put
together (`cut_tableName`), and a type is read off its name as one of the same kind
(`exists_ofSource?_catalogName`), whatever its limits.
-/

namespace Granary

namespace Rehearsal

open Replica (Answer Call Column ColumnType Limits auditColumns columnClass)
open Schema (ColumnRecord)

/-! ## Kinds of types -/

/-- Types that are counted alike. -/
def SameKind (a b : ColumnType) : Prop :=
  a.isTemporal = b.isTemporal ∧ a.isNumeric = b.isNumeric

theorem sameKind_varcharOf (limits : Limits) (n : Nat) :
    SameKind (ColumnType.varcharOf limits) (.varchar n) := by
  unfold ColumnType.varcharOf
  split
  · split <;> exact ⟨rfl, rfl⟩
  · exact ⟨rfl, rfl⟩

theorem normal_catalogName (type : ColumnType) :
    Text.asciiLower (Text.trim (catalogName type)) = catalogName type := by
  cases type <;> (dsimp only [catalogName, standardName, ColumnType.ddl]; decide +kernel)

/-- The name of a type is known, and stands for a type of the same kind. -/
theorem exists_ofSource?_catalogName (type : ColumnType) (limits : Limits) :
    ∃ found, ColumnType.ofSource? (catalogName type) limits = some found ∧ SameKind found type := by
  rw [ColumnType.ofSource?, normal_catalogName]
  cases type <;>
    simp [ColumnType.known, catalogName, standardName, ColumnType.ddl, sameKind_varcharOf]
  all_goals exact ⟨rfl, rfl⟩

theorem exists_columnClass {r : ColumnRecord} {type : ColumnType}
    (h : r.dataType = catalogName type) : ∃ found, columnClass r = some found ∧
      SameKind found type := by
  rw [columnClass, h]
  exact exists_ofSource?_catalogName type _

theorem countP_of_dataTypes {p : ColumnRecord → Bool} {q : ColumnType → Bool}
    (hpq : ∀ r type, r.dataType = catalogName type → p r = q type) {records : List ColumnRecord}
    {types : List ColumnType} (h : records.map (·.dataType) = types.map catalogName) :
    records.countP p = types.countP q := by
  induction types generalizing records with
  | nil =>
    obtain rfl := List.map_eq_nil_iff.1 h
    rfl
  | cons type rest ih =>
    obtain ⟨r, records, rfl, hr, hrest⟩ := List.map_eq_cons_iff.1 h
    rw [List.countP_cons, List.countP_cons, ih hrest, hpq r type hr]

theorem dataTypes_recordsOf (table : String) (columns : List Column) :
    (recordsOf table columns).map (·.dataType) = (createdTypes columns).map standardName := by
  have hown : ∀ c : Column × Nat, (recordOf table (c.2 + 1) c.1).dataType =
      standardName c.1.type := by
    intro c
    unfold recordOf
    cases c.1.type <;> rfl
  have hcolumns : (columns.zipIdx.map fun c => recordOf table (c.2 + 1) c.1).map (·.dataType) =
      (columns.map (·.type)).map standardName := by
    calc
      _ = (columns.zipIdx.map Prod.fst).map fun c => standardName c.type := by
        rw [List.map_map, List.map_map]
        exact List.map_congr_left fun c _ => hown c
      _ = _ := by
        rw [List.zipIdx_map_fst, List.map_map]
        rfl
  rw [recordsOf, List.map_append, hcolumns, createdTypes, List.map_append]
  rfl

theorem standard_inFull : Standard inFull := by
  intro t columns h
  have hname : ∀ type, (fullNames.get? (standardName type)).getD (standardName type) =
      catalogName type := by
    intro type
    cases type <;> rfl
  have hmap : (inFull t).map (·.dataType) =
      (t.columns.map (·.dataType)).map fun name => (fullNames.get? name).getD name := by
    rw [inFull, List.map_map, List.map_map]
    rfl
  rw [hmap, h, dataTypes_recordsOf, List.map_map]
  exact List.map_congr_left fun type _ => hname type

theorem countP_createdTypes (q : ColumnType → Bool) (columns : List Column) :
    (createdTypes columns).countP q =
      columns.countP (fun c => q c.type) + if q .timestamp then 2 else 0 := by
  have haudit : (auditColumns.map fun _ => ColumnType.timestamp).countP q =
      if q .timestamp then 2 else 0 := by
    cases hq : q .timestamp <;> simp [auditColumns, hq]
  rw [createdTypes, List.countP_append, List.countP_map, haudit]
  rfl

/-! ## Catalogs -/

namespace Warehouse

/-- The warehouse as its catalog shows it. -/
def described (describe : Description) (w : Warehouse) : Warehouse :=
  ⟨w.tables.map fun t => { t with columns := describe t }⟩

variable (describe : Description)

theorem names_described (w : Warehouse) :
    (w.described describe).tables.map (·.name) = w.tables.map (·.name) := by
  rw [described, List.map_map]
  rfl

theorem table?_described (w : Warehouse) (name : String) :
    (w.described describe).table? name =
      (w.table? name).map fun t => { t with columns := describe t } := by
  rw [table?, described, List.find?_map]
  rfl

end Warehouse

/-- A call to databases whose catalog has words of its own, and where any call may fail. -/
def Stage.UnreliableDescribing (describe : Description) (c : Call Cursor Loader) (s : Stage)
    (answer : Answer c) (t : Stage) : Prop :=
  ∃ failures, handleDescribing describe c { s with failures } = (answer, t)

end Rehearsal

namespace Replica

open Program (Runs)
open Rehearsal (Cursor Description Loader Source Stage Standard StoredSource StoredTable
  Warehouse catalogName createdTypes inFull)

namespace Stats

variable {describe : Description} {w : Warehouse} {s t : Stage}

/-- The catalog answers as a warehouse would that has what it shows. -/
theorem step_describing {c : Call Cursor Loader} {answer : Answer c} (hc : Allowed c)
    (hs : s.warehouse = w) (h : Stage.UnreliableDescribing describe c s answer t) :
    About (w.described describe) c answer ∧ t.warehouse = w := by
  obtain ⟨failures, h⟩ := h
  subst hs
  cases c with
  | listTables stem =>
    obtain ⟨_, hsame, htold⟩ := Stage.effect_of_handle (c := .listTables stem) h
    refine ⟨⟨{ s with warehouse := s.warehouse.described describe }, rfl, fun names hnames => ?_⟩,
      hsame⟩
    rw [htold names hnames, Warehouse.startingWith, Warehouse.startingWith,
      Warehouse.names_described]
  | rowCount table =>
    obtain ⟨_, hsame, htold⟩ := Stage.effect_of_handle (c := .rowCount table) h
    refine ⟨⟨{ s with warehouse := s.warehouse.described describe }, rfl, fun n hn => ?_⟩, hsame⟩
    rw [htold n hn, Warehouse.table?_described, Option.map_map]
    rfl
  | describeTable table =>
    obtain ⟨_, hsame, htold⟩ : _ ∧ _ ∧ ∀ columns, answer = .ok columns →
        columns = ((s.warehouse.table? table).map describe).getD [] :=
      Stage.told_of_answer h fun u columns _ hu hcolumns => by rw [← hu, Except.ok.inj hcolumns]
    refine ⟨⟨{ s with warehouse := s.warehouse.described describe }, rfl, fun columns hok => ?_⟩,
      hsame⟩
    rw [htold columns hok, Warehouse.table?_described, Option.map_map]
    rfl
  | _ => exact hc.elim

theorem tables_of_describing {stats : Stats} (h : Runs (Stage.UnreliableDescribing describe)
      (warehouseStats : Attempt Cursor Loader Stats).run s (some (.ok stats)) t) :
    stats.tables = (s.warehouse.tables.map (·.name)).filterMap
      (tableStats? (s.warehouse.described describe)) := by
  rw [← s.warehouse.names_described describe]
  exact h.result (fun u => u.warehouse = s.warehouse) (fun _ _ _ _ => step_describing)
    (safe_warehouseStats (s.warehouse.described describe)) rfl stats rfl

/-! ## Runs that nothing fails in -/

section Calm

variable (describe)

theorem run_rowCount (table : String) (hs : s.failures = []) :
    ∃ n trace, (Attempt.rowCount table : Attempt Cursor Loader Nat).run.run
      (Stage.handleDescribing describe) s = (some (.ok n), { s with trace }) := by
  obtain ⟨source, warehouse, leases, failures, trace⟩ := s
  obtain rfl : failures = [] := hs
  exact ⟨_, _, rfl⟩

theorem run_describeTable (table : String) (hs : s.failures = []) :
    ∃ columns trace, (Attempt.describeTable table : Attempt Cursor Loader _).run.run
      (Stage.handleDescribing describe) s = (some (.ok columns), { s with trace }) := by
  obtain ⟨source, warehouse, leases, failures, trace⟩ := s
  obtain rfl : failures = [] := hs
  exact ⟨_, _, rfl⟩

theorem run_listTables (stem : String) (hs : s.failures = []) :
    ∃ names trace, (Attempt.listTables stem : Attempt Cursor Loader (List String)).run.run
      (Stage.handleDescribing describe) s = (some (.ok names), { s with trace }) := by
  obtain ⟨source, warehouse, leases, failures, trace⟩ := s
  obtain rfl : failures = [] := hs
  exact ⟨_, _, rfl⟩

theorem run_statsOf (names : List String) (hs : s.failures = []) :
    ∃ entries trace, (statsOf names : Attempt Cursor Loader (List TableStats)).run.run
      (Stage.handleDescribing describe) s = (some (.ok entries), { s with trace }) := by
  induction names generalizing s with
  | nil => exact ⟨[], s.trace, rfl⟩
  | cons table rest ih =>
    unfold statsOf
    cases Text.cut separator table with
    | none => exact ih hs
    | some parts =>
      obtain ⟨rows, trace, hrows⟩ := run_rowCount describe table hs
      obtain ⟨columns, trace', hcolumns⟩ :=
        run_describeTable describe (s := { s with trace }) table hs
      obtain ⟨entries, trace'', hentries⟩ := ih (s := { s with trace := trace' }) hs
      refine ⟨.of table parts.1 parts.2 rows columns :: entries, trace'', ?_⟩
      refine (Program.run_bind_ok hrows).trans ((Program.run_bind_ok hcolumns).trans ?_)
      exact Program.run_bind_ok hentries

/-- While nothing fails there are statistics. -/
theorem run_warehouseStats (hs : s.failures = []) :
    ∃ stats trace, (warehouseStats : Attempt Cursor Loader Stats).run.run
      (Stage.handleDescribing describe) s = (some (.ok stats), { s with trace }) := by
  obtain ⟨names, trace, hnames⟩ := run_listTables describe "" hs
  obtain ⟨entries, trace', hentries⟩ :=
    run_statsOf describe names (s := { s with trace }) hs
  exact ⟨⟨entries⟩, trace', (Program.run_bind_ok hnames).trans (Program.run_bind_ok hentries)⟩

end Calm

/-! ## Names in order -/

theorem mem_insertName {name other : String} {names : List String} :
    other ∈ insertName name names ↔ other = name ∨ other ∈ names := by
  induction names with
  | nil => rw [insertName, List.mem_singleton, or_iff_left List.not_mem_nil]
  | cons first rest ih =>
    unfold insertName
    by_cases hsame : name = first
    · rw [if_pos hsame, List.mem_cons, ← hsame, or_self_left]
    · rw [if_neg hsame]
      by_cases hlt : name < first
      · rw [if_pos hlt, List.mem_cons]
      · rw [if_neg hlt, List.mem_cons, ih, List.mem_cons, or_left_comm]

theorem pairwise_insertName {name : String} {names : List String} (h : names.Pairwise (· < ·)) :
    (insertName name names).Pairwise (· < ·) := by
  induction names with
  | nil => exact List.pairwise_singleton _ _
  | cons first rest ih =>
    obtain ⟨hfirst, hrest⟩ := List.pairwise_cons.1 h
    unfold insertName
    by_cases hsame : name = first
    · rw [if_pos hsame]
      exact h
    · rw [if_neg hsame]
      by_cases hlt : name < first
      · rw [if_pos hlt]
        refine List.pairwise_cons.2 ⟨fun other hother => ?_, h⟩
        obtain rfl | hother := List.mem_cons.1 hother
        · exact hlt
        · exact hlt.trans (hfirst other hother)
      · rw [if_neg hlt]
        refine List.pairwise_cons.2 ⟨fun other hother => ?_, ih hrest⟩
        obtain rfl | hother := mem_insertName.1 hother
        · exact lt_of_le_of_ne (not_lt.1 hlt) (Ne.symm hsame)
        · exact hfirst other hother

/-- The connections of the statistics are those of its tables, in order. -/
theorem connections_spec (stats : Stats) : stats.connections.Pairwise (· < ·) ∧
    ∀ c, c ∈ stats.connections ↔ ∃ e ∈ stats.tables, e.connection = c := by
  have hfold : ∀ (tables : List TableStats) (names : List String), names.Pairwise (· < ·) →
      (tables.foldl (fun names t => insertName t.connection names) names).Pairwise (· < ·) ∧
      ∀ c, c ∈ tables.foldl (fun names t => insertName t.connection names) names ↔
        c ∈ names ∨ ∃ e ∈ tables, e.connection = c := by
    intro tables
    induction tables with
    | nil => exact fun names h => ⟨h, fun c => by simp⟩
    | cons e rest ih =>
      intro names h
      obtain ⟨hpairwise, hmem⟩ := ih _ (pairwise_insertName h)
      refine ⟨hpairwise, fun c => ?_⟩
      rw [List.foldl_cons, hmem, mem_insertName]
      simp only [List.mem_cons, exists_eq_or_imp]
      rw [or_comm (a := c = e.connection), or_assoc, eq_comm]
  obtain ⟨hpairwise, hmem⟩ := hfold stats.tables [] List.Pairwise.nil
  exact ⟨hpairwise, fun c => (hmem c).trans (or_iff_right List.not_mem_nil)⟩

end Stats

/-! ## Reports and statistics -/

/-- The statistics of a table by its entry in the report of a load. -/
def TableStats.ofEntry (connection : String) (entry : TableReport) : TableStats where
  table := entry.table
  connection := connection
  sourceTable := entry.sourceTable
  rows := entry.rows
  columns := entry.columns + 2
  dateColumns := entry.dateColumns.length + 2
  numericColumns := entry.numericColumns.length

/-- The statistics of the tables of a load by its report. -/
def Report.tally (r : Report) : List TableStats := r.tables.map (.ofEntry r.connection)

variable {describe : Description} {w : Warehouse} {loads : List Report} {connection : String}
  {entry : TableReport} {t : StoredTable}

/-- What the statistics make of a table that the catalog describes by the standard. -/
theorem of_standard {records : List Schema.ColumnRecord} {columns : List Column}
    (h : records.map (·.dataType) = (createdTypes columns).map catalogName)
    (table connection sourceTable : String) (rows : Nat) :
    TableStats.of table connection sourceTable rows records =
      ⟨table, connection, sourceTable, rows, columns.length + 2,
        columns.countP (·.type.isTemporal) + 2, columns.countP (·.type.isNumeric)⟩ := by
  have hlength : records.length = columns.length + 2 := by
    have hlengths := congrArg List.length h
    rw [List.length_map, List.length_map] at hlengths
    rw [hlengths, createdTypes, List.length_append, List.length_map]
    rfl
  have hdates : records.countP (fun r => (columnClass r).any (·.isTemporal)) =
      columns.countP (·.type.isTemporal) + 2 := by
    refine (Rehearsal.countP_of_dataTypes (fun r type hr => ?_) h).trans
      (Rehearsal.countP_createdTypes ColumnType.isTemporal columns)
    obtain ⟨found, hfound, hkind⟩ := Rehearsal.exists_columnClass hr
    rw [hfound, Option.any_some, hkind.1]
  have hnumbers : records.countP (fun r => (columnClass r).any (·.isNumeric)) =
      columns.countP (·.type.isNumeric) := by
    refine (Rehearsal.countP_of_dataTypes (fun r type hr => ?_) h).trans
      (Rehearsal.countP_createdTypes ColumnType.isNumeric columns)
    obtain ⟨found, hfound, hkind⟩ := Rehearsal.exists_columnClass hr
    rw [hfound, Option.any_some, hkind.2]
  rw [TableStats.of, hlength, hdates, hnumbers]

theorem ofEntry_copied (source : SourceTable) (table : String) (columns : List Column) (rows : Nat)
    (status : TableStatus) :
    TableStats.ofEntry connection (.copied source table columns rows status) =
      ⟨table, connection, source.name, rows, columns.length + 2,
        columns.countP (·.type.isTemporal) + 2, columns.countP (·.type.isNumeric)⟩ := by
  simp only [TableStats.ofEntry, TableReport.copied, List.length_map, List.countP_eq_length_filter]

/-- The statistics of a table are those that its entry in a report says. -/
theorem tableStats?_of_one (hdescribe : Standard describe) (hname : isName connection = true)
    (hone : OfOne connection entry t) (ht : w.table? t.name = some t) :
    tableStats? (w.described describe) t.name = some (.ofEntry connection entry) := by
  obtain ⟨x, hdescribed, hentry, hreplica⟩ := hone
  have htarget := name_of_replica? hreplica
  have hcolumns : x.columns.isEmpty = false := by
    refine Bool.eq_false_iff.2 fun hempty => ?_
    rw [replica?, if_pos hempty] at hreplica
    cases hreplica
  have hcopied : loaded? connection x = some (.copied x.description (tableName connection x.name)
      (columnsOf x) x.rows.length .loaded) := if_neg (Bool.eq_false_iff.1 hcolumns)
  have hsource : x.description.name = x.name := by
    rw [StoredSource.description, StoredSource.describedName, hdescribed, Option.getD_none]
  rw [← Option.some.inj (hcopied.symm.trans hentry), ofEntry_copied, hsource, tableStats?,
    Warehouse.table?_described, ht, htarget, cut_tableName hname]
  obtain rfl := Option.some.inj ((replica?_of_columns hcolumns).symm.trans hreplica)
  exact congrArg some (of_standard (hdescribe _ (columnsOf x) rfl) _ _ _ _)

theorem nodup_tables {names : List String} (h : names.Nodup) :
    ((names.filterMap (tableStats? w)).map (·.table)).Nodup := by
  refine h.sublist ?_
  clear h
  induction names with
  | nil => exact .slnil
  | cons name rest ih =>
    cases he : tableStats? w name with
    | none =>
      rw [List.filterMap_cons_none he]
      exact ih.cons _
    | some e =>
      rw [List.filterMap_cons_some he, List.map_cons, table_of_tableStats? he]
      exact ih.cons_cons _

theorem Booked.nodup_tally (h : Booked w loads) :
    ((loads.flatMap Report.tally).map (·.table)).Nodup := by
  have htables : ∀ r : Report, r.tally.map (·.table) = r.tables.map (·.table) := fun r => by
    rw [Report.tally, List.map_map]
    rfl
  have hunder : ∀ r ∈ loads, ∀ name ∈ r.tables.map (·.table), Under r.connection name := by
    intro r hr name hname
    obtain ⟨entry, hentry, rfl⟩ := List.mem_map.1 hname
    obtain ⟨t, _, hone⟩ := h.entries r hr entry hentry
    exact hone.name ▸ hone.under
  rw [List.map_flatMap, List.nodup_flatMap]
  simp only [htables]
  refine ⟨h.distinct, ((List.pairwise_map.1 h.connections).imp_of_mem ?_)⟩
  intro r r' hr hr' hne name hmem hmem'
  obtain ⟨x, rfl⟩ := under_iff.1 (hunder r hr name hmem)
  exact hne ((under_tableName_iff (h.valid r' hr') (h.valid r hr)).1
    (hunder r' hr' _ hmem')).symm

/-- The statistics of a warehouse are those that its books say, table by table. -/
theorem Booked.perm (h : Booked w loads) (hdescribe : Standard describe) :
    ((w.tables.map (·.name)).filterMap (tableStats? (w.described describe))).Perm
      (loads.flatMap Report.tally) := by
  refine (List.perm_ext_iff_of_nodup (nodup_tables h.ordered.nodup).of_map
    h.nodup_tally.of_map).2 fun e => ⟨fun he => ?_, fun he => ?_⟩
  · obtain ⟨name, hname, he⟩ := List.mem_filterMap.1 he
    obtain ⟨t, ht, rfl⟩ := List.mem_map.1 hname
    -- A table whose name is not cut has no statistics.
    have hcut : Text.cut separator t.name ≠ none := fun hnone => by
      rw [tableStats?, hnone] at he
      cases he
    obtain ⟨r, hr, entry, hentry, hone⟩ := h.tables t ht hcut
    rw [tableStats?_of_one hdescribe (h.valid r hr) hone (h.ordered.mem_iff.1 ht)] at he
    obtain rfl := Option.some.inj he
    exact List.mem_flatMap.2 ⟨r, hr, List.mem_map.2 ⟨entry, hentry, rfl⟩⟩
  · obtain ⟨r, hr, he⟩ := List.mem_flatMap.1 he
    obtain ⟨entry, hentry, rfl⟩ := List.mem_map.1 he
    obtain ⟨t, ht, hone⟩ := h.entries r hr entry hentry
    exact List.mem_filterMap.2 ⟨t.name, List.mem_map.2 ⟨t, ht, rfl⟩,
      tableStats?_of_one hdescribe (h.valid r hr) hone (h.ordered.mem_iff.1 ht)⟩

theorem sum_tally (loads : List Report) :
    ((loads.flatMap Report.tally).map (·.rows)).sum = (loads.map (·.totalRows)).sum := by
  induction loads with
  | nil => rfl
  | cons r rest ih =>
    rw [List.flatMap_cons, List.map_append, List.sum_append, ih, List.map_cons, List.sum_cons]
    refine congrArg (· + _) ?_
    rw [Report.tally, List.map_map]
    rfl

theorem length_tally (loads : List Report) :
    (loads.flatMap Report.tally).length = (loads.map (·.totalTables)).sum := by
  rw [List.length_flatMap]
  refine congrArg List.sum (List.map_congr_left fun r _ => ?_)
  rw [Report.tally, List.length_map, Report.totalTables]

/-- The statistics of a warehouse that first runs and full refreshes have filled list each table
that is reported by the last load of its connection, and no table twice.  They name the connection
and the source table of that load, and they have its rows, columns, dates and numbers, with the two
audit columns among the columns and the dates.  So the totals are those of the reports, and each
connection that has a table is named once, in order.  All that is asked of the catalog is that it
names types as the standard does.  A run that any call fails in has these statistics or none, and
while nothing fails it has them. -/
theorem stats_of_filled (h : Filled w loads) (hdescribe : Standard describe) :
    ∃ stats : Stats,
      (∀ s : Stage, s.warehouse = w →
        (∀ found t, Runs (Stage.UnreliableDescribing describe)
            (warehouseStats : Attempt Cursor Loader Stats).run s (some (.ok found)) t →
          found = stats) ∧
        (s.failures = [] → ∃ t, (warehouseStats : Attempt Cursor Loader Stats).run.run
          (Stage.handleDescribing describe) s = (some (.ok stats), t))) ∧
      (stats.tables.map (·.table)).Nodup ∧
      stats.tables.Perm (loads.flatMap fun r => r.tables.map (.ofEntry r.connection)) ∧
      stats.tables.length = (loads.map (·.totalTables)).sum ∧
      stats.totalRows = (loads.map (·.totalRows)).sum ∧
      stats.connections.Pairwise (· < ·) ∧
      ∀ c, c ∈ stats.connections ↔ ∃ r ∈ loads, r.connection = c ∧ r.tables ≠ [] := by
  have hbooked := h.booked
  have hperm := hbooked.perm hdescribe
  generalize htables : (w.tables.map (·.name)).filterMap (tableStats? (w.described describe)) =
    tables at hperm
  obtain ⟨hpairwise, hmem⟩ := Stats.connections_spec ⟨tables⟩
  have hfound : ∀ (s : Stage) found t, s.warehouse = w →
      Runs (Stage.UnreliableDescribing describe)
        (warehouseStats : Attempt Cursor Loader Stats).run s (some (.ok found)) t →
      found = ⟨tables⟩ := by
    rintro s ⟨found⟩ t rfl hruns
    exact congrArg Stats.mk ((Stats.tables_of_describing hruns).trans htables)
  refine ⟨⟨tables⟩, fun s hs => ⟨fun found t => hfound s found t hs, fun hcalm => ?_⟩, ?_, hperm,
    ?_, ?_, hpairwise, fun c => ?_⟩
  · obtain ⟨stats, trace, hrun⟩ := Stats.run_warehouseStats describe hcalm
    have hstep : ∀ (c : Call Cursor Loader) u, Stage.UnreliableDescribing describe c u
        (Stage.handleDescribing describe c u).1 (Stage.handleDescribing describe c u).2 :=
      fun c u => ⟨u.failures, rfl⟩
    have hruns := Runs.of_run hstep (warehouseStats : Attempt Cursor Loader Stats).run s
    rw [hrun] at hruns
    exact ⟨_, hfound s stats _ hs hruns ▸ hrun⟩
  · exact htables ▸ nodup_tables hbooked.ordered.nodup
  · exact hperm.length_eq.trans (length_tally loads)
  · exact (hperm.map _).sum_eq.trans (sum_tally loads)
  · rw [hmem]
    constructor
    · rintro ⟨e, he, rfl⟩
      obtain ⟨r, hr, he⟩ := List.mem_flatMap.1 (hperm.mem_iff.1 he)
      obtain ⟨entry, hentry, rfl⟩ := List.mem_map.1 he
      exact ⟨r, hr, rfl, List.ne_nil_of_mem hentry⟩
    · rintro ⟨r, hr, rfl, hne⟩
      obtain ⟨entry, hentry⟩ := List.exists_mem_of_ne_nil _ hne
      exact ⟨_, hperm.mem_iff.2 (List.mem_flatMap.2 ⟨r, hr, List.mem_map.2 ⟨entry, hentry, rfl⟩⟩),
        rfl⟩

/-- A source with orders and users. -/
def shopSource (orders users : Nat) : Source where
  tables := [
    { name := "orders", columns := [⟨"id", "bigint", false, {}, 1⟩,
        ⟨"user_id", "integer", true, {}, 2⟩,
        ⟨"amount", "numeric", true, { precision := some 12, scale := some 2 }, 3⟩,
        ⟨"placed_on", "date", true, {}, 4⟩],
      primaryKey := ["id"], rows := StoredSource.numberedRows orders 4 },
    { name := "users", columns := [⟨"id", "integer", false, {}, 1⟩,
        ⟨"email", "character varying", true, { maxLength := some 120 }, 2⟩,
        ⟨"created", "timestamp without time zone", true, {}, 3⟩],
      primaryKey := ["id"], rows := StoredSource.numberedRows users 3 }]

theorem plain_shopSource (orders users : Nat) : (shopSource orders users).Plain := by
  refine ⟨rfl, fun t ht => ?_, by simp [shopSource]⟩
  obtain rfl | ht := List.mem_cons.1 ht
  · rfl
  · obtain rfl := List.mem_singleton.1 ht
    rfl

/-- A lifecycle while nothing fails. -/
def loadedBy (mode : Mode) (connection : String) (source : Source) (warehouse : Warehouse) :
    Option (Except Error Report) × Stage :=
  (lifecycle mode ⟨2, 2, 10⟩ connection).run.run Stage.handle { source, warehouse }

theorem succeeds_loadedBy {mode : Mode} {source : Source} {report : Report}
    (h : (loadedBy mode connection source w).1 = some (.ok report)) :
    Succeeds mode ⟨2, 2, 10⟩ connection { source, warehouse := w } report
      (loadedBy mode connection source w).2 := by
  refine .sequential ?_
  rw [← h]
  exact .of_run (fun c s => ⟨s.failures, rfl⟩) _ _

/-- The report of a load of two tables. -/
def shopReport (mode : Mode) (connection : String) (orders users : Nat) : Report :=
  ⟨connection, mode, (shopSource orders users).tables.filterMap (loaded? connection)⟩

/-- Two connections are loaded where there is a table of notes, and then the first again. -/
def firstLoad : Option (Except Error Report) × Stage :=
  loadedBy .run "shop" (shopSource 3 2) ⟨[{ name := "notes" }]⟩

def secondLoad : Option (Except Error Report) × Stage :=
  loadedBy .run "crm" (shopSource 0 2) firstLoad.2.warehouse

def thirdLoad : Option (Except Error Report) × Stage :=
  loadedBy .fullRefresh "shop" (shopSource 4 1) secondLoad.2.warehouse

theorem filled_thirdLoad : Filled thirdLoad.2.warehouse
    [shopReport .run "crm" 0 2, shopReport .fullRefresh "shop" 4 1] := by
  have hfirst : firstLoad.1 = some (.ok (shopReport .run "shop" 3 2)) := by with_unfolding_all rfl
  have hsecond : secondLoad.1 = some (.ok (shopReport .run "crm" 0 2)) := by with_unfolding_all rfl
  have hthird : thirdLoad.1 = some (.ok (shopReport .fullRefresh "shop" 4 1)) := by
    with_unfolding_all rfl
  have hbare : Filled ⟨[{ name := "notes" }]⟩ [] := by
    refine .bare ?_ ?_
    · unfold Warehouse.Ordered
      decide
    · decide +kernel
  have hshop : Filled firstLoad.2.warehouse [shopReport .run "shop" 3 2] :=
    hbare.load (s := { source := shopSource 3 2, warehouse := ⟨[{ name := "notes" }]⟩ })
      (by decide) (plain_shopSource 3 2) (by decide) (succeeds_loadedBy hfirst)
  have hcrm : Filled secondLoad.2.warehouse
      [shopReport .run "shop" 3 2, shopReport .run "crm" 0 2] :=
    hshop.load (s := { source := shopSource 0 2, warehouse := firstLoad.2.warehouse })
      (by decide) (plain_shopSource 0 2) (by decide) (succeeds_loadedBy hsecond)
  exact hcrm.load (s := { source := shopSource 4 1, warehouse := secondLoad.2.warehouse })
    (by decide) (plain_shopSource 4 1) (by decide) (succeeds_loadedBy hthird)

theorem stats_of_thirdLoad :
    (Filled thirdLoad.2.warehouse
      [shopReport .run "crm" 0 2, shopReport .fullRefresh "shop" 4 1] ∧ Standard inFull) ∧
    ∃ stats t, (warehouseStats : Attempt Cursor Loader Stats).run.run
        (Stage.handleDescribing inFull) { warehouse := thirdLoad.2.warehouse } =
          (some (.ok stats), t) ∧
      ⟨"shop__orders", "shop", "orders", 4, 6, 3, 3⟩ ∈ stats.tables ∧
      stats.tables.length = 4 ∧ stats.totalRows = 7 ∧ "crm" ∈ stats.connections := by
  obtain ⟨stats, hstats, _, hperm, hlength, hrows, _, hconnections⟩ :=
    stats_of_filled filled_thirdLoad Rehearsal.standard_inFull
  obtain ⟨_, hcalm⟩ := hstats { warehouse := thirdLoad.2.warehouse } rfl
  obtain ⟨t, hrun⟩ := hcalm rfl
  refine ⟨⟨filled_thirdLoad, Rehearsal.standard_inFull⟩, stats, t, hrun, ?_, ?_, ?_, ?_⟩
  · rw [hperm.mem_iff]
    decide +kernel
  · rw [hlength]
    decide +kernel
  · rw [hrows]
    decide +kernel
  · exact (hconnections "crm").2 ⟨_, List.mem_cons_self, rfl, by decide +kernel⟩

end Replica
end Granary
