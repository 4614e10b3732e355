import Granary.Proofs.Rehearsal.Databases
import Granary.Proofs.Replica.Naming
import Granary.Proofs.Runs
import Granary.Replica.Stats

/-!
# What the statistics say

The statistics have one entry for every table whose name has a separator, in the order of the
tables, and the entry names the connection and the source table before and after the first
separator.
-/

namespace Granary.Replica

open Program (Runs Safe)
open Rehearsal (Cursor Loader Stage Warehouse)

/-- The entry of a table, if its name tells where it came from. -/
def tableStats? (w : Warehouse) (table : String) : Option TableStats :=
  (Text.cut separator table).map fun (connection, sourceTable) =>
    .of table connection sourceTable (((w.table? table).map (·.rowCount)).getD 0)
      (((w.table? table).map (·.columns)).getD [])

namespace Stats

/-- The calls that statistics need. -/
def Allowed : Call Cursor Loader → Prop
  | .listTables _ | .rowCount _ | .describeTable _ => True
  | _ => False

/-- Answers about a warehouse. -/
def About (w : Warehouse) (c : Call Cursor Loader) (answer : Answer c) : Prop :=
  ∃ s : Stage, s.warehouse = w ∧ s.Told c answer

theorem step_about {w : Warehouse} {c : Call Cursor Loader} {s t : Stage} {answer : Answer c}
    (hc : Allowed c) (hs : s.warehouse = w) (h : Stage.Unreliable c s answer t) :
    About w c answer ∧ t.warehouse = w := by
  obtain ⟨_, heffect, htold⟩ := h.effect
  refine ⟨⟨s, hs, htold⟩, ?_⟩
  cases c with
  | listTables stem => exact (show t.warehouse = s.warehouse from heffect).trans hs
  | rowCount table => exact (show t.warehouse = s.warehouse from heffect).trans hs
  | describeTable table => exact (show t.warehouse = s.warehouse from heffect).trans hs
  | _ => exact hc.elim

theorem safe_statsOf (w : Warehouse) (names : List String) :
    (statsOf names : Attempt Cursor Loader (List TableStats)).run.Safe Allowed (About w)
      fun outcome => ∀ entries, outcome = .ok entries →
        entries = names.filterMap (tableStats? w) := by
  induction names with
  | nil =>
    intro entries h
    cases h
    rfl
  | cons table rest ih =>
    unfold statsOf
    cases hcut : Text.cut separator table with
    | none =>
      have hnone : tableStats? w table = none := by rw [tableStats?, hcut, Option.map_none]
      rw [List.filterMap_cons_none hnone]
      exact ih
    | some parts =>
      obtain ⟨connection, sourceTable⟩ := parts
      refine ⟨trivial, fun rows hrows => ?_⟩
      cases rows with
      | error e => exact fun _ h => nomatch h
      | ok rows =>
        refine ⟨trivial, fun columns hcolumns => ?_⟩
        cases columns with
        | error e => exact fun _ h => nomatch h
        | ok columns =>
          obtain ⟨s, rfl, hrows⟩ := hrows
          obtain ⟨s', hs', hcolumns⟩ := hcolumns
          have hentry : tableStats? s.warehouse table =
              some (.of table connection sourceTable rows columns) := by
            rw [tableStats?, hcut, Option.map_some, hrows rows rfl, hcolumns columns rfl, hs']
          rw [List.filterMap_cons_some hentry]
          show Safe _ _ _ ((statsOf rest).run.bind _)
          refine Safe.bind ih fun outcome houtcome => ?_
          cases outcome with
          | error e => exact fun _ h => nomatch h
          | ok entries =>
            intro all hall
            cases hall
            rw [houtcome entries rfl]

theorem safe_warehouseStats (w : Warehouse) :
    (warehouseStats : Attempt Cursor Loader Stats).run.Safe Allowed (About w) fun outcome =>
      ∀ stats, outcome = .ok stats →
        stats.tables = (w.tables.map (·.name)).filterMap (tableStats? w) := by
  refine ⟨trivial, fun names hnames => ?_⟩
  cases names with
  | error e => exact fun _ h => nomatch h
  | ok names =>
    obtain ⟨s, rfl, hnames⟩ := hnames
    have hall : names = s.warehouse.tables.map (·.name) := by
      rw [hnames names rfl, Warehouse.startingWith, List.filter_eq_self]
      intro name _
      rfl
    show Safe _ _ _ ((statsOf names).run.bind _)
    refine Safe.bind (safe_statsOf s.warehouse names) fun outcome houtcome => ?_
    cases outcome with
    | error e => exact fun _ h => nomatch h
    | ok entries =>
      intro stats hstats
      cases hstats
      rw [houtcome entries rfl, hall]

/-- The statistics of a warehouse, if no call fails. -/
theorem tables_of_runs {s t : Stage} {stats : Stats}
    (h : Runs Stage.Unreliable (warehouseStats : Attempt Cursor Loader Stats).run s
      (some (.ok stats)) t) :
    stats.tables = (s.warehouse.tables.map (·.name)).filterMap (tableStats? s.warehouse) :=
  h.result (fun u => u.warehouse = s.warehouse) (fun _ _ _ _ => step_about)
    (safe_warehouseStats s.warehouse) rfl stats rfl

end Stats

/-! ## Where tables came from -/

variable {w : Warehouse} {connection x : String}

theorem tableStats?_tableName (hname : isName connection = true) (w : Warehouse) (x : String) :
    ∃ e, tableStats? w (tableName connection x) = some e ∧ e.table = tableName connection x ∧
      e.connection = connection ∧ e.sourceTable = x := by
  rw [tableStats?, cut_tableName hname]
  exact ⟨_, rfl, rfl, rfl, rfl⟩

theorem table_of_tableStats? {table : String} {e : TableStats} (h : tableStats? w table = some e) :
    e.table = table := by
  rw [tableStats?, Option.map_eq_some_iff] at h
  obtain ⟨parts, _, rfl⟩ := h
  rfl

theorem exists_entry (hname : isName connection = true)
    (hhas : w.has (tableName connection x) = true) :
    ∃ e ∈ (w.tables.map (·.name)).filterMap (tableStats? w), e.table = tableName connection x := by
  obtain ⟨e, he, htable, _⟩ := tableStats?_tableName hname w x
  obtain ⟨t, ht⟩ := Option.isSome_iff_exists.1 hhas
  have hmem : tableName connection x ∈ w.tables.map (·.name) :=
    List.mem_map.2 ⟨t, List.mem_of_find?_eq_some ht, Warehouse.name_of_table? ht⟩
  exact ⟨e, List.mem_filterMap.2 ⟨_, hmem, he⟩, htable⟩

theorem entry_of_table (hname : isName connection = true) {e : TableStats}
    (he : e ∈ (w.tables.map (·.name)).filterMap (tableStats? w))
    (htable : e.table = tableName connection x) :
    e.connection = connection ∧ e.sourceTable = x := by
  obtain ⟨table, _, hentry⟩ := List.mem_filterMap.1 he
  obtain ⟨e', he', _, hparts⟩ := tableStats?_tableName hname w x
  rw [← table_of_tableStats? hentry, htable] at hentry
  rw [he'] at hentry
  obtain rfl := Option.some.inj hentry
  exact hparts

end Granary.Replica
