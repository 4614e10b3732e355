import Granary.Proofs.Rehearsal.Databases
import Granary.Proofs.Schedule
import Granary.Replica.Lifecycle

/-!
# Loading a table when nothing fails

While nothing fails, the work on one table sees and changes nothing of the warehouse but the table
of its name.  So the warehouse is divided by names (`byTable`), and each call is local to one name.

Chunks and batches are cut independently of each other, but `pumpFrom` keeps one list whole: the
rows written, the rows pending and the rows still to be read, one after another, are the rows of the
source table.
-/

namespace Granary.Replica

open Program (Division)
open Rehearsal (Cursor Loader recordsOf Stage StoredSource StoredTable Warehouse)

/-- Nothing fails, and what all tasks share is as it was. -/
structure Calm (origin s : Stage) : Prop where
  source : s.source = origin.source
  failures : s.failures = []
  leases : s.leases = origin.leases
  ordered : origin.warehouse.Ordered → s.warehouse.Ordered

/-- The warehouse divided by the names of its tables. -/
def byTable (origin : Stage) :
    Division (Call Cursor Loader) Answer Stage String (Option StoredTable) where
  step c s answer t := Stage.handle c s = (answer, t)
  inv := Calm origin
  view name s := s.warehouse.table? name

theorem attempt_of_calm {α : Type} {origin s : Stage} (hs : Calm origin s) (event : Rehearsal.Event)
    (point table : String) (act : Stage → Except Error α × Stage) :
    s.attempt event point table act = act { s with trace := s.trace ++ [event] } := by
  obtain ⟨source, warehouse, leases, failures, trace⟩ := s
  obtain rfl : failures = [] := hs.failures
  rfl

variable {origin : Stage} {name : String} {v w : Option StoredTable}

/-! ## Calls -/

/-- A call that changes no more than the table of one name. -/
theorem local_of_change {c : Call Cursor Loader} {answer : Answer c} {f : Warehouse → Warehouse}
    (hhandle : ∀ s, Calm origin s → s.warehouse.table? name = v →
      ∃ trace, Stage.handle c s = (answer, { s with warehouse := f s.warehouse, trace }))
    (hchange : ∀ u, Warehouse.Change name u (f u))
    (hview : ∀ u : Warehouse, u.table? name = v → (f u).table? name = w) :
    (byTable origin).Local name c v answer w := by
  refine ⟨fun s hs hv => ?_, fun s other t hs hv ht => ?_⟩
  · obtain ⟨trace, hs'⟩ := hhandle s hs hv
    exact ⟨_, hs'⟩
  · obtain ⟨trace, hs'⟩ := hhandle s hs hv
    obtain ⟨rfl, rfl⟩ := Prod.mk.inj (hs'.symm.trans ht)
    refine ⟨rfl, ⟨hs.source, hs.failures, hs.leases, fun ho => ?_⟩, hview _ hv, fun j hj => ?_⟩
    · exact (hchange s.warehouse).ordered (hs.ordered ho)
    · exact (hchange s.warehouse).table? hj

/-- A call that changes nothing. -/
theorem local_of_quiet {c : Call Cursor Loader} {answer : Answer c}
    (hhandle : ∀ s, Calm origin s → s.warehouse.table? name = v →
      ∃ trace, Stage.handle c s = (answer, { s with trace })) :
    (byTable origin).Local name c v answer v :=
  local_of_change hhandle (fun _ => .none) fun _ hu => hu

theorem local_describeSource {table : String} {d : SourceTable}
    (h : origin.source.describe table = .ok d) :
    (byTable origin).Local name (.describeSource table) v (.ok d) v := by
  refine local_of_quiet fun s hs _ => ⟨s.trace ++ [⟨.describeSource table, 0⟩], ?_⟩
  rw [← h, ← hs.source]
  exact attempt_of_calm hs _ _ _ _

theorem local_openCursor {table : String} {columns : List Column} {chunk : Nat} {rows : List Row}
    (h : origin.source.rowsOf table = .ok rows) :
    (byTable origin).Local name (.openCursor table columns chunk) v (.ok ⟨table, chunk, rows⟩)
      v := by
  refine local_of_quiet fun s hs _ => ⟨s.trace ++ [⟨.openCursor table columns chunk, 0⟩], ?_⟩
  have hopen : (s.source.rowsOf table).map (Cursor.mk table chunk) = .ok ⟨table, chunk, rows⟩ := by
    rw [hs.source, h]
    rfl
  rw [← hopen]
  exact attempt_of_calm hs _ _ _ _

theorem local_nextChunk (cursor : Cursor) :
    (byTable origin).Local name (.nextChunk cursor) v
      ({ cursor with rows := cursor.rows.drop cursor.chunk },
        .ok (cursor.rows.take cursor.chunk)) v := by
  refine local_of_quiet fun s hs _ =>
    ⟨s.trace ++ [⟨.nextChunk cursor, (cursor.rows.take cursor.chunk).length⟩], ?_⟩
  rw [Stage.handle, attempt_of_calm hs]
  rfl

theorem local_closeCursor (cursor : Cursor) :
    (byTable origin).Local name (.closeCursor cursor) v (.ok ()) v :=
  local_of_quiet fun _ hs _ => ⟨_, attempt_of_calm hs _ _ _ _⟩

/-- A load begins where there is no table yet. -/
theorem local_beginLoad (columns : List Column) :
    (byTable origin).Local name (.beginLoad name columns .create) none
      (.ok { table := name, columns, mode := .create }) none := by
  refine local_of_quiet fun s hs hv => ⟨s.trace ++ [⟨.beginLoad name columns .create, 0⟩], ?_⟩
  have hnew : ¬(LoadMode.create = .create ∧ s.warehouse.has name = true) := by
    rw [Warehouse.has, hv]
    simp
  rw [Stage.handle, attempt_of_calm hs, Stage.answer]
  exact congrArg (·, _) (if_neg hnew)

theorem local_insertBatch (loader : Loader) (rows : List Row) :
    (byTable origin).Local name (.insertBatch loader rows) v
      ({ loader with rows := loader.rows ++ rows }, .ok rows.length) v := by
  refine local_of_quiet fun s hs _ => ⟨s.trace ++ [⟨.insertBatch loader rows, 0⟩], ?_⟩
  rw [Stage.handle, attempt_of_calm hs]
  rfl

theorem local_commit (columns : List Column) (rows : List Row) :
    (byTable origin).Local name (.commit { table := name, columns, mode := .create, rows }) v
      (.ok ()) (some { name, columns := recordsOf name columns, rows }) := by
  refine local_of_change (f := fun u => u.commit name columns .create rows)
    (fun _ hs _ => ⟨_, attempt_of_calm hs _ _ _ _⟩)
    (fun u => u.change_commit name columns .create rows) fun u _ => ?_
  rw [Warehouse.commit, Warehouse.table?_put, if_pos rfl]

theorem local_finalize (key : List String) (columns : List Column) (t : StoredTable) :
    (byTable origin).Local name (.finalize name key columns) (some t) (.ok ())
      (some { t with primaryKey := key }) := by
  refine local_of_change (f := fun u => u.setPrimaryKey name key)
    (fun _ hs _ => ⟨_, attempt_of_calm hs _ _ _ _⟩)
    (fun u => u.change_setPrimaryKey name key) fun u hu => ?_
  rw [Warehouse.table?_setPrimaryKey, if_pos rfl, hu, Option.map_some]

/-! ## Rows -/

/-- Cutting rows into batches loses none. -/
theorem flatten_splitBatches (size : Nat) (rows : List Row) :
    (splitBatches size rows).1.flatten ++ (splitBatches size rows).2 = rows := by
  fun_induction splitBatches size rows with
  | case1 rows h batches rest hsplit ih =>
    rw [hsplit] at ih
    rw [List.flatten_cons, List.append_assoc, ih, List.take_append_drop]
  | case2 rows h => rfl

theorem performs_writeBatches (loader : Loader) (written : Nat) (batches : List (List Row)) :
    (byTable origin).Performs name (writeBatches loader written batches) v
      ({ loader with rows := loader.rows ++ batches.flatten },
        .ok (written + batches.flatten.length)) v := by
  induction batches generalizing loader written with
  | nil =>
    rw [writeBatches, List.flatten_nil, List.append_nil, List.length_nil, Nat.add_zero]
    exact .done name _ v
  | cons batch rest ih =>
    have hrest := ih { loader with rows := loader.rows ++ batch } (written + batch.length)
    rw [List.flatten_cons, List.length_append, ← List.append_assoc, ← Nat.add_assoc]
    exact .ask (local_insertBatch loader batch) hrest

theorem performs_finish (cursor : Cursor) (loader : Loader) (written : Nat) (pending : List Row) :
    (byTable origin).Performs name (finish cursor loader written pending) v
      ({ loader with rows := loader.rows ++ pending }, .ok (written + pending.length)) v := by
  have hwrite : (byTable origin).Performs name
      (writeBatches loader written (if pending.isEmpty then [] else [pending])) v _ _ :=
    performs_writeBatches loader written _
  have hflatten : (if pending.isEmpty then [] else [pending]).flatten = pending := by
    cases pending with
    | nil => rfl
    | cons row rows => simp
  rw [hflatten] at hwrite
  exact hwrite.bind (.ask (local_closeCursor cursor) (.done name _ v))

/-- Pumping moves the rows pending and all rows of the cursor to the loader, in order. -/
theorem performs_pumpFrom (size fetches : Nat) (cursor : Cursor) (loader : Loader) (written : Nat)
    (pending : List Row) (hchunk : 0 < cursor.chunk) (hrows : cursor.rows.length < fetches) :
    (byTable origin).Performs name (pumpFrom size fetches cursor loader written pending) v
      ({ loader with rows := loader.rows ++ (pending ++ cursor.rows) },
        .ok (written + (pending ++ cursor.rows).length)) v := by
  -- Each chunk that is not the last takes a row at least, so the allowance does not run out.
  induction fetches generalizing cursor loader written pending with
  | zero => exact absurd hrows (Nat.not_lt_zero _)
  | succ fetches ih =>
    refine .ask (local_nextChunk cursor) ?_
    obtain ⟨table, chunk, rows⟩ := cursor
    cases rows with
    | nil =>
      simp only [List.take_nil, List.append_nil]
      exact performs_finish _ loader written pending
    | cons row rows =>
      obtain ⟨chunk, rfl⟩ : ∃ n, chunk = n + 1 := ⟨chunk - 1, by simp only at hchunk; omega⟩
      simp only [List.take_succ_cons, List.drop_succ_cons]
      have hsplit := flatten_splitBatches size (pending ++ row :: rows.take chunk)
      generalize splitBatches size (pending ++ row :: rows.take chunk) = cut at hsplit
      obtain ⟨batches, rest⟩ := cut
      -- What has been written, is pending and is still to be read is the same list as before.
      have hwhole : batches.flatten ++ (rest ++ rows.drop chunk) = pending ++ row :: rows := by
        rw [← List.append_assoc, show batches.flatten ++ rest = _ from hsplit, List.append_assoc,
          List.cons_append, List.take_append_drop]
      have hshorter : (rows.drop chunk).length < fetches := by
        simp only [List.length_cons] at hrows
        rw [List.length_drop]
        omega
      have hrest := ih ⟨table, chunk + 1, rows.drop chunk⟩
        { loader with rows := loader.rows ++ batches.flatten } (written + batches.flatten.length)
        rest hchunk hshorter
      rw [← hwhole, List.length_append, ← List.append_assoc, ← Nat.add_assoc]
      exact (performs_writeBatches loader written batches).bind hrest

theorem performs_pump (pace : Pace) (source : String) (columns : List Column) (loader : Loader)
    {rows : List Row} (hrows : origin.source.rowsOf source = .ok rows)
    (hfetches : rows.length < pace.fetches) :
    (byTable origin).Performs name (pump pace source columns loader) v
      ({ loader with rows := loader.rows ++ rows }, .ok rows.length) v := by
  have hchunk : 0 < max pace.chunk 1 := Nat.lt_of_lt_of_le Nat.zero_lt_one (Nat.le_max_right _ _)
  have hpump : (byTable origin).Performs name (pumpFrom (batchSize pace.batch columns.length)
      pace.fetches ⟨source, max pace.chunk 1, rows⟩ loader 0 []) v _ _ :=
    performs_pumpFrom _ _ _ loader 0 [] hchunk hfetches
  rw [List.nil_append, Nat.zero_add] at hpump
  exact .ask (local_openCursor hrows) hpump

/-! ## Tables -/

/-- A copied table has the rows of its source, and they are counted. -/
theorem performs_copyTable (pace : Pace) (source : String) (columns : List Column)
    {rows : List Row} (hrows : origin.source.rowsOf source = .ok rows)
    (hfetches : rows.length < pace.fetches) :
    (byTable origin).Performs name (copyTable pace source name columns .create).run none
      (.ok rows.length) (some { name, columns := recordsOf name columns, rows }) :=
  .ask (local_beginLoad columns) <|
    (performs_pump pace source columns _ hrows hfetches).bind <|
      .ask (local_commit columns rows) (.done name _ _)

section

variable {α β : Type}

theorem performs_bind {x : Attempt Cursor Loader α} {f : α → Attempt Cursor Loader β} {a : α}
    {b : β} {u : Option StoredTable} (hx : (byTable origin).Performs name x.run v (.ok a) w)
    (hf : (byTable origin).Performs name (f a).run w (.ok b) u) :
    (byTable origin).Performs name (x >>= f).run v (.ok b) u :=
  Division.Performs.bind hx hf

theorem performs_failingAs {x : Attempt Cursor Loader α} {f : Error → Error} {a : α}
    (hx : (byTable origin).Performs name x.run v (.ok a) w) :
    (byTable origin).Performs name (Attempt.failingAs f x).run v (.ok a) w :=
  hx.bind (.done name _ w)

end

/-- The warehouse table of a source table, if that has columns.  Its columns are those of the source
in their order, with the audit columns that every replicated table has behind them. -/
def replica? (connection : String) (t : StoredSource) : Option StoredTable :=
  let target := tableName connection t.name
  if t.columns.isEmpty then none
  else some
    { name := target, columns := recordsOf target (t.columns.map Column.ofSource), rows := t.rows,
      primaryKey := t.primaryKey }

/-- What is reported of a source table, if it has columns. -/
def loaded? (connection : String) (t : StoredSource) : Option TableReport :=
  if t.columns.isEmpty then none
  else some <| .copied t.description (tableName connection t.name)
    (t.columns.map Column.ofSource) t.rows.length .loaded

/-- The task of a source table that goes by one name creates its replica and reports it. -/
theorem performs_loadTask (connection : String) {pace : Pace} {t : StoredSource}
    (hname : t.describedAs = none) (hdescribe : origin.source.describe t.name = .ok t.description)
    (hrows : origin.source.rowsOf t.name = .ok t.rows) (hfetches : t.rows.length < pace.fetches) :
    (byTable origin).Performs (tableName connection t.name)
      (loadTask pace connection t.name).run none (.ok (loaded? connection t))
      (replica? connection t) := by
  have hdescribed : t.description.name = t.name := by
    rw [StoredSource.description, StoredSource.describedName, hname, Option.getD_none]
  refine performs_bind (performs_failingAs (.ask (local_describeSource hdescribe) (.done _ _ _))) ?_
  have hcolumns : t.description.columns = t.columns := rfl
  rw [hcolumns, hdescribed, loaded?, replica?]
  by_cases hempty : t.columns.isEmpty = true
  · rw [if_pos hempty, if_pos hempty, if_pos hempty]
    exact .done _ _ _
  · rw [if_neg hempty, if_neg hempty, if_neg hempty]
    refine performs_bind (performs_copyTable pace t.name _ hrows hfetches) ?_
    refine performs_bind (performs_failingAs (.ask (local_finalize _ _ _) (.done _ _ _))) ?_
    exact .done _ _ _

end Granary.Replica
