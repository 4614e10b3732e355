import Granary.Rehearsal.Databases
import Granary.Rehearsal.Failure

/-!
# Rehearsing replication

Answers the calls of replication from databases in memory.  Every call is written down before it can
fail.
-/

namespace Granary.Rehearsal

open Replica (Call Answer Column Guard Leases LoadMode Row)

/-- An open cursor: the rows that are still to come. -/
structure Cursor where
  table : String
  chunk : Nat
  rows : List Row
  deriving DecidableEq, Repr, Inhabited

/-- An open load: the rows that are to be committed. -/
structure Loader where
  table : String
  columns : List Column
  mode : LoadMode
  rows : List Row := []
  deriving DecidableEq, Repr, Inhabited

/-- A call that was made; for a chunk, with the number of rows that were there. -/
structure Event where
  call : Call Cursor Loader
  rows : Nat := 0

/-- How some calls fail. -/
structure Breakdown where
  point : String
  /-- The table whose calls fail; every table if there is none. -/
  table : Option String := none
  error : Error
  deriving Repr

def Breakdown.appliesTo (b : Breakdown) (point table : String) : Bool :=
  b.point == point && b.table.all (· == table)

/-- The databases, the leases that are held, the failures to come and the calls so far. -/
structure Stage where
  source : Source := {}
  warehouse : Warehouse := {}
  leases : Leases := {}
  failures : List (Failure Breakdown) := []
  trace : List Event := []

namespace Stage

/-- Writes down a call and lets it fail if that is planned; otherwise it does what it does. -/
def attempt {α : Type} (s : Stage) (event : Event) (point table : String)
    (act : Stage → Except Error α × Stage) : Except Error α × Stage :=
  let (due, failures) := Failure.check (·.appliesTo point table) s.failures
  let s := { s with failures, trace := s.trace ++ [event] }
  match due with
  | some breakdown => (.error breakdown.error, s)
  | none => act s

/-- What a call answers that changes nothing. -/
def answer {α : Type} (value : Stage → Except Error α) : Stage → Except Error α × Stage :=
  fun s => (value s, s)

/-- What a call does to the warehouse. -/
def change (f : Warehouse → Warehouse) : Stage → Except Error Unit × Stage :=
  fun s => (.ok (), { s with warehouse := f s.warehouse })

/-- Answers one call. -/
def handle : (call : Call Cursor Loader) → Stage → Answer call × Stage
  | .acquire connection, s =>
    match s.leases.acquire connection with
    | .error e => (.error e, s)
    | .ok (guard, leases) => (.ok guard, { s with leases })
  | .release guard, s => ((), { s with leases := s.leases.drop guard })
  | .listSource, s =>
    s.attempt ⟨.listSource, 0⟩ "source.list_tables" "" (answer fun s => .ok s.source.list)
  | .describeSource table, s =>
    s.attempt ⟨.describeSource table, 0⟩ "source.describe_table" table
      (answer fun s => s.source.describe table)
  | .openCursor table columns chunk, s =>
    s.attempt ⟨.openCursor table columns chunk, 0⟩ "source.open_cursor" table
      (answer fun s => (s.source.rowsOf table).map (Cursor.mk table chunk))
  | .nextChunk cursor, s =>
    let rows := cursor.rows.take cursor.chunk
    let (outcome, s) := s.attempt ⟨.nextChunk cursor, rows.length⟩ "cursor.next_chunk" cursor.table
      (answer fun _ => .ok rows)
    (({ cursor with rows := cursor.rows.drop cursor.chunk }, outcome), s)
  | .closeCursor cursor, s =>
    s.attempt ⟨.closeCursor cursor, 0⟩ "cursor.close" cursor.table (answer fun _ => .ok ())
  | .dropCursor _, s => ((), s)
  | .listTables stem, s =>
    s.attempt ⟨.listTables stem, 0⟩ "warehouse.list_tables" stem
      (answer fun s => .ok (s.warehouse.startingWith stem))
  | .tableExists table, s =>
    s.attempt ⟨.tableExists table, 0⟩ "warehouse.table_exists" table
      (answer fun s => .ok (s.warehouse.has table))
  | .dropTable table, s =>
    s.attempt ⟨.dropTable table, 0⟩ "warehouse.drop_table" table (change (·.drop table))
  | .beginLoad table columns mode, s =>
    s.attempt ⟨.beginLoad table columns mode, 0⟩ "warehouse.begin_load" table
      (answer fun s =>
        if mode = .create ∧ s.warehouse.has table then .error (.execution (.tableExists table))
        else .ok { table, columns, mode })
  | .insertBatch loader rows, s =>
    let (outcome, s) := s.attempt ⟨.insertBatch loader rows, 0⟩ "loader.insert_batch" loader.table
      (answer fun _ => .ok rows.length)
    match outcome with
    | .error e => ((loader, .error e), s)
    | .ok n => (({ loader with rows := loader.rows ++ rows }, .ok n), s)
  | .commit loader, s =>
    s.attempt ⟨.commit loader, 0⟩ "loader.commit" loader.table
      (change (·.commit loader.table loader.columns loader.mode loader.rows))
  | .rollback loader, s =>
    s.attempt ⟨.rollback loader, 0⟩ "loader.rollback" loader.table (answer fun _ => .ok ())
  | .finalize table key columns, s =>
    s.attempt ⟨.finalize table key columns, 0⟩ "warehouse.finalize_table" table
      (change (·.setPrimaryKey table key))
  | .describeTable table, s =>
    s.attempt ⟨.describeTable table, 0⟩ "warehouse.describe_table" table
      (answer fun s => .ok (((s.warehouse.table? table).map (·.columns)).getD []))
  | .rowCount table, s =>
    s.attempt ⟨.rowCount table, 0⟩ "warehouse.row_count" table
      (answer fun s => .ok (((s.warehouse.table? table).map (·.rowCount)).getD 0))

/-- A lease that is held is refused, and nothing changes; any other is handed out. -/
theorem handle_acquire_cases (connection : String) (s : Stage) :
    s.leases.isHeld connection = true ∧
      handle (.acquire connection) s = (.error (.etlInProgress connection), s) ∨
    s.leases.isHeld connection = false ∧ handle (.acquire connection) s =
      (.ok ⟨connection⟩, { s with leases := ⟨s.leases.held ++ [connection]⟩ }) := by
  refine (s.leases.acquire_cases connection).imp (fun ⟨hheld, hanswer⟩ => ⟨hheld, ?_⟩)
    fun ⟨hfree, hanswer⟩ => ⟨hfree, ?_⟩
  · rw [handle, hanswer]
  · rw [handle, hanswer]

end Stage

end Granary.Rehearsal
