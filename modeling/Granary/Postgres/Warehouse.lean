import Granary.Postgres.Catalog
import Granary.Postgres.Statements
import Granary.Replica.Call

/-!
# Writing warehouse tables

A table is loaded in one transaction.  The client of a load is guarded from the moment its
transaction is open; it goes back to its pool only when the transaction has ended well.
-/

namespace Granary.Postgres

open Replica (Column LoadMode Row)

/-- A load in progress. -/
structure Loader (γ : Type) where
  client : γ
  table : String
  columns : List Column
  mode : LoadMode
  deriving Repr, Inhabited

variable {π γ : Type}

namespace Database

def warehouseTables (d : Database π) (stem : String) : Attempt π γ (List String) :=
  d.ask .listWarehouse warehouseTablesQuery [some d.schema, some stem] (·.name)

def hasWarehouseTable (d : Database π) (table : String) : Attempt π γ Bool :=
  d.askOne .checkWarehouse warehouseExistsQuery [some d.schema, some table] (·.truth)

def dropTable (d : Database π) (table : String) : Attempt π γ Unit :=
  Attempt.batchOn d.pool (Statements.dropTable table)

/-- The columns of a warehouse table.  The catalog is asked without regard to letter case, so the
columns of tables of other names are left out. -/
def describeTable (d : Database π) (table : String) : Attempt π γ (List Schema.ColumnRecord) := do
  return (← d.columns (some table)).filter (·.table == table)

def rowCount (d : Database π) (table : String) : Attempt π γ Nat :=
  d.askOne (.countRows table) (Statements.countRows table) [] (·.count)

/-- Runs statements one by one and goes on past those that fail. -/
def tryAll (d : Database π) : List String → Work π γ Unit
  | [] => .done ()
  | sql :: rest => (Attempt.batchOn d.pool sql).run.bind fun _ => tryAll d rest

/-- Adds the primary key, which must succeed, and the indexes, which need not. -/
def finalize (d : Database π) (table : String) (key : List String) (columns : List Column) :
    Attempt π γ Unit := do
  if let some sql := Statements.addPrimaryKey table key then Attempt.batchOn d.pool sql
  ExceptT.lift (d.tryAll (columns.filterMap (Statements.createIndex table)))

/-- Opens a transaction and makes its table ready; a client that could not do so is discarded. -/
def beginLoad (d : Database π) (table : String) (columns : List Column) (mode : LoadMode) :
    Attempt π γ (Loader γ) :=
  let setup := match mode with
    | .create => Statements.beginCreate table columns
    | .replace => Statements.beginReplace table
  .mk <| .ask (.checkOut d.pool) fun
    | .error fault => .done (.error (.execution fault))
    | .ok client => .ask (.batch client setup) fun
      | .error fault => .ask (.discard client) fun () =>
        .done (.error (Attempt.faultOf (.beginLoad table) fault))
      | .ok () => .ask (.guard client) fun () => .done (.ok ⟨client, table, columns, mode⟩)

end Database

namespace Loader

/-- Writes a batch of rows.  The cells of all rows must be as many as the statement has
parameters. -/
def insert (l : Loader γ) (rows : List Row) : Attempt π γ Nat := do
  if rows.isEmpty then return 0
  let statement ← Attempt.prepareOnce l.client .prepareInsert
    (Statements.insert l.table l.columns rows.length)
  let params := rows.flatten
  if params.length ≠ rows.length * l.columns.length then
    throw (.execution (.rowWidth l.columns.length l.table))
  return (← Attempt.execute l.client (.insertRows l.table) statement params).affected

/-- Ends the transaction; the client goes back only if that succeeds. -/
def finish (l : Loader γ) (sql : String) : Attempt π γ Unit :=
  .mk <| .ask (.unguard l.client) fun () =>
    .ask (.batch l.client sql) fun
      | .error fault => .ask (.discard l.client) fun () =>
        .done (.error (Attempt.faultOf (.finishLoad l.table) fault))
      | .ok () => .ask (.giveBack l.client) fun () => .done (.ok ())

def commit (l : Loader γ) : Attempt π γ Unit :=
  l.finish <| match l.mode with
    | .create => Statements.commit
    | .replace => Statements.commitReplace l.table

def rollback (l : Loader γ) : Attempt π γ Unit := l.finish Statements.rollback

/-- Drops the load with its transaction. -/
def drop (l : Loader γ) : Work π γ Unit := .ask (.discard l.client) .done

end Loader

end Granary.Postgres
