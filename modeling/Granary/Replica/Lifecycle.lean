import Granary.Replica.Copy
import Granary.Replica.Report

/-!
# Lifecycles

A lifecycle holds the lease of its connection name from its first call to its last.  A first run and
a full refresh create the tables and stop at the first table that fails; a refresh replaces the rows
of the tables that are there, and goes on past a table that fails.

The work on each table is a program of its own (`loadTask`, `refreshTask`), and a lifecycle runs
them in the order of the source.
-/

namespace Granary.Replica

variable {κ ω α : Type}

/-- A failure to look at the source, unless it already is one. -/
def sourceFailure : Error → Error
  | .schemaUnavailable cause => .schemaUnavailable cause
  | cause => .schemaUnavailable cause

/-- Describes a source table. -/
def describe (table : String) : Attempt κ ω SourceTable :=
  .failingAs sourceFailure (.describeSource table)

/-- Creates and fills the warehouse table of one source table; one without columns is left out. -/
def loadTask (pace : Pace) (connection table : String) : Attempt κ ω (Option TableReport) := do
  let source ← describe table
  if source.columns.isEmpty then return none
  let columns := source.columns.map Column.ofSource
  let target := tableName connection source.name
  let rows ← copyTable pace source.name target columns .create
  Attempt.failingAs (copyFailure target) (.finalize target source.primaryKey columns)
  return some (.copied source target columns rows .loaded)

/-- Replaces the rows of the warehouse table of one source table, if there is such a table and it
has columns. -/
def replaceRows (pace : Pace) (connection table : String) : Attempt κ ω (Option TableReport) := do
  let target := tableName connection table
  if !(← Attempt.tableExists target) then return none
  let source ← describe table
  if source.columns.isEmpty then return none
  let columns := source.columns.map Column.ofSource
  let rows ← copyTable pace source.name target columns .replace
  return some (.copied source target columns rows .refreshed)

/-- Replaces the rows of one table; a failure goes into its report. -/
def refreshTask (pace : Pace) (connection table : String) : Work κ ω (Option TableReport) :=
  (replaceRows pace connection table).run.bind fun
    | .ok report => .done report
    | .error e => .done (some (.failed table (tableName connection table) e))

/-- Runs tasks in order, up to the first that fails. -/
def inOrder : List (Attempt κ ω (Option α)) → Attempt κ ω (List α)
  | [] => return []
  | task :: rest => do
    let first ← task
    return first.toList ++ (← inOrder rest)

/-- The tables of the source. -/
def sourceTables : Attempt κ ω (List String) :=
  .failingAs sourceFailure .listSource

/-- Loads every table of the source. -/
def loadAll (pace : Pace) (connection : String) : Attempt κ ω (List TableReport) := do
  inOrder ((← sourceTables).map (loadTask pace connection))

/-- Loads a connection that has no tables yet. -/
def runTables (pace : Pace) (connection : String) : Attempt κ ω (List TableReport) := do
  let existing ← Attempt.listTables (stem connection)
  if !existing.isEmpty then throw (.connectionNameConflict connection)
  loadAll pace connection

/-- Drops tables in order. -/
def dropAll : List String → Attempt κ ω Unit
  | [] => return
  | table :: rest => do
    Attempt.dropTable table
    dropAll rest

/-- Drops every table of the connection and loads it from scratch. -/
def reloadTables (pace : Pace) (connection : String) : Attempt κ ω (List TableReport) := do
  dropAll (← Attempt.listTables (stem connection))
  loadAll pace connection

/-- Replaces the rows of every table that is there. -/
def refreshTables (pace : Pace) (connection : String) : Attempt κ ω (List TableReport) := do
  inOrder ((← sourceTables).map fun table => ExceptT.lift (refreshTask pace connection table))

/-- What a lifecycle does while it holds its lease. -/
def tables (mode : Mode) (pace : Pace) (connection : String) : Attempt κ ω (List TableReport) :=
  match mode with
  | .run => runTables pace connection
  | .refresh => refreshTables pace connection
  | .fullRefresh => reloadTables pace connection

/-- A lifecycle from its check of the connection name to its report. -/
def lifecycle (mode : Mode) (pace : Pace) (connection : String) : Attempt κ ω Report := do
  checkName connection
  let reports ← Attempt.holding connection (tables mode pace connection)
  return ⟨connection, mode, reports⟩

end Granary.Replica
