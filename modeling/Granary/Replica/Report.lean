import Granary.Replica.Call
import Granary.Replica.Request

/-!
# Reports

What a replication did, table by table.
-/

namespace Granary.Replica

inductive TableStatus where
  | loaded | refreshed | failed
  deriving DecidableEq, Repr, Inhabited

def TableStatus.name : TableStatus → String
  | .loaded => "loaded"
  | .refreshed => "refreshed"
  | .failed => "failed"

structure TableReport where
  sourceTable : String
  table : String
  columns : Nat := 0
  rows : Nat := 0
  primaryKey : List String := []
  dateColumns : List String := []
  numericColumns : List String := []
  status : TableStatus
  /-- Why a failed table failed. -/
  error : Option String := none
  deriving DecidableEq, Repr, Inhabited

namespace TableReport

/-- The report of a table that was copied. -/
def copied (source : SourceTable) (table : String) (columns : List Column) (rows : Nat)
    (status : TableStatus) : TableReport where
  sourceTable := source.name
  table := table
  columns := columns.length
  rows := rows
  primaryKey := source.primaryKey
  dateColumns := (columns.filter (·.type.isTemporal)).map (·.name)
  numericColumns := (columns.filter (·.type.isNumeric)).map (·.name)
  status := status

/-- The report of a table that was not. -/
def failed (sourceTable table : String) (cause : Error) : TableReport :=
  { sourceTable, table, status := .failed, error := some cause.message }

def toJson (r : TableReport) : Json :=
  Json.ofFields <|
    [("source_table", .string r.sourceTable), ("warehouse_table", .string r.table),
      ("columns_count", Json.nat r.columns), ("rows_count", Json.nat r.rows),
      ("primary_key", Json.strings r.primaryKey), ("date_columns", Json.strings r.dateColumns),
      ("numeric_columns", Json.strings r.numericColumns), ("status", .string r.status.name)] ++
    r.error.toList.map fun e => ("error", .string e)

end TableReport

structure Report where
  connection : String
  mode : Mode
  tables : List TableReport
  deriving DecidableEq, Repr, Inhabited

namespace Report

def totalTables (r : Report) : Nat := r.tables.length

def totalRows (r : Report) : Nat := (r.tables.map (·.rows)).foldr (· + ·) 0

def failedTables (r : Report) : List TableReport := r.tables.filter (·.status == .failed)

def toJson (r : Report) : Json :=
  Json.ofFields [("connection_name", .string r.connection), ("mode", .string r.mode.name),
    ("tables", .array (r.tables.map TableReport.toJson)),
    ("total_tables", Json.nat r.totalTables), ("total_rows", Json.nat r.totalRows)]

end Report

end Granary.Replica
