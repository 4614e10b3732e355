import Granary.Rehearsal.Replication

/-!
# Rehearsing replication with a catalog in words of its own

A catalog need not name the type of a column as the statement did that created its table: for some
types the standard has other names.  Here the warehouse describes its tables as it likes, and
`Standard` says that it does so by the names of the standard.
-/

namespace Granary.Rehearsal

open Replica (Answer Call Column ColumnType auditColumns)
open Schema (ColumnRecord)

/-- The name that the standard has for a type, without its limits. -/
def catalogName : ColumnType → String
  | .time => "time without time zone"
  | .timeTz => "time with time zone"
  | .timestamp => "timestamp without time zone"
  | .timestampTz => "timestamp with time zone"
  | type => standardName type

/-- How tables are described. -/
abbrev Description := StoredTable → List ColumnRecord

/-- The types of all columns of a new table. -/
def createdTypes (columns : List Column) : List ColumnType :=
  columns.map (·.type) ++ auditColumns.map fun _ => .timestamp

/-- New tables are described by the names that the standard has for the types of their columns.
Nothing is asked of the limits that are given with them. -/
def Standard (describe : Description) : Prop :=
  ∀ (t : StoredTable) (columns : List Column), t.columns = recordsOf t.name columns →
    (describe t).map (·.dataType) = (createdTypes columns).map catalogName

/-- Answers one call where the catalog has words of its own. -/
def Stage.handleDescribing (describe : Description) :
    (call : Call Cursor Loader) → Stage → Answer call × Stage
  | .describeTable table, s =>
    s.attempt ⟨.describeTable table, 0⟩ "warehouse.describe_table" table
      (answer fun s => .ok (((s.warehouse.table? table).map describe).getD []))
  | call, s => handle call s

/-- The names that the standard has for types that go by shorter ones. -/
def fullNames : Named String :=
  [("time", "time without time zone"), ("timetz", "time with time zone"),
    ("timestamp", "timestamp without time zone"), ("timestamptz", "timestamp with time zone")]

/-- Describes a table with the limits that its columns declare. -/
def inFull : Description := fun t =>
  t.columns.map fun r => { r with dataType := (fullNames.get? r.dataType).getD r.dataType }

end Granary.Rehearsal
