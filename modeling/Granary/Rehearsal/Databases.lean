import Granary.Replica.Call

/-!
# Databases in memory

A source and a warehouse that replication can be rehearsed on.  The warehouse has transactions:
what a loader writes can be seen once it has committed, and not before.
-/

namespace Granary.Rehearsal

open Replica (auditColumns Column ColumnType LoadMode Row SourceColumn SourceTable)
open Schema (ColumnRecord)

/-- A source table with its rows. -/
structure StoredSource where
  name : String
  columns : List SourceColumn
  primaryKey : List String
  rows : List Row
  /-- The name under which the table describes itself, if another. -/
  describedAs : Option String := none
  deriving DecidableEq, Repr, Inhabited

namespace StoredSource

def describedName (t : StoredSource) : String := t.describedAs.getD t.name

def description (t : StoredSource) : SourceTable := ⟨t.describedName, t.columns, t.primaryKey⟩

/-- Rows that can be told apart: each cell is named after its row and its column. -/
def numberedRows (rows columns : Nat) : List Row :=
  (List.range rows).map fun r => (List.range columns).map fun c => some s!"r{r + 1}c{c + 1}"

end StoredSource

structure Source where
  tables : List StoredSource := []
  /-- The tables that are listed, if not those that are there. -/
  listed : Option (List String) := none
  deriving DecidableEq, Repr, Inhabited

namespace Source

def list (s : Source) : List String := s.listed.getD (s.tables.map (·.name))

def describe (s : Source) (name : String) : Except Error SourceTable :=
  match s.tables.find? (·.name == name) with
  | some t => .ok t.description
  | none => .error (.unknownTable name)

def rowsOf (s : Source) (name : String) : Except Error (List Row) :=
  match s.tables.find? (·.describedName == name) with
  | some t => .ok t.rows
  | none => .error (.unknownTable name)

end Source

/-- A warehouse table. -/
structure StoredTable where
  name : String
  columns : List ColumnRecord := []
  rows : List Row := []
  primaryKey : List String := []
  /-- How often the rows have been replaced. -/
  refreshed : Nat := 0
  /-- The number of rows that is claimed, if not that of the rows. -/
  claimedRows : Option Nat := none
  deriving DecidableEq, Repr, Inhabited

def StoredTable.rowCount (t : StoredTable) : Nat := t.claimedRows.getD t.rows.length

/-- The name of a column's type in the standard, without its limits. -/
def standardName : ColumnType → String
  | .varchar _ => "character varying"
  | .char _ => "character"
  | .numeric .. => "numeric"
  | type => type.ddl

/-- A column as the catalog of the warehouse lists it. -/
def recordOf (table : String) (ordinal : Nat) (c : Column) : ColumnRecord :=
  let name := standardName c.type
  let base : ColumnRecord := ⟨table, c.name, name, name, c.nullable, ordinal, none, none, none⟩
  match c.type with
  | .varchar n => { base with maxLength := some n }
  | .char n => { base with maxLength := some n }
  | .numeric precision scale => { base with precision := some precision, scale := some scale }
  | _ => base

/-- The columns of a new table as its catalog lists them. -/
def recordsOf (table : String) (columns : List Column) : List ColumnRecord :=
  let own := columns.zipIdx.map fun (c, i) => recordOf table (i + 1) c
  let audit := auditColumns.zipIdx.map fun (name, i) =>
    (⟨table, name, "timestamp", "timestamp", true, columns.length + i + 1, none, none, none⟩ :
      ColumnRecord)
  own ++ audit

/-- Tables in ascending order of their names. -/
structure Warehouse where
  tables : List StoredTable := []
  deriving DecidableEq, Repr, Inhabited

namespace Warehouse

def table? (w : Warehouse) (name : String) : Option StoredTable := w.tables.find? (·.name == name)

def has (w : Warehouse) (name : String) : Bool := (w.table? name).isSome

/-- Puts a table at its place among tables in ascending order. -/
def putIn (t : StoredTable) : List StoredTable → List StoredTable
  | [] => [t]
  | other :: rest =>
    if t.name = other.name then t :: rest
    else if t.name < other.name then t :: other :: rest
    else other :: putIn t rest

def put (w : Warehouse) (t : StoredTable) : Warehouse := ⟨putIn t w.tables⟩

def drop (w : Warehouse) (name : String) : Warehouse := ⟨w.tables.filter (·.name != name)⟩

/-- The tables whose names begin with `stem`. -/
def startingWith (w : Warehouse) (stem : String) : List String :=
  (w.tables.map (·.name)).filter fun name => stem.toList.isPrefixOf name.toList

/-- The table after a load has committed. -/
def commit (w : Warehouse) (name : String) (columns : List Column) (mode : LoadMode)
    (rows : List Row) : Warehouse :=
  match mode with
  | .create => w.put { name, columns := recordsOf name columns, rows }
  | .replace =>
    let old := (w.table? name).getD { name }
    w.put { old with rows, refreshed := old.refreshed + 1, claimedRows := none }

/-- Adds a primary key to a table that is there. -/
def setPrimaryKey (w : Warehouse) (name : String) (key : List String) : Warehouse :=
  match w.table? name with
  | some t => w.put { t with primaryKey := key }
  | none => w

end Warehouse

end Granary.Rehearsal
