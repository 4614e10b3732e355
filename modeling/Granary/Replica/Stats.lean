import Granary.Replica.Call
import Granary.Replica.Name

/-!
# What the warehouse holds

Replicated tables with their rows and columns, and the columns of one table with the class of each.
-/

namespace Granary.Replica

variable {κ ω : Type}

/-- The type that a catalog column has. -/
def columnClass (c : Schema.ColumnRecord) : Option ColumnType :=
  ColumnType.ofSource? c.dataType ⟨c.maxLength, c.precision, c.scale⟩

structure TableStats where
  table : String
  connection : String
  sourceTable : String
  rows : Nat
  columns : Nat
  dateColumns : Nat
  numericColumns : Nat
  deriving DecidableEq, Repr, Inhabited

namespace TableStats

def of (table connection sourceTable : String) (rows : Nat) (columns : List Schema.ColumnRecord) :
    TableStats where
  table := table
  connection := connection
  sourceTable := sourceTable
  rows := rows
  columns := columns.length
  dateColumns := columns.countP fun c => (columnClass c).any (·.isTemporal)
  numericColumns := columns.countP fun c => (columnClass c).any (·.isNumeric)

def toJson (t : TableStats) : Json :=
  Json.ofFields [("table_name", .string t.table), ("connection_name", .string t.connection),
    ("source_table", .string t.sourceTable), ("row_count", Json.nat t.rows),
    ("total_columns", Json.nat t.columns), ("date_columns", Json.nat t.dateColumns),
    ("numeric_columns", Json.nat t.numericColumns)]

end TableStats

/-- The replicated tables of a warehouse. -/
structure Stats where
  tables : List TableStats
  deriving DecidableEq, Repr, Inhabited

/-- Adds a name to names in ascending order, unless it is there. -/
def insertName (name : String) : List String → List String
  | [] => [name]
  | other :: rest =>
    if name = other then other :: rest
    else if name < other then name :: other :: rest
    else other :: insertName name rest

namespace Stats

def totalRows (s : Stats) : Nat := (s.tables.map (·.rows)).foldr (· + ·) 0

/-- The connections in ascending order, each once. -/
def connections (s : Stats) : List String :=
  s.tables.foldl (fun names t => insertName t.connection names) []

def toJson (s : Stats) : Json :=
  Json.ofFields [("tables", .array (s.tables.map TableStats.toJson)),
    ("summary", Json.ofFields [("total_tables", Json.nat s.tables.length),
      ("total_rows", Json.nat s.totalRows), ("connections", Json.strings s.connections)])]

end Stats

/-- Looks at the tables whose names tell where they came from. -/
def statsOf : List String → Attempt κ ω (List TableStats)
  | [] => return []
  | table :: rest =>
    match Text.cut separator table with
    | none => statsOf rest
    | some (connection, sourceTable) => do
      let rows ← Attempt.rowCount table
      let columns ← Attempt.describeTable table
      return .of table connection sourceTable rows columns :: (← statsOf rest)

/-- Row and column counts of every replicated table. -/
def warehouseStats : Attempt κ ω Stats := do
  let tables ← Attempt.listTables ""
  return ⟨← statsOf tables⟩

/-- One column of a table with its class. -/
structure ColumnInfo where
  column : Schema.ColumnRecord
  isDate : Bool
  isNumeric : Bool
  isText : Bool
  deriving DecidableEq, Repr, Inhabited

namespace ColumnInfo

def of (c : Schema.ColumnRecord) : ColumnInfo :=
  let type? := columnClass c
  ⟨c, type?.any (·.isTemporal), type?.any (·.isNumeric), type?.any (·.isText)⟩

def toJson (i : ColumnInfo) : Json :=
  Json.ofFields [("column_name", .string i.column.name), ("data_type", .string i.column.dataType),
    ("is_nullable", .bool i.column.nullable), ("max_length", Json.ofOption .int i.column.maxLength),
    ("precision", Json.ofOption .int i.column.precision),
    ("scale", Json.ofOption .int i.column.scale), ("ordinal_position", .int i.column.ordinal),
    ("is_date_type", .bool i.isDate), ("is_numeric_type", .bool i.isNumeric),
    ("is_text_type", .bool i.isText)]

end ColumnInfo

/-- The columns of one warehouse table. -/
structure TableInfo where
  table : String
  columns : List ColumnInfo
  deriving DecidableEq, Repr, Inhabited

def TableInfo.toJson (t : TableInfo) : Json :=
  Json.ofFields [("table_name", .string t.table),
    ("columns", .array (t.columns.map ColumnInfo.toJson)),
    ("summary", Json.ofFields [("total_columns", Json.nat t.columns.length),
      ("date_columns", Json.nat (t.columns.countP (·.isDate))),
      ("numeric_columns", Json.nat (t.columns.countP (·.isNumeric))),
      ("text_columns", Json.nat (t.columns.countP (·.isText)))])]

/-- The columns of one warehouse table with their classes. -/
def tableInfo (table : String) : Attempt κ ω TableInfo := do
  let columns ← Attempt.describeTable table
  if columns.isEmpty then throw (.unknownTable table)
  return ⟨table, columns.map ColumnInfo.of⟩

end Granary.Replica
