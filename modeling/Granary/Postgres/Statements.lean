import Granary.Replica.ColumnType
import Granary.Replica.Name
import Granary.Sql.Dialect

/-!
# The statements of replication

Source columns are read as texts, cast to the types of their warehouse columns on the way; texts are
written as parameters and cast back.
-/

namespace Granary.Postgres

open Replica (Column ColumnType)
open Sql (commas quoteIdent)

/-- How an index is named after the class of its column; other columns have none. -/
def indexKind (type : ColumnType) : Option String :=
  if type.isTemporal then some "date" else if type.isNumeric then some "num" else none

namespace Statements

def castAs (expr : String) (type : ColumnType) : String :=
  "CAST(" ++ expr ++ " AS " ++ type.ddl ++ ")"

/-- The definition of a column in a new table. -/
def columnDefinition (c : Column) : String :=
  quoteIdent c.name ++ " " ++ c.type.ddl ++ if c.nullable then "" else " NOT NULL"

def auditDefinition (name : String) : String :=
  quoteIdent name ++ " timestamp DEFAULT CURRENT_TIMESTAMP"

/-- Creates a table with its columns and the audit columns. -/
def createTable (table : String) (columns : List Column) : String :=
  let definitions := columns.map columnDefinition ++ Replica.auditColumns.map auditDefinition
  "CREATE TABLE " ++ quoteIdent table ++ " (" ++ commas definitions ++ ")"

/-- The values of one row, whose parameters follow `passed` others. -/
def valueTuple (passed : Nat) (columns : List Column) : String :=
  let cells := columns.zipIdx.map fun (c, i) => castAs (Sql.placeholder (passed + i)) c.type
  "(" ++ commas cells ++ ")"

/-- Inserts rows whose cells are parameters, row by row. -/
def insert (table : String) (columns : List Column) (rows : Nat) : String :=
  let names := columns.map fun c => quoteIdent c.name
  let tuples := (List.range rows).map fun row => valueTuple (row * columns.length) columns
  "INSERT INTO " ++ quoteIdent table ++ " (" ++ commas names ++ ") VALUES " ++ commas tuples

/-- Adds a primary key, unless it has no columns. -/
def addPrimaryKey (table : String) (key : List String) : Option String :=
  if key.isEmpty then none
  else
    some ("ALTER TABLE " ++ quoteIdent table ++ " ADD PRIMARY KEY (" ++
      commas (key.map quoteIdent) ++ ")")

/-- Creates the index of a column, if it is to have one. -/
def createIndex (table : String) (c : Column) : Option String :=
  (indexKind c.type).map fun kind =>
    "CREATE INDEX IF NOT EXISTS " ++ quoteIdent (Replica.indexName table c.name kind) ++ " ON " ++
      quoteIdent table ++ " (" ++ quoteIdent c.name ++ ")"

def dropTable (table : String) : String := "DROP TABLE IF EXISTS " ++ quoteIdent table

def countRows (table : String) : String := "SELECT COUNT(*) FROM " ++ quoteIdent table

/-- Opens a transaction and creates the table in it. -/
def beginCreate (table : String) (columns : List Column) : String :=
  "BEGIN; " ++ createTable table columns

/-- Opens a transaction and empties the table in it, with its triggers off. -/
def beginReplace (table : String) : String :=
  "BEGIN; ALTER TABLE " ++ quoteIdent table ++ " DISABLE TRIGGER USER; TRUNCATE TABLE " ++
    quoteIdent table

def commit : String := "COMMIT"

/-- Turns the triggers on again and commits. -/
def commitReplace (table : String) : String :=
  "ALTER TABLE " ++ quoteIdent table ++ " ENABLE TRIGGER USER; COMMIT"

def rollback : String := "ROLLBACK"

/-- Reads every column as a text, cast to the type of its warehouse column. -/
def select (schema table : String) (columns : List Column) : String :=
  let cells := columns.map fun c => "CAST(" ++ castAs (quoteIdent c.name) c.type ++ " AS text)"
  "SELECT " ++ commas cells ++ " FROM " ++ quoteIdent schema ++ "." ++ quoteIdent table

def cursorName : String := "canvasql_etl_cursor"

/-- Opens a transaction that only reads, and a cursor in it. -/
def openCursor (schema table : String) (columns : List Column) : String :=
  "BEGIN READ ONLY; DECLARE " ++ cursorName ++ " NO SCROLL CURSOR FOR " ++
    select schema table columns

def fetch (rows : Nat) : String := s!"FETCH FORWARD {rows} FROM {cursorName}"

/-- Closes the cursor and ends its transaction. -/
def closeCursor : String := s!"CLOSE {cursorName}; COMMIT"

end Statements

end Granary.Postgres
