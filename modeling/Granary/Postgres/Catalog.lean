import Granary.Postgres.Call
import Granary.Schema.Catalog

/-!
# Asking for the catalog

The catalog queries and what their rows say.  All of them look at one schema only.
-/

namespace Granary.Postgres

/-! ## Queries -/

def baseTablesQuery : String :=
  "SELECT table_name::text FROM information_schema.tables " ++
    "WHERE table_schema = $1 AND table_type = 'BASE TABLE' ORDER BY table_name"

/-- Looks for a table without regard to letter case. -/
def tableExistsQuery : String :=
  "SELECT EXISTS (SELECT 1 FROM information_schema.tables " ++
    "WHERE table_schema = $1 AND lower(table_name) = lower($2))"

/-- The columns of one table, without regard to letter case, or of all tables. -/
def columnsQuery : String := "
    SELECT table_name::text, column_name::text, data_type::text, udt_name::text,
           is_nullable::text, ordinal_position::int4, character_maximum_length::int4,
           numeric_precision::int4, numeric_scale::int4
    FROM information_schema.columns
    WHERE table_schema = $1 AND ($2::text IS NULL OR lower(table_name) = lower($2))
    ORDER BY table_name, ordinal_position
"

/-- The primary key columns of one table, without regard to letter case, or of all tables. -/
def primaryKeysQuery : String := "
    SELECT tc.table_name::text, kcu.column_name::text, kcu.ordinal_position::int4
    FROM information_schema.table_constraints tc
    JOIN information_schema.key_column_usage kcu
        ON tc.constraint_name = kcu.constraint_name
        AND tc.table_schema = kcu.table_schema
        AND tc.table_name = kcu.table_name
    WHERE tc.constraint_type = 'PRIMARY KEY'
        AND tc.table_schema = $1
        AND ($2::text IS NULL OR lower(tc.table_name) = lower($2))
    ORDER BY tc.table_name, kcu.ordinal_position
"

def foreignKeysQuery : String := "
    SELECT tc.table_name::text, kcu.column_name::text, ccu.table_name::text, ccu.column_name::text
    FROM information_schema.table_constraints tc
    JOIN information_schema.key_column_usage kcu
        ON tc.constraint_name = kcu.constraint_name
        AND tc.table_schema = kcu.table_schema
    JOIN information_schema.constraint_column_usage ccu
        ON tc.constraint_name = ccu.constraint_name
        AND tc.table_schema = ccu.table_schema
    WHERE tc.constraint_type = 'FOREIGN KEY' AND tc.table_schema = $1
"

/-- The tables whose names begin with a text. -/
def warehouseTablesQuery : String :=
  "SELECT tablename::text FROM pg_tables " ++
    "WHERE schemaname = $1 AND left(tablename::text, char_length($2::text)) = $2::text " ++
    "ORDER BY tablename"

/-- Looks for a table of exactly one name. -/
def warehouseExistsQuery : String :=
  "SELECT EXISTS (SELECT 1 FROM pg_tables WHERE schemaname = $1 AND tablename = $2)"

/-! ## Rows -/

/-- The cells of a catalog row by position.  The queries ask for texts and for numbers of four
octets, so the cells have these forms; a cell that may be missing is null then. -/
structure CatalogRow where
  cells : List Cell

namespace CatalogRow

def cell (r : CatalogRow) (i : Nat) : Cell := (r.cells[i]?).join

def text (r : CatalogRow) (i : Nat) : String := ((r.cell i).bind Wire.text?).getD ""

def number? (r : CatalogRow) (i : Nat) : Option Int := (r.cell i).bind (Wire.signed? 4)

def number (r : CatalogRow) (i : Nat) : Int := (r.number? i).getD 0

def column (r : CatalogRow) : Schema.ColumnRecord :=
  ⟨r.text 0, r.text 1, r.text 2, r.text 3, r.text 4 == "YES", r.number 5, r.number? 6, r.number? 7,
    r.number? 8⟩

def key (r : CatalogRow) : Schema.KeyRecord := ⟨r.text 0, r.text 1, r.number 2⟩

def reference (r : CatalogRow) : Schema.ReferenceRecord :=
  ⟨r.text 0, r.text 1, r.text 2, r.text 3⟩

def name (r : CatalogRow) : String := r.text 0

/-- Whether the one cell of an answer is true. -/
def truth (r : CatalogRow) : Bool := ((r.cell 0).bind Wire.truth?).getD false

/-- The count that the one cell of an answer holds; a count below zero counts as none. -/
def count (r : CatalogRow) : Nat := (((r.cell 0).bind (Wire.signed? 8)).getD 0).toNat

end CatalogRow

namespace Database

variable {π γ α : Type}

/-- Runs a catalog query on a client of its own. -/
def ask (d : Database π) (action : Action) (sql : String) (params : List Param)
    (read : CatalogRow → α) : Attempt π γ (List α) :=
  Attempt.withClient d.pool fun client => do
    return (← Attempt.query client action sql params).rows.map fun cells => read ⟨cells⟩

/-- Runs a catalog query that has one row. -/
def askOne (d : Database π) (action : Action) (sql : String) (params : List Param)
    (read : CatalogRow → α) : Attempt π γ α :=
  Attempt.withClient d.pool fun client => do
    return read ⟨← Attempt.queryOne client action sql params⟩

def baseTables (d : Database π) : Attempt π γ (List String) :=
  d.ask .listTables baseTablesQuery [some d.schema] (·.name)

def hasTable (d : Database π) (table : String) : Attempt π γ Bool :=
  d.askOne .checkTable tableExistsQuery [some d.schema, some table] (·.truth)

def columns (d : Database π) (table : Option String) : Attempt π γ (List Schema.ColumnRecord) :=
  d.ask .fetchColumns columnsQuery [some d.schema, table] (·.column)

def primaryKeys (d : Database π) (table : Option String) : Attempt π γ (List Schema.KeyRecord) :=
  d.ask .fetchPrimaryKeys primaryKeysQuery [some d.schema, table] (·.key)

def foreignKeys (d : Database π) : Attempt π γ (List Schema.ReferenceRecord) :=
  d.ask .fetchForeignKeys foreignKeysQuery [some d.schema] (·.reference)

/-- Executes a statement as it is, so that its order of rows is kept. -/
def run (d : Database π) (sql : String) (params : List String) : Attempt π γ (List Json) :=
  Attempt.withClient d.pool fun client => do
    let statement ← Attempt.prepare client .prepareQuery sql
    return (← Attempt.execute client .executeQuery statement (params.map some)).toJson

end Database

end Granary.Postgres
