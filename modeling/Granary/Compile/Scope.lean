import Granary.Error
import Granary.Schema.Snapshot
import Granary.Sql.Expr
import Granary.Text.Blank
import Granary.Text.Split

/-!
# Column references and the tables they are looked up in

A request refers to a column by its name or as `table.column`.  A reference is resolved among the
tables of the query: with a snapshot the column must exist there, and a bare name belongs to the
first table that has it; without one the reference is taken as it is.
-/

namespace Granary

open Text (lowercase trim)

/-- A column as a request refers to it, in lower case. -/
structure ColumnRef where
  table : Option String
  column : String
  deriving DecidableEq, Repr, Inhabited

/-- Reads `column` or `table.column`; blanks around either part do not matter. -/
def ColumnRef.parse (raw : String) : Except Refusal ColumnRef :=
  let raw := trim raw
  let bad := Except.error (.badColumnReference raw)
  match Text.cut "." raw with
  | none => if raw.isEmpty then bad else .ok ⟨none, lowercase raw⟩
  | some (table, column) =>
    let table := trim table
    let column := trim column
    if column.isEmpty || column.toList.contains '.' || table.isEmpty then bad
    else .ok ⟨some (lowercase table), lowercase column⟩

/-- A reference that has been resolved. -/
structure Resolved where
  /-- The column as it is written: a bare reference stays bare. -/
  expr : Sql.Expr
  /-- The table that the column belongs to. -/
  table : String
  column : String
  /-- The type of the column in the catalog, if known. -/
  type? : Option String
  deriving BEq, Repr, Inhabited

/-- Whether two references are to the same column, however they are written. -/
def Resolved.sameColumn (a b : Resolved) : Bool := a.table == b.table && a.column == b.column

/-- The tables of a query, the root first and then in the order of the joins. -/
structure Scope where
  root : String
  joined : List String := []
  snapshot? : Option Snapshot := none
  deriving Repr, Inhabited

namespace Scope

def tables (s : Scope) : List String := s.root :: s.joined

/-- Adds a table, unless it is there. -/
def add (s : Scope) (table : String) : Scope :=
  let table := lowercase table
  if s.tables.contains table then s else { s with joined := s.joined ++ [table] }

/-- The table that a reference is to. -/
def owner (s : Scope) (snapshot : Snapshot) (ref : ColumnRef) : Except Error String :=
  match ref.table with
  | some table =>
    if !s.tables.contains table then .error (.unknownTable table)
    else if !snapshot.hasColumn table ref.column then .error (.unknownColumn [table] ref.column)
    else .ok table
  | none =>
    match s.tables.find? fun table => snapshot.hasColumn table ref.column with
    | some table => .ok table
    | none => .error (.unknownColumn s.tables ref.column)

def resolveRef (s : Scope) (ref : ColumnRef) : Except Error Resolved :=
  match s.snapshot? with
  | none => .ok ⟨.column ref.table ref.column, ref.table.getD s.root, ref.column, none⟩
  | some snapshot => do
    let table ← s.owner snapshot ref
    let table? := ref.table.map snapshot.tableSpelling
    return ⟨.column table? (snapshot.columnSpelling table ref.column), table, ref.column,
      snapshot.columnType? table ref.column⟩

def resolve (s : Scope) (raw : String) : Except Error Resolved := do
  s.resolveRef (← (ColumnRef.parse raw).mapError .validation)

/-- Resolves a reference, a bare one as a column of the given table. -/
def resolveOn (s : Scope) (table raw : String) : Except Error Resolved := do
  let ref ← (ColumnRef.parse raw).mapError .validation
  s.resolveRef { ref with table := some (ref.table.getD (lowercase table)) }

end Scope

end Granary
