import Granary.Named
import Granary.Text.Casing

/-!
# Snapshots of a catalog

A snapshot knows the tables of a schema with their columns, column types and keys.  Names are looked
up in lower case, and for every name the snapshot keeps the spelling in which it met it first, which
is the one that statements use.

A snapshot is built up by adding tables, columns and keys in any order.
-/

namespace Granary

open Text (lowercase)

namespace Schema

/-- One table.  Its columns are named by their keys, which are their names in lower case. -/
structure Table where
  key : String
  /-- The name of the table as it was first met. -/
  spelling : String
  /-- The columns in order. -/
  columns : List String := []
  /-- The spelling in which each column was first met. -/
  spellings : Named String := []
  /-- The type last given for each column, where one was given. -/
  types : Named String := []
  deriving DecidableEq, Repr, Inhabited

namespace Table

/-- Adds a column at the end, unless it is there; a type that is given counts in either case. -/
def addColumn (t : Table) (name : String) (typeName : Option String) : Table :=
  let key := lowercase name
  { t with
    spellings := t.spellings.setNew key name
    columns := if t.columns.contains key then t.columns else t.columns ++ [key]
    types := match typeName with
      | some ty => t.types.set key ty
      | none => t.types }

end Table

/-- A declared reference of one column to another, all names in lower case. -/
structure ForeignKey where
  referencingTable : String
  referencingColumn : String
  referencedTable : String
  referencedColumn : String
  deriving DecidableEq, Repr, Inhabited

end Schema

open Schema (Table ForeignKey)

/-- What is known of a schema: the tables in ascending order of their keys, the columns of each
primary key in key order, and the foreign keys in the order of their declaration. -/
structure Snapshot where
  tables : List Table := []
  primaryKeys : Named (List String) := []
  foreignKeys : List ForeignKey := []
  deriving DecidableEq, Repr, Inhabited

namespace Snapshot

/-- Changes the table of the given name, in a list in ascending order of keys.  A table that is not
there comes into being, spelled as the name. -/
def updateIn (name : String) (change : Table → Table) : List Table → List Table
  | [] => [change { key := lowercase name, spelling := name }]
  | t :: rest =>
    if t.key = lowercase name then change t :: rest
    else if lowercase name < t.key then
      change { key := lowercase name, spelling := name } :: t :: rest
    else t :: updateIn name change rest

def update (s : Snapshot) (name : String) (change : Table → Table) : Snapshot :=
  { s with tables := updateIn name change s.tables }

/-- Adds one column. -/
def addColumn (s : Snapshot) (table column : String) (typeName : Option String) : Snapshot :=
  s.update table fun t => t.addColumn column typeName

/-- Declares a table with exactly these columns, whatever columns it had before. -/
def declare (s : Snapshot) (table : String) (columns : List String) : Snapshot :=
  s.update table fun t => columns.foldl (fun t c => t.addColumn c none) { t with columns := [] }

/-- Adds columns with their types. -/
def addTyped (s : Snapshot) (table : String) (columns : List (String × String)) : Snapshot :=
  s.update table fun t => columns.foldl (fun t c => t.addColumn c.1 (some c.2)) t

def setPrimaryKey (s : Snapshot) (table : String) (columns : List String) : Snapshot :=
  { s with primaryKeys := s.primaryKeys.set (lowercase table) (columns.map lowercase) }

def addForeignKey (s : Snapshot)
    (referencingTable referencingColumn referencedTable referencedColumn : String) : Snapshot :=
  { s with
    foreignKeys := s.foreignKeys ++ [⟨lowercase referencingTable, lowercase referencingColumn,
      lowercase referencedTable, lowercase referencedColumn⟩] }

/-- The keys of the tables in ascending order. -/
def tableKeys (s : Snapshot) : List String := s.tables.map (·.key)

def table? (s : Snapshot) (name : String) : Option Table :=
  s.tables.find? (·.key == lowercase name)

def hasTable (s : Snapshot) (name : String) : Bool := (s.table? name).isSome

/-- The columns of a table in order. -/
def columns? (s : Snapshot) (table : String) : Option (List String) :=
  (s.table? table).map (·.columns)

def hasColumn (s : Snapshot) (table column : String) : Bool :=
  ((s.columns? table).getD []).contains (lowercase column)

def columnType? (s : Snapshot) (table column : String) : Option String :=
  (s.table? table).bind fun t => t.types.get? (lowercase column)

/-- The columns of the primary key in key order. -/
def primaryKeyOf (s : Snapshot) (table : String) : List String :=
  (s.primaryKeys.get? (lowercase table)).getD []

/-- The first column of the primary key. -/
def leadingKey? (s : Snapshot) (table : String) : Option String := (s.primaryKeyOf table).head?

/-- A table as the catalog spells it; one that is not there is spelled in lower case. -/
def tableSpelling (s : Snapshot) (name : String) : String :=
  ((s.table? name).map (·.spelling)).getD (lowercase name)

/-- A column as the catalog spells it; one that is not there is spelled in lower case. -/
def columnSpelling (s : Snapshot) (table column : String) : String :=
  ((s.table? table).bind fun t => t.spellings.get? (lowercase column)).getD (lowercase column)

end Snapshot

end Granary
