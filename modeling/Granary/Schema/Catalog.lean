import Granary.Schema.Snapshot

/-!
# Catalog listings

What a database tells about its tables: columns in ordinal order, the columns of primary keys with
their positions, and foreign keys.  A snapshot is made from these listings.
-/

namespace Granary.Schema

/-- A column as the catalog lists it. -/
structure ColumnRecord where
  table : String
  name : String
  /-- The name of the type in the standard. -/
  dataType : String
  /-- The name of the type in the database, which casts use. -/
  innerType : String
  nullable : Bool
  ordinal : Int
  maxLength : Option Int := none
  precision : Option Int := none
  scale : Option Int := none
  deriving DecidableEq, Repr, Inhabited

/-- A column of a primary key. -/
structure KeyRecord where
  table : String
  column : String
  position : Int
  deriving DecidableEq, Repr, Inhabited

/-- A foreign key as the catalog spells it. -/
structure ReferenceRecord where
  referencingTable : String
  referencingColumn : String
  referencedTable : String
  referencedColumn : String
  deriving DecidableEq, Repr, Inhabited

/-- What is told to those who ask for the columns of a table. -/
structure ListedColumn where
  id : Int
  name : String
  type : String
  nullable : Bool
  deriving DecidableEq, Repr, Inhabited

def ColumnRecord.listed (c : ColumnRecord) : ListedColumn :=
  ⟨c.ordinal, c.name, c.dataType, c.nullable⟩

/-- Whether one key column is listed before another or level with it. -/
def KeyRecord.before (a b : KeyRecord) : Bool :=
  a.table < b.table || (a.table == b.table && a.position ≤ b.position)

/-- The columns of each primary key in the order of their positions. -/
def groupKeys (keys : List KeyRecord) : Named (List String) :=
  (sortBy KeyRecord.before keys).foldl
    (fun groups k =>
      let table := Text.lowercase k.table
      groups.set table ((groups.get? table).getD [] ++ [Text.lowercase k.column]))
    []

/-- The snapshot of some listings. -/
def snapshotOf (columns : List ColumnRecord) (keys : List KeyRecord)
    (references : List ReferenceRecord) : Snapshot :=
  let s : Snapshot := columns.foldl (fun s c => s.addColumn c.table c.name (some c.innerType)) {}
  let s := (groupKeys keys).foldl (fun s k => s.setPrimaryKey k.1 k.2) s
  references.foldl
    (fun s r => s.addForeignKey r.referencingTable r.referencingColumn r.referencedTable
      r.referencedColumn) s

end Granary.Schema
