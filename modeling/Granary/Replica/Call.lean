import Granary.Program
import Granary.Replica.ColumnType
import Granary.Replica.Lease
import Granary.Schema.Catalog

/-!
# What replication asks of databases

Replication reads a source through cursors and writes a warehouse through loaders.  A loader is one
transaction: nothing it writes can be seen before it commits.  Cursors and loaders are values that
the databases hand out; dropping one is a call of its own, so that nothing is left open silently.
-/

namespace Granary.Replica

/-- A row in transit: texts already cast to the types of their columns. -/
abbrev Row := List (Option String)

/-- A column of a source as its catalog lists it. -/
def SourceColumn.ofRecord (r : Schema.ColumnRecord) : SourceColumn :=
  ⟨r.name, r.dataType, r.nullable, ⟨r.maxLength, r.precision, r.scale⟩, r.ordinal⟩

/-- A source table. -/
structure SourceTable where
  name : String
  columns : List SourceColumn
  primaryKey : List String
  deriving DecidableEq, Repr, Inhabited

/-- What a loader does with its table before the first row. -/
inductive LoadMode where
  | create
  /-- Empties the table, with its triggers off. -/
  | replace
  deriving DecidableEq, Repr, Inhabited

/-- The calls of replication; `κ` are cursors and `ω` are loaders. -/
inductive Call (κ ω : Type) where
  | acquire (connection : String)
  | release (guard : Guard)
  | listSource
  | describeSource (table : String)
  | openCursor (table : String) (columns : List Column) (chunk : Nat)
  /-- The next rows, none when the table is exhausted. -/
  | nextChunk (cursor : κ)
  | closeCursor (cursor : κ)
  | dropCursor (cursor : κ)
  | listTables (stem : String)
  | tableExists (table : String)
  | dropTable (table : String)
  | beginLoad (table : String) (columns : List Column) (mode : LoadMode)
  | insertBatch (loader : ω) (rows : List Row)
  | commit (loader : ω)
  | rollback (loader : ω)
  /-- Adds the primary key and the indexes. -/
  | finalize (table : String) (primaryKey : List String) (columns : List Column)
  | describeTable (table : String)
  | rowCount (table : String)

/-- What each call is answered with. -/
@[reducible] def Answer {κ ω : Type} : Call κ ω → Type
  | .acquire _ => Except Error Guard
  | .release _ => Unit
  | .listSource => Except Error (List String)
  | .describeSource _ => Except Error SourceTable
  | .openCursor .. => Except Error κ
  | .nextChunk _ => κ × Except Error (List Row)
  | .closeCursor _ => Except Error Unit
  | .dropCursor _ => Unit
  | .listTables _ => Except Error (List String)
  | .tableExists _ => Except Error Bool
  | .dropTable _ => Except Error Unit
  | .beginLoad .. => Except Error ω
  | .insertBatch .. => ω × Except Error Nat
  | .commit _ => Except Error Unit
  | .rollback _ => Except Error Unit
  | .finalize .. => Except Error Unit
  | .describeTable _ => Except Error (List Schema.ColumnRecord)
  | .rowCount _ => Except Error Nat

/-- A program of these calls. -/
abbrev Work (κ ω α : Type) := Program (Call κ ω) Answer α

/-- A program of these calls that may fail. -/
abbrev Attempt (κ ω α : Type) := ExceptT Error (Program (Call κ ω) Answer) α

namespace Attempt

variable {κ ω α : Type}

/-- Fails with another error than before. -/
def failingAs (f : Error → Error) (p : Attempt κ ω α) : Attempt κ ω α :=
  .mk (p.run.bind fun outcome => .done (outcome.mapError f))

def listSource : Attempt κ ω (List String) := .mk (.ask .listSource .done)

def describeSource (table : String) : Attempt κ ω SourceTable :=
  .mk (.ask (.describeSource table) .done)

def listTables (stem : String) : Attempt κ ω (List String) := .mk (.ask (.listTables stem) .done)

def tableExists (table : String) : Attempt κ ω Bool := .mk (.ask (.tableExists table) .done)

def dropTable (table : String) : Attempt κ ω Unit := .mk (.ask (.dropTable table) .done)

def finalize (table : String) (primaryKey : List String) (columns : List Column) :
    Attempt κ ω Unit :=
  .mk (.ask (.finalize table primaryKey columns) .done)

def describeTable (table : String) : Attempt κ ω (List Schema.ColumnRecord) :=
  .mk (.ask (.describeTable table) .done)

def rowCount (table : String) : Attempt κ ω Nat := .mk (.ask (.rowCount table) .done)

/-- Holds a lease while something is done, and gives it back whatever comes of it. -/
def holding (connection : String) (p : Attempt κ ω α) : Attempt κ ω α :=
  .mk <| .ask (.acquire connection) fun
    | .error e => .done (.error e)
    | .ok guard => p.run.bind fun outcome => .ask (.release guard) fun () => .done outcome

end Attempt

end Granary.Replica
