import Granary.Datasource.Profile
import Granary.Program
import Granary.Schema.Catalog

/-!
# What the query service asks for

The service opens connections, looks at catalogs, runs statements, and keeps snapshots in a cache.
Each of these is a call, so that requests can be interleaved at any of them.
-/

namespace Granary.Service

/-- The calls of the query service; `β` are open connections. -/
inductive Call (β : Type) where
  /-- The snapshot kept under a key, if it still counts. -/
  | remembered (key : String)
  | keep (key : String) (snapshot : Snapshot)
  | forget (key : String)
  | connect (profile : Profile)
  | listBaseTables (connection : β)
  | tableExists (connection : β) (table : String)
  /-- The columns of one table, or of all. -/
  | fetchColumns (connection : β) (table : Option String)
  | fetchPrimaryKeys (connection : β) (table : Option String)
  | fetchForeignKeys (connection : β)
  | execute (connection : β) (sql : String) (params : List String)

/-- What each call is answered with. -/
@[reducible] def Answer {β : Type} : Call β → Type
  | .remembered _ => Option Snapshot
  | .keep .. => Unit
  | .forget _ => Unit
  | .connect _ => Except Error β
  | .listBaseTables _ => Except Error (List String)
  | .tableExists .. => Except Error Bool
  | .fetchColumns .. => Except Error (List Schema.ColumnRecord)
  | .fetchPrimaryKeys .. => Except Error (List Schema.KeyRecord)
  | .fetchForeignKeys _ => Except Error (List Schema.ReferenceRecord)
  | .execute .. => Except Error (List Json)

/-- A program of these calls that may fail. -/
abbrev Attempt (β α : Type) := ExceptT Error (Program (Call β) Answer) α

namespace Attempt

variable {β α : Type}

/-- Fails because the catalog could not be looked at. -/
def asSchemaFailure (p : Attempt β α) : Attempt β α :=
  .mk (p.run.bind fun outcome => .done (outcome.mapError .schemaUnavailable))

def remembered (key : String) : Attempt β (Option Snapshot) :=
  .mk (.ask (.remembered key) fun found => .done (.ok found))

def keep (key : String) (snapshot : Snapshot) : Attempt β Unit :=
  .mk (.ask (.keep key snapshot) fun () => .done (.ok ()))

def forget (key : String) : Attempt β Unit := .mk (.ask (.forget key) fun () => .done (.ok ()))

def connect (profile : Profile) : Attempt β β := .mk (.ask (.connect profile) .done)

def listBaseTables (connection : β) : Attempt β (List String) :=
  .mk (.ask (.listBaseTables connection) .done)

def tableExists (connection : β) (table : String) : Attempt β Bool :=
  .mk (.ask (.tableExists connection table) .done)

def fetchColumns (connection : β) (table : Option String) : Attempt β (List Schema.ColumnRecord) :=
  .mk (.ask (.fetchColumns connection table) .done)

def fetchPrimaryKeys (connection : β) (table : Option String) :
    Attempt β (List Schema.KeyRecord) :=
  .mk (.ask (.fetchPrimaryKeys connection table) .done)

def fetchForeignKeys (connection : β) : Attempt β (List Schema.ReferenceRecord) :=
  .mk (.ask (.fetchForeignKeys connection) .done)

def execute (connection : β) (sql : String) (params : List String) : Attempt β (List Json) :=
  .mk (.ask (.execute connection sql params) .done)

end Attempt

end Granary.Service
