import Granary.Compile.Statement
import Granary.Datasource.Store
import Granary.Service.Call

/-!
# The query service

A request runs on a stored datasource or on the warehouse: the service connects, gets what it must
know of the catalog, compiles the request and executes the statement with its parameters.  Requests
with joins need the whole catalog, which is kept for a while; others look at their one table only.
-/

namespace Granary

/-- What the service knows from the start. -/
structure Service where
  store : Store
  excludedTables : List String := []
  warehouse : Option Profile := none
  deriving Repr, Inhabited

/-- What the caller of a successful request gets. -/
structure Response where
  success : Bool
  message : String
  /-- The rows, as objects whose fields are the result columns. -/
  rows : List Json
  /-- The statement with its parameters written in place. -/
  query : String
  deriving BEq, Repr, Inhabited

def Response.toJson (r : Response) : Json :=
  Json.ofFields [("success", .bool r.success), ("message", .string r.message),
    ("data", .array r.rows), ("query", .string r.query)]

namespace Service

variable {β : Type}

/-- The key of the warehouse's snapshot. -/
def warehouseKey : String := "warehouse"

/-- The snapshot of the whole catalog. -/
def loadCatalog (connection : β) : Attempt β Snapshot := do
  let columns ← (Attempt.fetchColumns connection none).asSchemaFailure
  let keys ← (Attempt.fetchPrimaryKeys connection none).asSchemaFailure
  let references ← (Attempt.fetchForeignKeys connection).asSchemaFailure
  return Schema.snapshotOf columns keys references

/-- The snapshot of one table, without foreign keys. -/
def loadTable (connection : β) (table : String) : Attempt β Snapshot := do
  let columns ← (Attempt.fetchColumns connection (some table)).asSchemaFailure
  let keys ← (Attempt.fetchPrimaryKeys connection (some table)).asSchemaFailure
  let snapshot := Schema.snapshotOf columns keys []
  if snapshot.hasTable table then return snapshot else throw (.unknownTable table)

/-- The snapshot of one table that must exist. -/
def loadKnownTable (connection : β) (table : String) : Attempt β Snapshot := do
  if ← (Attempt.tableExists connection table).asSchemaFailure then loadTable connection table
  else throw (.unknownTable table)

/-- Loads the whole catalog and keeps it under a key. -/
def loadAndKeep (key : String) (connection : β) : Attempt β Snapshot := do
  let snapshot ← loadCatalog connection
  Attempt.keep key snapshot
  return snapshot

/-- The snapshot to compile a request with: the one that is kept, or else as much as is needed. -/
def snapshotFor (key : String) (connection : β) (r : Request) : Attempt β Snapshot := do
  match ← Attempt.remembered key with
  | some snapshot => return snapshot
  | none =>
    if r.joins.isEmpty then loadKnownTable connection (Text.trim r.table)
    else loadAndKeep key connection

/-- Compiles a request on a connection. -/
def compileOn (key : String) (connection : β) (r : Request) : Attempt β Statement := do
  let snapshot ← snapshotFor key connection r
  r.compile (some snapshot)

def executeOn (key : String) (profile : Profile) (r : Request) : Attempt β Response := do
  let connection ← Attempt.connect profile
  let statement ← compileOn key connection r
  let rows ← Attempt.execute connection statement.sql statement.params
  return ⟨true, "query executed", rows, statement.shown⟩

def checked (r : Request) : Except Error Unit := r.validate.mapError .validation

/-- Runs a request on a datasource. -/
def execute (s : Service) (id : String) (r : Request) : Attempt β Response := do
  checked r
  let profile ← s.store.resolve id
  executeOn id profile r

def warehouseProfile (s : Service) : Except Error Profile :=
  match s.warehouse with
  | some profile => .ok profile
  | none => .error (.config .noWarehouse)

/-- Runs a request on the warehouse. -/
def executeWarehouse (s : Service) (r : Request) : Attempt β Response := do
  checked r
  let profile ← s.warehouseProfile
  executeOn warehouseKey profile r

/-- The tables of a datasource, but for those that are excluded. -/
def listTables (s : Service) (id : String) : Attempt β (List String) := do
  let profile ← s.store.resolve id
  let connection ← Attempt.connect profile
  let tables ← (Attempt.listBaseTables connection).asSchemaFailure
  return tables.filter fun table => !s.excludedTables.any (Text.sameAscii · table)

/-- The columns of a table of a datasource. -/
def tableColumns (s : Service) (id table : String) : Attempt β (List Schema.ListedColumn) := do
  let profile ← s.store.resolve id
  let connection ← Attempt.connect profile
  let columns ← (Attempt.fetchColumns connection (some table)).asSchemaFailure
  if columns.isEmpty then throw (.unknownTable table)
  return columns.map (·.listed)

/-- The warehouse tables that can be joined next. -/
def joinableTables (s : Service) (existing : List String) : Attempt β (List String) := do
  let profile ← s.warehouseProfile
  let connection ← Attempt.connect profile
  let snapshot ← match ← Attempt.remembered warehouseKey with
    | some snapshot => pure snapshot
    | none => loadAndKeep warehouseKey connection
  return snapshot.joinable existing

/-- Forgets the snapshot of a key. -/
def invalidate (key : String) : Attempt β Unit := Attempt.forget key

end Service

end Granary
