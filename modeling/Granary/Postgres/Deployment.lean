import Granary.Postgres.Source
import Granary.Postgres.Warehouse
import Granary.Replica.Lifecycle
import Granary.Replica.Request
import Granary.Replica.Stats
import Granary.Service

/-!
# Deployments on PostgreSQL

The calls of the query service and of replication as programs of statements, and both set up from
one settings value.
-/

namespace Granary.Postgres

variable {π γ α : Type}

/-! ## The query service -/

/-- What a call of the query service does; connections are made as the plan says. -/
def serve (pool : Settings.Pool) (timeout : Nat) :
    (call : Service.Call (Database π)) → Work π γ (Service.Answer call)
  | .remembered key => .ask (.remembered key) .done
  | .keep key snapshot => .ask (.keep key snapshot) .done
  | .forget key => .ask (.forget key) .done
  | .connect profile => (Database.connect pool timeout profile).run
  | .listBaseTables d => d.baseTables.run
  | .tableExists d table => (d.hasTable table).run
  | .fetchColumns d table => (d.columns table).run
  | .fetchPrimaryKeys d table => (d.primaryKeys table).run
  | .fetchForeignKeys d => d.foreignKeys.run
  | .execute d sql params => (d.run sql params).run

/-- A program of the query service as a program of statements. -/
def Query.run (settings : Settings) (p : Service.Attempt (Database π) α) : Attempt π γ α :=
  .mk (p.run.expand (serve settings.pool settings.query.timeout))

/-- The service on the wanted datasources, with the warehouse of the settings. -/
def Query.service (settings : Settings) (store : Store) : Service where
  store := store
  excludedTables := settings.query.excludedTables
  warehouse := some settings.warehouse.profile

/-! ## Replication -/

/-- What a call of replication does on a source and a warehouse. -/
def replicate (source warehouse : Database π) :
    (call : Replica.Call (Cursor γ) (Loader γ)) → Work π γ (Replica.Answer call)
  | .acquire connection => .ask (.acquire connection) .done
  | .release lease => .ask (.release lease) .done
  | .listSource => source.baseTables.run
  | .describeSource table => (source.describeSource table).run
  | .openCursor table columns chunk => (source.openCursor table columns chunk).run
  | .nextChunk cursor => cursor.next
  | .closeCursor cursor => cursor.close.run
  | .dropCursor cursor => cursor.drop
  | .listTables stem => (warehouse.warehouseTables stem).run
  | .tableExists table => (warehouse.hasWarehouseTable table).run
  | .dropTable table => (warehouse.dropTable table).run
  | .beginLoad table columns mode => (warehouse.beginLoad table columns mode).run
  | .insertBatch loader rows =>
    (loader.insert rows).run.bind fun written => .done (loader, written)
  | .commit loader => loader.commit.run
  | .rollback loader => loader.rollback.run
  | .finalize table key columns => (warehouse.finalize table key columns).run
  | .describeTable table => (warehouse.describeTable table).run
  | .rowCount table => (warehouse.rowCount table).run

namespace Engine

/-- A database that replication works on. -/
def connect (settings : Settings) (profile : Profile) : Attempt π γ (Database π) :=
  Database.connect settings.pool settings.copying.timeout profile

/-- A program of replication as a program of statements. -/
def run (source warehouse : Database π) (p : Replica.Attempt (Cursor γ) (Loader γ) α) :
    Attempt π γ α :=
  .mk (p.run.expand (replicate source warehouse))

/-- How rows are moved. -/
def pace (c : Settings.Copying) (fetches : Nat) : Replica.Pace :=
  ⟨c.chunkSize, c.batchSize, fetches⟩

/-- Replicates what a request asks for; `fetches` bounds the chunks of each table. -/
def execute (settings : Settings) (fetches : Nat) (warehouse : Database π) (mode : Replica.Mode)
    (request : Replica.Request) : Attempt π γ Replica.Report := do
  request.validate
  let source ← connect settings request.profile
  run source warehouse
    (Replica.lifecycle mode (pace settings.copying fetches) request.connection)

/-- Row and column counts of every replicated table. -/
def stats (warehouse : Database π) : Attempt π γ Replica.Stats :=
  run warehouse warehouse Replica.warehouseStats

/-- The columns of one warehouse table. -/
def tableInfo (warehouse : Database π) (table : String) : Attempt π γ Replica.TableInfo :=
  run warehouse warehouse (Replica.tableInfo table)

end Engine

end Granary.Postgres
