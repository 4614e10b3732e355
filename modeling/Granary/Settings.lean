import Granary.Datasource.Profile
import Granary.Schema.Cache

/-!
# Settings

Everything that can be set, in sections, with a default for each field.  The warehouse is the one
database that tables are replicated into and that queries against replicas run on.
-/

namespace Granary

namespace Settings

structure Warehouse where
  host : String := "localhost"
  port : Nat := usualPort
  database : String := "warehouse"
  username : String := "postgres"
  password : String := ""
  schema : String := "public"
  deriving DecidableEq, Repr, Inhabited

structure Query where
  /-- The time a statement may take, in milliseconds. -/
  timeout : Nat := 30000
  /-- The schema of datasources that name none. -/
  defaultSchema : String := "public"
  /-- Tables that listings leave out. -/
  excludedTables : List String := ["migrations", "personal_access_tokens"]
  deriving DecidableEq, Repr, Inhabited

structure Pool where
  size : Nat := 16
  /-- The time a connection attempt may take, in milliseconds. -/
  connectTimeout : Nat := 10000
  deriving DecidableEq, Repr, Inhabited

structure Cache where
  enabled : Bool := false
  /-- How many seconds a snapshot counts. -/
  timeToLive : Nat := 300
  maxSize : Nat := 64
  deriving DecidableEq, Repr, Inhabited

structure Copying where
  /-- Rows read from the source at a time. -/
  chunkSize : Nat := 1000
  /-- Rows written by one statement. -/
  batchSize : Nat := 500
  /-- Tables copied at the same time. -/
  parallelism : Nat := 1
  /-- The time a statement may take, in milliseconds. -/
  timeout : Nat := 300000
  deriving DecidableEq, Repr, Inhabited

structure Datasources where
  /-- The directory of the datasource records. -/
  dir : Option String := none
  deriving DecidableEq, Repr, Inhabited

end Settings

structure Settings where
  warehouse : Settings.Warehouse := {}
  query : Settings.Query := {}
  pool : Settings.Pool := {}
  cache : Settings.Cache := {}
  copying : Settings.Copying := {}
  datasources : Settings.Datasources := {}
  deriving DecidableEq, Repr, Inhabited

namespace Settings

variable {ν : Type} [Data.Form ν]

def Warehouse.decode : Data.Decoder ν Warehouse :=
  let d : Warehouse := {}
  Data.record "WarehouseConfig" <|
    mk <$> Data.fieldOr "host" d.host Data.text
      <*> Data.fieldOr "port" d.port (Data.natural .port)
      <*> Data.fieldOr "database" d.database Data.text
      <*> Data.fieldOr "username" d.username Data.text
      <*> Data.fieldOr "password" d.password Data.text
      <*> Data.fieldOr "schema" d.schema Data.text

def Query.decode : Data.Decoder ν Query :=
  let d : Query := {}
  Data.record "QueryConfig" <|
    mk <$> Data.fieldOr "timeout_ms" d.timeout (Data.natural .word)
      <*> Data.fieldOr "default_schema" d.defaultSchema Data.text
      <*> Data.fieldOr "excluded_tables" d.excludedTables (Data.listOf Data.text)

def Pool.decode : Data.Decoder ν Pool :=
  let d : Pool := {}
  Data.record "PoolConfig" <|
    mk <$> Data.fieldOr "size" d.size (Data.natural .size)
      <*> Data.fieldOr "connect_timeout_ms" d.connectTimeout (Data.natural .word)

def Cache.decode : Data.Decoder ν Cache :=
  let d : Cache := {}
  Data.record "SchemaCacheConfig" <|
    mk <$> Data.fieldOr "enabled" d.enabled Data.boolean
      <*> Data.fieldOr "ttl_secs" d.timeToLive (Data.natural .word)
      <*> Data.fieldOr "max_size" d.maxSize (Data.natural .size)

def Copying.decode : Data.Decoder ν Copying :=
  let d : Copying := {}
  Data.record "EtlConfig" <|
    mk <$> Data.fieldOr "read_chunk_size" d.chunkSize (Data.natural .size)
      <*> Data.fieldOr "insert_batch_size" d.batchSize (Data.natural .size)
      <*> Data.fieldOr "table_parallelism" d.parallelism (Data.natural .size)
      <*> Data.fieldOr "statement_timeout_ms" d.timeout (Data.natural .word)

def Datasources.decode : Data.Decoder ν Datasources :=
  Data.record "DatasourcesConfig" <| mk <$> Data.fieldOr "dir" none (Data.optional Data.text)

def decode : Data.Decoder ν Settings :=
  Data.record "Settings" <|
    mk <$> Data.fieldOr "warehouse" {} Warehouse.decode
      <*> Data.fieldOr "query" {} Query.decode
      <*> Data.fieldOr "pool" {} Pool.decode
      <*> Data.fieldOr "schema_cache" {} Cache.decode
      <*> Data.fieldOr "etl" {} Copying.decode
      <*> Data.fieldOr "datasources" {} Datasources.decode

def toJson (s : Settings) : Json :=
  Json.ofFields [
    ("warehouse", Json.ofFields [("host", .string s.warehouse.host),
      ("port", Json.nat s.warehouse.port), ("database", .string s.warehouse.database),
      ("username", .string s.warehouse.username), ("password", .string s.warehouse.password),
      ("schema", .string s.warehouse.schema)]),
    ("query", Json.ofFields [("timeout_ms", Json.nat s.query.timeout),
      ("default_schema", .string s.query.defaultSchema),
      ("excluded_tables", Json.strings s.query.excludedTables)]),
    ("pool", Json.ofFields [("size", Json.nat s.pool.size),
      ("connect_timeout_ms", Json.nat s.pool.connectTimeout)]),
    ("schema_cache", Json.ofFields [("enabled", .bool s.cache.enabled),
      ("ttl_secs", Json.nat s.cache.timeToLive), ("max_size", Json.nat s.cache.maxSize)]),
    ("etl", Json.ofFields [("read_chunk_size", Json.nat s.copying.chunkSize),
      ("insert_batch_size", Json.nat s.copying.batchSize),
      ("table_parallelism", Json.nat s.copying.parallelism),
      ("statement_timeout_ms", Json.nat s.copying.timeout)]),
    ("datasources", Json.ofFields [("dir", Json.ofOption .string s.datasources.dir)])]

/-- Sizes must be positive. -/
def validate (s : Settings) : Except SettingsFault Unit :=
  if s.copying.chunkSize = 0 ∨ s.copying.batchSize = 0 then .error .emptyBatches
  else if s.copying.parallelism = 0 then .error .noParallelism
  else if s.pool.size = 0 then .error .emptyPool
  else .ok ()

/-- How to connect to the warehouse. -/
def Warehouse.profile (w : Warehouse) : Profile :=
  ⟨.postgres, w.host, w.port, w.database, w.username, w.password, w.schema⟩

/-- The warehouse section in a diagnostic. -/
def Warehouse.diagnostic (w : Warehouse) : String :=
  Text.showRecord "WarehouseConfig" [("host", Text.quote w.host), ("port", toString w.port),
    ("database", Text.quote w.database), ("username", Text.quote w.username),
    ("password", Text.hidden), ("schema", Text.quote w.schema)]

/-- An empty cache of the wanted size. -/
def Cache.start (c : Cache) : Schema.Cache where
  enabled := c.enabled
  timeToLive := c.timeToLive * Schema.Cache.second
  room := c.maxSize

end Settings

end Granary
