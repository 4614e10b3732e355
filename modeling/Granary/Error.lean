import Granary.Data.Fault

/-!
# Errors

Everything that can go wrong, as causes.  The wording of each stands in one function beside its
type; an error knows whether the caller is to blame (`isInput`), and what a caller is told about
it (`Envelope`).
-/

namespace Granary

/-- What the file system reports. -/
inductive FileFault where
  | missing
  | isDirectory
  | notText
  | stated (text : String)
  deriving DecidableEq, Repr

def FileFault.message : FileFault → String
  | .missing => "No such file or directory (os error 2)"
  | .isDirectory => "Is a directory (os error 21)"
  | .notText => "stream did not contain valid UTF-8"
  | .stated text => text

/-- What is wrong with settings. -/
inductive SettingsFault where
  | unreadable (cause : FileFault)
  | unparsable
  | emptyBatches
  | noParallelism
  | emptyPool
  | noWarehouse
  | stated (text : String)
  deriving DecidableEq, Repr

def SettingsFault.message : SettingsFault → String
  | .unreadable cause => "failed to read config file: " ++ cause.message
  | .unparsable => "failed to parse config"
  | .emptyBatches => "etl chunk and batch sizes must be positive"
  | .noParallelism => "etl.table_parallelism must be at least 1"
  | .emptyPool => "pool.size must be positive"
  | .noWarehouse => "warehouse connection is not configured"
  | .stated text => text

/-- What a database client reports about one statement. -/
inductive ClientFault where
  /-- The server refused it. -/
  | refused
  | parameterCount (expected given : Nat)
  /-- A cell of the given column is not a text. -/
  | undecodable (column : Nat)
  /-- A statement that answers one row answered another number of rows. -/
  | rowCount
  deriving DecidableEq, Repr

def ClientFault.message : ClientFault → String
  | .refused => "db error"
  | .parameterCount expected given => s!"expected {expected} parameters but got {given}"
  | .undecodable column => s!"error deserializing column {column}"
  | .rowCount => "query returned an unexpected number of rows"

/-- What was being done on a database. -/
inductive Action where
  | listTables | checkTable | fetchColumns | fetchPrimaryKeys | fetchForeignKeys
  | prepareQuery | executeQuery
  | listWarehouse | checkWarehouse
  | beginLoad (table : String)
  | openCursor (table : String)
  | fetchRows (table : String)
  | decodeRow | closeCursor | prepareInsert
  | insertRows (table : String)
  | finishLoad (table : String)
  | countRows (table : String)
  deriving DecidableEq, Repr

def Action.label : Action → String
  | .listTables => "list tables"
  | .checkTable => "check table"
  | .fetchColumns => "fetch columns"
  | .fetchPrimaryKeys => "fetch primary keys"
  | .fetchForeignKeys => "fetch foreign keys"
  | .prepareQuery => "prepare query"
  | .executeQuery => "execute query"
  | .listWarehouse => "list warehouse tables"
  | .checkWarehouse => "check warehouse table"
  | .beginLoad table => s!"prepare {table}"
  | .openCursor table => s!"open cursor on {table}"
  | .fetchRows table => s!"fetch from {table}"
  | .decodeRow => "decode row"
  | .closeCursor => "close cursor"
  | .prepareInsert => "prepare insert"
  | .insertRows table => s!"insert into {table}"
  | .finishLoad table => s!"finish {table}"
  | .countRows table => s!"count {table}"

/-- Why something could not be executed. -/
inductive ExecutionFault where
  /-- A statement failed while something was being done. -/
  | during (action : Action) (fault : ClientFault)
  /-- A statement failed that needs no further word. -/
  | statement (fault : ClientFault)
  /-- The server refused the connection. -/
  | noConnection
  /-- There is no server. -/
  | unreachable
  | noDatabaseName
  | rowWidth (columns : Nat) (table : String)
  | tableExists (table : String)
  | unknownHost (host : String)
  | stated (text : String)
  deriving DecidableEq, Repr

def ExecutionFault.message : ExecutionFault → String
  | .during action fault => action.label ++ ": " ++ fault.message
  | .statement fault => fault.message
  | .noConnection =>
    "get postgres connection: Error occurred while creating a new object: db error"
  | .unreachable =>
    "get postgres connection: Error occurred while creating a new object: " ++
      "error connecting to server"
  | .noDatabaseName =>
    "create postgres pool: Config: configuration property \"dbname\" not found"
  | .rowWidth columns table => s!"row width does not match {columns} columns of {table}"
  | .tableExists table => s!"relation \"{table}\" already exists"
  | .unknownHost host => s!"no host {host}"
  | .stated text => text

/-- Where and why a file name pattern is malformed. -/
inductive PatternFault where
  | badRange (position : Nat)
  | longWildcard (position : Nat)
  | partialRecursion (position : Nat)
  deriving DecidableEq, Repr

def PatternFault.message : PatternFault → String
  | .badRange position => s!"Pattern syntax error near position {position}: invalid range pattern"
  | .longWildcard position =>
    s!"Pattern syntax error near position {position}: " ++
      "wildcards are either regular `*` or recursive `**`"
  | .partialRecursion position =>
    s!"Pattern syntax error near position {position}: " ++
      "recursive wildcards must form a single path component"

/-- An error of this library. -/
inductive Error where
  | io (cause : FileFault)
  | yaml
  | json (cause : Data.Fault)
  | config (cause : SettingsFault)
  | validation (cause : Refusal)
  | unknownTable (table : String)
  | unknownColumn (tables : List String) (column : String)
  | joinNotFound (left right : String)
  | schemaUnavailable (cause : Error)
  | unknownDatasource (id : String)
  | unsupportedDriver (name : String)
  | connectionNameConflict (connection : String)
  | invalidConnectionName (connection : String)
  | etlInProgress (connection : String)
  | bulkCopyFailure (table : String) (cause : Error)
  | execution (cause : ExecutionFault)
  | pattern (cause : PatternFault)
  | other (text : String)
  deriving Repr

namespace Error

def message : Error → String
  | .io cause => "io error: " ++ cause.message
  | .yaml => "yaml parse error"
  | .json cause => "json error: " ++ cause.message
  | .config cause => "config error: " ++ cause.message
  | .validation cause => cause.message
  | .unknownTable table => s!"table '{table}' not found"
  | .unknownColumn tables column =>
    "column '" ++ column ++ "' not found on " ++ ", ".intercalate tables
  | .joinNotFound left right => s!"no join path found between {left} and {right}"
  | .schemaUnavailable cause => "schema unavailable: " ++ cause.message
  | .unknownDatasource id => s!"unknown datasource {id}"
  | .unsupportedDriver name => s!"unsupported driver {name}"
  | .connectionNameConflict connection =>
    s!"connection name '{connection}' is already in use; run a full refresh to reload it"
  | .invalidConnectionName connection =>
    s!"invalid connection name '{connection}': only letters, digits, '-' and '_' are allowed"
  | .etlInProgress connection =>
    s!"an ETL run for connection '{connection}' is already in progress"
  | .bulkCopyFailure table cause => s!"bulk copy of table {table} failed: " ++ cause.message
  | .execution cause => "execution error: " ++ cause.message
  | .pattern cause => cause.message
  | .other text => text

/-- The status class of a response that reports the error. -/
def status : Error → Nat
  | .validation _ | .joinNotFound .. | .invalidConnectionName _ | .unsupportedDriver _ | .json _ =>
    400
  | .unknownTable _ | .unknownColumn .. | .unknownDatasource _ => 404
  | .connectionNameConflict _ | .etlInProgress _ => 409
  | _ => 500

/-- Whether the caller can mend the error. -/
def isInput (e : Error) : Bool := e.status < 500

/-- What a caller is told: input errors in full, of all others only the kind. -/
def publicMessage (e : Error) : String :=
  if e.isInput then e.message
  else
    match e with
    | .schemaUnavailable _ => "failed to load database schema"
    | .bulkCopyFailure .. => "data transfer failed"
    | _ => "failed to process the request"

end Error

/-- The body of a response that reports an error. -/
structure Envelope where
  success : Bool
  message : String
  error : String
  deriving DecidableEq, Repr

def Error.envelope (e : Error) : Envelope := ⟨false, e.publicMessage, e.message⟩

end Granary
