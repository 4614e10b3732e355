import Granary.Postgres.Decode
import Granary.Program
import Granary.Replica.Lease
import Granary.Settings

/-!
# What is asked of PostgreSQL

Clients are checked out of a pool and given back to it.  A client whose transaction is open must not
go back, so it is guarded: work that is abandoned gives back the clients it has checked out, except
for those that are guarded, which are discarded with their transactions.

Next to the servers stand the leases and the cache of snapshots, so that everything a deployment
does is one program.
-/

namespace Granary.Postgres

/-- How the clients of a pool connect. -/
structure PoolPlan where
  profile : Profile
  /-- The most clients at a time. -/
  size : Nat
  /-- The time a connection attempt may take, in milliseconds. -/
  connectTimeout : Nat
  /-- The time a statement may take, in milliseconds; zero sets no limit. -/
  statementTimeout : Nat
  deriving DecidableEq, Repr, Inhabited

/-- The options that a session begins with. -/
def PoolPlan.options (p : PoolPlan) : Option String :=
  if p.statementTimeout = 0 then none else some s!"-c statement_timeout={p.statementTimeout}"

/-- A statement that the server has prepared. -/
structure Prepared where
  sql : String
  /-- How many parameters it takes. -/
  parameters : Nat
  deriving DecidableEq, Repr, Inhabited

/-- A parameter; `none` is null. -/
abbrev Param := Option String

/-- The calls of a deployment; `π` are pools and `γ` are clients. -/
inductive Call (π γ : Type) where
  /-- Makes a pool without connecting. -/
  | openPool (plan : PoolPlan)
  /-- An idle client, or one that connects now. -/
  | checkOut (pool : π)
  | giveBack (client : γ)
  /-- Closes the connection, which ends its transaction without effect. -/
  | discard (client : γ)
  /-- From now on abandoned work discards the client. -/
  | guard (client : γ)
  /-- From now on abandoned work gives the client back. -/
  | unguard (client : γ)
  /-- Runs statements in order, without parameters and results. -/
  | batch (client : γ) (sql : String)
  | prepare (client : γ) (sql : String)
  /-- Prepares a statement unless the client has done so before. -/
  | prepareOnce (client : γ) (sql : String)
  | execute (client : γ) (statement : Prepared) (params : List Param)
  | acquire (connection : String)
  | release (lease : Replica.Guard)
  | remembered (key : String)
  | keep (key : String) (snapshot : Snapshot)
  | forget (key : String)

/-- What each call is answered with. -/
@[reducible] def Answer {π γ : Type} : Call π γ → Type
  | .openPool _ => Except ExecutionFault π
  | .checkOut _ => Except ExecutionFault γ
  | .giveBack _ => Unit
  | .discard _ => Unit
  | .guard _ => Unit
  | .unguard _ => Unit
  | .batch .. => Except ClientFault Unit
  | .prepare .. => Except ClientFault Prepared
  | .prepareOnce .. => Except ClientFault Prepared
  | .execute .. => Except ClientFault ResultSet
  | .acquire _ => Except Error Replica.Guard
  | .release _ => Unit
  | .remembered _ => Option Snapshot
  | .keep .. => Unit
  | .forget _ => Unit

/-- A program of these calls. -/
abbrev Work (π γ α : Type) := Program (Call π γ) Answer α

/-- A program of these calls that may fail. -/
abbrev Attempt (π γ α : Type) := ExceptT Error (Program (Call π γ) Answer) α

namespace Attempt

variable {π γ α : Type}

/-- Makes a pool. -/
def openPool (plan : PoolPlan) : Attempt π γ π :=
  .mk (.ask (.openPool plan) fun pool => .done (pool.mapError .execution))

/-- Uses a client of a pool and gives it back whatever comes of it. -/
def withClient (pool : π) (use : γ → Attempt π γ α) : Attempt π γ α :=
  .mk <| .ask (.checkOut pool) fun
    | .error fault => .done (.error (.execution fault))
    | .ok client => (use client).run.bind fun outcome =>
      .ask (.giveBack client) fun () => .done outcome

/-- A failure of a statement while something was being done. -/
def faultOf (action : Action) (fault : ClientFault) : Error := .execution (.during action fault)

def prepare (client : γ) (action : Action) (sql : String) : Attempt π γ Prepared :=
  .mk (.ask (.prepare client sql) fun prepared => .done (prepared.mapError (faultOf action)))

def prepareOnce (client : γ) (action : Action) (sql : String) : Attempt π γ Prepared :=
  .mk (.ask (.prepareOnce client sql) fun prepared => .done (prepared.mapError (faultOf action)))

/-- Executes a prepared statement with as many parameters as it takes. -/
def execute (client : γ) (action : Action) (statement : Prepared) (params : List Param) :
    Attempt π γ ResultSet :=
  if statement.parameters ≠ params.length then
    throw (faultOf action (.parameterCount statement.parameters params.length))
  else
    .mk (.ask (.execute client statement params) fun result =>
      .done (result.mapError (faultOf action)))

/-- Prepares a statement and executes it. -/
def query (client : γ) (action : Action) (sql : String) (params : List Param) :
    Attempt π γ ResultSet := do
  let statement ← prepare client action sql
  execute client action statement params

/-- The one row of a query. -/
def queryOne (client : γ) (action : Action) (sql : String) (params : List Param) :
    Attempt π γ (List Cell) := do
  match (← query client action sql params).rows with
  | [row] => return row
  | _ => throw (faultOf action .rowCount)

/-- Runs statements on a client of their own. -/
def batchOn (pool : π) (sql : String) : Attempt π γ Unit :=
  withClient pool fun client =>
    .mk (.ask (.batch client sql) fun outcome =>
      .done (outcome.mapError fun fault => .execution (.statement fault)))

end Attempt

/-- A pool and the schema that is looked at through it. -/
structure Database (π : Type) where
  pool : π
  schema : String
  deriving DecidableEq, Repr, Inhabited

namespace Database

variable {π γ : Type}

/-- How to connect to a database of a profile. -/
def plan (pool : Settings.Pool) (statementTimeout : Nat) (profile : Profile) : PoolPlan :=
  ⟨profile, pool.size, pool.connectTimeout, statementTimeout⟩

/-- The database of a profile, if it is a PostgreSQL database. -/
def connect (pool : Settings.Pool) (statementTimeout : Nat) (profile : Profile) :
    Attempt π γ (Database π) := do
  match profile.driver with
  | .postgres =>
    return ⟨← Attempt.openPool (plan pool statementTimeout profile), profile.schema⟩
  | other => throw (.unsupportedDriver other.code)

end Database

end Granary.Postgres
