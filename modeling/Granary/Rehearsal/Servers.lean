import Granary.Postgres.Call
import Granary.Postgres.Catalog
import Granary.Postgres.Statements
import Granary.Rehearsal.Failure
import Granary.Schema.Cache
import Granary.Text.Split

/-!
# Scripted servers

Servers that answer from a script, which statements do not change.  Every connection attempt, every
batch, every execution and every failed preparation is written down before it is answered.
-/

namespace Granary.Rehearsal

open Postgres (Answer Call Cell Param PoolPlan Prepared ResultSet)
open Postgres.Wire (ofInteger ofText ofTruth)
open Schema (ColumnRecord KeyRecord ReferenceRecord)

/-- What a server does that can be made to fail. -/
inductive Moment where
  | connect | prepare | execute | batch
  deriving DecidableEq, Repr, Inhabited

/-- Statements that a server refuses. -/
structure Outage where
  moment : Moment
  /-- A part of each of these statements. -/
  fragment : String
  deriving DecidableEq, Repr, Inhabited

def Outage.appliesTo (o : Outage) (moment : Moment) (sql : String) : Bool :=
  o.moment == moment && Text.occursIn o.fragment sql

/-- What a server answers from. -/
structure Script where
  schema : String := "public"
  tables : List String := []
  columns : List ColumnRecord := []
  primaryKeys : List KeyRecord := []
  foreignKeys : List ReferenceRecord := []
  rowCounts : Named Int := []
  /-- The rows that cursors read. -/
  rows : Named (List (List Cell)) := []
  /-- What all other statements answer. -/
  result : ResultSet := {}
  deriving Repr, Inhabited

/-! ## Answers -/

namespace Script

def textCell (s : String) : Cell := some (ofText s)

def numberCell (n : Int) : Cell := some (ofInteger 4 n)

def columnRow (c : ColumnRecord) : List Cell :=
  [textCell c.table, textCell c.name, textCell c.dataType, textCell c.innerType,
    textCell (if c.nullable then "YES" else "NO"), numberCell c.ordinal,
    c.maxLength.bind numberCell, c.precision.bind numberCell, c.scale.bind numberCell]

def keyRow (k : KeyRecord) : List Cell :=
  [textCell k.table, textCell k.column, numberCell k.position]

def referenceRow (r : ReferenceRecord) : List Cell :=
  [r.referencingTable, r.referencingColumn, r.referencedTable, r.referencedColumn].map textCell

/-- Whether a table is the one that was asked for, if one was. -/
def wanted (asked : Param) (table : String) : Bool :=
  asked.all fun name => Text.lowercase name == Text.lowercase table

/-- Whether a text begins with another. -/
def startsWith (sql start : String) : Bool := start.toList.isPrefixOf sql.toList

/-- Rows of the catalog, if it is asked about the schema of the script. -/
def listing (s : Script) (params : List Param) (rows : Param → List (List Cell)) : ResultSet :=
  if params.head? = some (some s.schema) then { rows := rows (params[1]?).join } else {}

/-- One cell that tells whether a table is there. -/
def membership (s : Script) (params : List Param) (same : String → String → Bool) : ResultSet :=
  let asked := (params[1]?).join
  let found := params.head? = some (some s.schema) &&
    s.tables.any fun table => asked.any (same table)
  { rows := [[some (ofTruth found)]] }

def sameFolded (a b : String) : Bool := Text.lowercase a == Text.lowercase b

/-- How often a part occurs in some characters; the first argument bounds the count. -/
def occurrences (part : List Char) : Nat → List Char → Nat
  | 0, _ => 0
  | fuel + 1, cs =>
    match Text.cutAt part cs with
    | some (_, rest) => occurrences part fuel rest + 1
    | none => 0

/-- How many rows a statement inserts. -/
def insertedRows (sql : String) : Nat := occurrences "(CAST(".toList sql.length sql.toList

/-- What a query answers that reads neither a cursor nor the script's own result. -/
def catalog? (s : Script) (sql : String) (params : List Param) : Option ResultSet :=
  let mentions (part : String) : Bool := Text.occursIn part sql
  let names (tables : List String) : List (List Cell) := tables.map fun t => [textCell t]
  if mentions "information_schema.columns" then
    some (s.listing params fun asked =>
      (s.columns.filter fun c => wanted asked c.table).map columnRow)
  else if mentions "'PRIMARY KEY'" then
    some (s.listing params fun asked =>
      (s.primaryKeys.filter fun k => wanted asked k.table).map keyRow)
  else if mentions "'FOREIGN KEY'" then
    some (s.listing params fun _ => s.foreignKeys.map referenceRow)
  else if startsWith sql "SELECT EXISTS" then
    some (s.membership params (if mentions "information_schema" then sameFolded else (· == ·)))
  else if mentions "information_schema.tables" then
    some (s.listing params fun _ => names s.tables)
  else if mentions "FROM pg_tables" then
    some (s.listing params fun stem =>
      names (s.tables.filter fun table => startsWith table (stem.getD "")))
  else if startsWith sql "SELECT COUNT(*) FROM \"" then
    let count := (s.rowCounts.find? fun c => Postgres.Statements.countRows c.1 == sql).map (·.2)
    some { rows := [[some (ofInteger 8 (count.getD 0))]] }
  else none

/-- The rows of the table whose name ends a statement. -/
def cursorRows (s : Script) (sql : String) : List (List Cell) :=
  let table := s.rows.find? fun t =>
    ("." ++ Sql.quoteIdent t.1).toList.reverse.isPrefixOf sql.toList.reverse
  (table.map (·.2)).getD []

end Script

/-! ## Statements -/

/-- The greatest number that follows a dollar sign: how many parameters a statement takes. -/
def placeholders : List Char → Nat
  | [] => 0
  | c :: rest =>
    let here := if c = '$' then (Text.numeral? 10 (rest.takeWhile Char.isDigit)).getD 0 else 0
    max here (placeholders rest)

/-- How many rows a statement fetches from the open cursor, if that is what it does. -/
def fetched? (sql : String) : Option Nat :=
  let start := "FETCH FORWARD "
  if Script.startsWith sql start then
    Text.numeral? 10 ((sql.toList.drop start.length).takeWhile Char.isDigit)
  else none

/-- The words of some characters, with single spaces between them. -/
def squeezed : List Char → List Char
  | [] => []
  | c :: rest =>
    match squeezed rest with
    | [] => if Text.isBlank c then [] else [c]
    | d :: more =>
      if !Text.isBlank c then c :: d :: more
      else if d = ' ' then d :: more
      else ' ' :: d :: more

/-- A statement as it is written down: one that begins with a new line is laid out in lines, and
its words alone are kept. -/
def shownStatement (sql : String) : String :=
  match sql.toList with
  | '\n' :: rest => String.ofList ((squeezed rest).dropWhile Text.isBlank)
  | _ => sql

/-! ## Connections -/

structure Server where
  script : Script
  failures : List (Failure Outage) := []
  /-- How many connections have been attempted. -/
  connections : Nat := 0
  deriving Repr, Inhabited

/-- A connection to a server. -/
structure Session where
  server : String
  number : Nat
  pool : Nat
  /-- The statements that stay prepared. -/
  prepared : List String := []
  /-- What the open cursor has yet to read. -/
  cursor : List (List Cell) := []
  deriving Repr, Inhabited

/-- A pool with its idle clients, those that have been idle longest first. -/
structure Pool where
  plan : PoolPlan
  idle : List Nat := []
  deriving Repr, Inhabited

/-- What is written down of a connection. -/
inductive LogEvent where
  | connect (plan : PoolPlan)
  | batch (sql : String)
  | execute (sql : String) (params : List Param)
  | prepareFailed (sql : String)
  deriving Repr

structure LogEntry where
  server : String
  number : Nat
  event : LogEvent
  deriving Repr

/-- The servers by their hosts with everything that clients have of them, the leases and the cache.
Pools and clients are numbered. -/
structure Network where
  servers : Named Server := []
  pools : List Pool := []
  sessions : List Session := []
  leases : Replica.Leases := {}
  cache : Schema.Cache := {}
  /-- The reading of the clock. -/
  now : Nat := 0
  log : List LogEntry := []

namespace Network

def write (n : Network) (session : Session) (event : LogEvent) : Network :=
  { n with log := n.log ++ [⟨session.server, session.number, event⟩] }

/-- Whether a server refuses something, and the network afterwards. -/
def refuses (n : Network) (host : String) (moment : Moment) (sql : String) : Bool × Network :=
  match n.servers.get? host with
  | none => (false, n)
  | some server =>
    let (due, failures) := Failure.check (·.appliesTo moment sql) server.failures
    (due.isSome, { n with servers := n.servers.set host { server with failures } })

/-- Connects a new client of a pool. -/
def connect (n : Network) (pool : Nat) (plan : PoolPlan) : Except ExecutionFault Nat × Network :=
  let host := plan.profile.host
  match n.servers.get? host with
  | none => (.error .unreachable, n)
  | some server =>
    let number := server.connections + 1
    let n := { n with servers := n.servers.set host { server with connections := number } }
    let session : Session := { server := host, number, pool }
    let (refused, n) := (n.write session (.connect plan)).refuses host .connect ""
    if refused then (.error .noConnection, n)
    else (.ok n.sessions.length, { n with sessions := n.sessions ++ [session] })

/-- An idle client of a pool, or a new one. -/
def checkOut (n : Network) (pool : Nat) : Except ExecutionFault Nat × Network :=
  match n.pools[pool]? with
  | none => (.error .unreachable, n)
  | some p =>
    match p.idle with
    | client :: idle => (.ok client, { n with pools := n.pools.set pool { p with idle } })
    | [] => n.connect pool p.plan

def giveBack (n : Network) (client : Nat) : Network :=
  match n.sessions[client]? with
  | none => n
  | some session =>
    { n with pools := n.pools.modify session.pool fun p => { p with idle := p.idle ++ [client] } }

/-- Lets a client do something on its server. -/
def onServer {α : Type} (n : Network) (client : Nat)
    (act : Session → Script → Network → Except ClientFault α × Network) :
    Except ClientFault α × Network :=
  match n.sessions[client]? with
  | none => (.error .refused, n)
  | some session => act session (((n.servers.get? session.server).map (·.script)).getD {}) n

/-- Runs statements; the one that declares a cursor opens it. -/
def batch (n : Network) (client : Nat) (sql : String) : Except ClientFault Unit × Network :=
  n.onServer client fun session script n =>
    let (refused, n) := (n.write session (.batch sql)).refuses session.server .batch sql
    if refused then (.error .refused, n)
    else if Text.occursIn "DECLARE" sql then
      let session := { session with cursor := script.cursorRows sql }
      (.ok (), { n with sessions := n.sessions.set client session })
    else (.ok (), n)

def prepare (n : Network) (client : Nat) (sql : String) : Except ClientFault Prepared × Network :=
  n.onServer client fun session _ n =>
    let (refused, n) := n.refuses session.server .prepare sql
    if refused then (.error .refused, n.write session (.prepareFailed sql))
    else (.ok ⟨sql, placeholders sql.toList⟩, n)

def prepareOnce (n : Network) (client : Nat) (sql : String) :
    Except ClientFault Prepared × Network :=
  n.onServer client fun session _ n =>
    if session.prepared.contains sql then (.ok ⟨sql, placeholders sql.toList⟩, n)
    else
      match n.prepare client sql with
      | (.error fault, n) => (.error fault, n)
      | (.ok statement, n) =>
        let session := { session with prepared := sql :: session.prepared }
        (.ok statement, { n with sessions := n.sessions.set client session })

def execute (n : Network) (client : Nat) (sql : String) (params : List Param) :
    Except ClientFault ResultSet × Network :=
  n.onServer client fun session script n =>
    let (refused, n) := (n.write session (.execute sql params)).refuses session.server .execute sql
    if refused then (.error .refused, n)
    else
      match fetched? sql with
      | some rows =>
        let rest := { session with cursor := session.cursor.drop rows }
        (.ok { rows := session.cursor.take rows },
          { n with sessions := n.sessions.set client rest })
      | none =>
        if Script.startsWith sql "INSERT" then
          (.ok { affected := Script.insertedRows sql }, n)
        else (.ok ((script.catalog? sql params).getD script.result), n)

/-- Answers one call. -/
def handle : (call : Call Nat Nat) → Network → Answer call × Network
  | .openPool plan, n =>
    if plan.profile.database.isEmpty then (.error .noDatabaseName, n)
    else (.ok n.pools.length, { n with pools := n.pools ++ [{ plan }] })
  | .checkOut pool, n => n.checkOut pool
  | .giveBack client, n => ((), n.giveBack client)
  | .discard _, n => ((), n)
  | .guard _, n => ((), n)
  | .unguard _, n => ((), n)
  | .batch client sql, n => n.batch client sql
  | .prepare client sql, n => n.prepare client sql
  | .prepareOnce client sql, n => n.prepareOnce client sql
  | .execute client statement params, n => n.execute client statement.sql params
  | .acquire connection, n =>
    match n.leases.acquire connection with
    | .error e => (.error e, n)
    | .ok (lease, leases) => (.ok lease, { n with leases })
  | .release lease, n => ((), { n with leases := n.leases.drop lease })
  | .remembered key, n => (n.cache.get n.now key, n)
  | .keep key snapshot, n => ((), { n with cache := n.cache.insert n.now key snapshot })
  | .forget key, n => ((), { n with cache := n.cache.invalidate key })

end Network

end Granary.Rehearsal
