import Granary.Named
import Granary.Schema.Cache
import Granary.Service.Call
import Granary.Text.Casing

/-!
# Rehearsing the query service

Backends in memory, one for each host, and the cache of snapshots.  A backend answers from listings
and may fail on any kind of call.
-/

namespace Granary.Rehearsal

open Schema (ColumnRecord KeyRecord ReferenceRecord)
open Service (Call Answer)

structure Backend where
  tables : List String := []
  columns : List ColumnRecord := []
  primaryKeys : List KeyRecord := []
  foreignKeys : List ReferenceRecord := []
  /-- What every statement answers. -/
  rows : List Json := []
  /-- The kinds of calls that fail. -/
  failures : Named Error := []
  deriving Repr, Inhabited

/-- A call to a backend and what it was about. -/
structure Query where
  host : String
  call : String
  about : Json

/-- The hosts, the cache and the calls so far. -/
structure Hosts where
  backends : Named Backend := []
  cache : Schema.Cache := {}
  /-- The reading of the clock. -/
  now : Nat := 0
  trace : List Query := []

namespace Hosts

/-- Whether a table is the one that was asked for, if one was. -/
def wanted (asked : Option String) (table : String) : Bool := asked.all (Text.sameAscii · table)

/-- Writes down a call to a host and answers it. -/
def query {α : Type} (s : Hosts) (host call : String) (about : Json) (answer : Backend → α) :
    Except Error α × Hosts :=
  let s := { s with trace := s.trace ++ [Query.mk host call about] }
  match s.backends.get? host with
  | none => (.error (.execution (.unknownHost host)), s)
  | some b =>
    match b.failures.get? call with
    | some e => (.error e, s)
    | none => (.ok (answer b), s)

/-- Opens the backend of a profile's host. -/
def connect (s : Hosts) (profile : Profile) : Except Error String :=
  match profile.driver with
  | .postgres =>
    if s.backends.contains profile.host then .ok profile.host
    else .error (.execution (.unknownHost profile.host))
  | other => .error (.unsupportedDriver other.code)

/-- Answers one call; connections are the names of their hosts. -/
def handle : (call : Call String) → Hosts → Answer call × Hosts
  | .remembered key, s => (s.cache.get s.now key, s)
  | .keep key snapshot, s => ((), { s with cache := s.cache.insert s.now key snapshot })
  | .forget key, s => ((), { s with cache := s.cache.invalidate key })
  | .connect profile, s => (s.connect profile, s)
  | .listBaseTables host, s => s.query host "list_base_tables" .null (·.tables)
  | .tableExists host table, s =>
    s.query host "table_exists" (.string table) (·.tables.any (wanted (some table)))
  | .fetchColumns host table, s =>
    s.query host "fetch_columns" (Json.ofOption .string table)
      (·.columns.filter fun c => wanted table c.table)
  | .fetchPrimaryKeys host table, s =>
    s.query host "fetch_primary_keys" (Json.ofOption .string table)
      (·.primaryKeys.filter fun k => wanted table k.table)
  | .fetchForeignKeys host, s => s.query host "fetch_foreign_keys" .null (·.foreignKeys)
  | .execute host sql params, s =>
    s.query host "execute_query"
      (Json.ofFields [("sql", .string sql), ("params", Json.strings params)])
      (·.rows)

end Hosts

end Granary.Rehearsal
