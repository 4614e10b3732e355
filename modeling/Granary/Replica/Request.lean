import Granary.Datasource.Profile
import Granary.Replica.Name

/-!
# Requests to replicate

A request names the source database and the connection name that its tables are replicated under.
-/

namespace Granary.Replica

structure Request where
  host : String
  port : Nat := usualPort
  database : String
  username : String
  password : String := ""
  connection : String
  deriving DecidableEq, Repr, Inhabited

namespace Request

def decode : Data.Decoder Json Request :=
  Data.record "EtlRequest" <|
    mk <$> Data.field "host" Data.text
      <*> Data.fieldOr "port" usualPort (Data.natural .port)
      <*> Data.field "database" Data.text
      <*> Data.field "username" Data.text
      <*> Data.fieldOr "password" "" Data.text
      <*> Data.field "connection_name" Data.text

def toJson (r : Request) : Json :=
  Json.ofFields [("host", .string r.host), ("port", Json.nat r.port),
    ("database", .string r.database), ("username", .string r.username),
    ("password", .string r.password), ("connection_name", .string r.connection)]

/-- A request in a diagnostic. -/
def diagnostic (r : Request) : String :=
  Text.showRecord "EtlRequest" [("host", Text.quote r.host), ("port", toString r.port),
    ("database", Text.quote r.database), ("username", Text.quote r.username),
    ("password", Text.hidden), ("connection_name", Text.quote r.connection)]

/-- Where to connect to must not be blank, and the connection name must be one. -/
def validate (r : Request) : Except Error Unit := do
  let needed (field value : String) : Except Error Unit :=
    if Text.allBlank value then .error (.validation (.required field)) else .ok ()
  needed "host" r.host
  needed "database" r.database
  needed "username" r.username
  checkName r.connection

/-- The source database: always PostgreSQL, with the tables of its `public` schema. -/
def profile (r : Request) : Profile :=
  ⟨.postgres, r.host, r.port, r.database, r.username, r.password, "public"⟩

end Request

/-- The three ways to replicate. -/
inductive Mode where
  /-- The first load of a connection. -/
  | run
  /-- New rows for the tables that are there. -/
  | refresh
  /-- A load from scratch. -/
  | fullRefresh
  deriving DecidableEq, Repr, Inhabited

namespace Mode

def choice : Data.Choice Mode where
  variants := [(.run, ["run"]), (.refresh, ["refresh"]), (.fullRefresh, ["full_refresh"])]
  other := none

def name : Mode → String
  | .run => "run"
  | .refresh => "refresh"
  | .fullRefresh => "full_refresh"

end Mode

end Granary.Replica
