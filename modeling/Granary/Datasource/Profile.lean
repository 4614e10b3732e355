import Granary.Error
import Granary.Json.Form
import Granary.Text.Blank
import Granary.Text.Casing

/-!
# Connections

Which database to connect to and how.  A profile lives as long as one request; its password is never
shown.
-/

namespace Granary

inductive Driver where
  | postgres | mySql | sqlServer | sqlite
  deriving DecidableEq, Repr, Inhabited

namespace Driver

/-- The drivers by the names that records have for them. -/
def parse (s : String) : Except Error Driver :=
  let name := Text.asciiLower (Text.trim s)
  if name = "pgsql" ∨ name = "postgres" ∨ name = "postgresql" then .ok .postgres
  else if name = "mysql" ∨ name = "mariadb" then .ok .mySql
  else if name = "sqlsrv" ∨ name = "sqlserver" ∨ name = "mssql" then .ok .sqlServer
  else if name = "sqlite" then .ok .sqlite
  else .error (.unsupportedDriver name)

def choice : Data.Choice Driver where
  variants := [(.postgres, ["postgres"]), (.mySql, ["mysql"]), (.sqlServer, ["sqlserver"]),
    (.sqlite, ["sqlite"])]
  other := none

/-- The name in typed data. -/
def name : Driver → String
  | .postgres => "postgres"
  | .mySql => "mysql"
  | .sqlServer => "sqlserver"
  | .sqlite => "sqlite"

/-- The name in messages. -/
def code : Driver → String
  | .postgres => "pgsql"
  | .mySql => "mysql"
  | .sqlServer => "sqlsrv"
  | .sqlite => "sqlite"

/-- The name in diagnostics. -/
def title : Driver → String
  | .postgres => "Postgres"
  | .mySql => "MySql"
  | .sqlServer => "SqlServer"
  | .sqlite => "Sqlite"

end Driver

/-- The port that a PostgreSQL server listens on, unless another is given. -/
def usualPort : Nat := 5432

/-- One physical database. -/
structure Profile where
  driver : Driver
  host : String
  port : Nat
  database : String
  username : String
  password : String
  schema : String
  deriving DecidableEq, Repr, Inhabited

/-- A profile in a diagnostic. -/
def Profile.diagnostic (p : Profile) : String :=
  Text.showRecord "ConnectionProfile" [("driver", p.driver.title), ("host", Text.quote p.host),
    ("port", toString p.port), ("database", Text.quote p.database),
    ("username", Text.quote p.username), ("password", Text.hidden), ("schema", Text.quote p.schema)]

end Granary
