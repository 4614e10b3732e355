import Granary.Datasource.Profile

/-!
# Datasource records

A stored datasource, as the surrounding application keeps it.  Records are decoded from any data
format.
-/

namespace Granary

structure Datasource where
  id : String
  name : String := ""
  driver : String
  host : String
  port : Nat := usualPort
  database : String
  username : String
  password : String := ""
  schema : Option String := none
  deriving DecidableEq, Repr, Inhabited

namespace Datasource

def decode {ν : Type} [Data.Form ν] : Data.Decoder ν Datasource :=
  Data.record "DatasourceRecord" <|
    mk <$> Data.field "id" Data.text ["id_datasource"]
      <*> Data.fieldOr "name" "" Data.text
      <*> Data.field "driver" Data.text ["type"]
      <*> Data.field "host" Data.text
      <*> Data.fieldOr "port" usualPort (Data.natural .port)
      <*> Data.field "database" Data.text ["database_name"]
      <*> Data.field "username" Data.text
      <*> Data.fieldOr "password" "" Data.text
      <*> Data.fieldOr "schema" none (Data.optional Data.text)

def toJson (d : Datasource) : Json :=
  Json.ofFields [("id", .string d.id), ("name", .string d.name), ("driver", .string d.driver),
    ("host", .string d.host), ("port", Json.nat d.port), ("database", .string d.database),
    ("username", .string d.username), ("password", .string d.password),
    ("schema", Json.ofOption .string d.schema)]

/-- A record in a diagnostic, which leaves out how to log in. -/
def diagnostic (d : Datasource) : String :=
  Text.showRecord "DatasourceRecord" [("id", Text.quote d.id), ("name", Text.quote d.name),
    ("driver", Text.quote d.driver), ("host", Text.quote d.host),
    ("database", Text.quote d.database)] true

/-- How to connect; a record that names no schema gets the given one. -/
def profile (d : Datasource) (defaultSchema : String) : Except Error Profile := do
  return ⟨← Driver.parse d.driver, d.host, d.port, d.database, d.username, d.password,
    d.schema.getD defaultSchema⟩

end Datasource

end Granary
