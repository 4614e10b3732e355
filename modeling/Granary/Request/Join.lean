import Granary.Json.Form
import Granary.Sql.Expr
import Granary.Text.Blank
import Granary.Text.Casing

/-!
# Requested joins

A request names the tables to join, the kind of each join, and, where the catalog does not tell
how the tables belong together, the two columns that must agree.
-/

namespace Granary

open Sql (JoinKind)

/-- The name of a kind of join in requests. -/
def Sql.JoinKind.name : JoinKind → String
  | .inner => "INNER"
  | .left => "LEFT"
  | .right => "RIGHT"
  | .full => "FULL"
  | .cross => "CROSS"

namespace Requested

/-- Reads a kind of join; blanks around it and letter case do not matter. -/
def joinKind (s : String) : Except Refusal JoinKind :=
  let name := Text.asciiUpper (Text.trim s)
  if name = "" ∨ name = "INNER" ∨ name = "JOIN" then .ok .inner
  else if name = "LEFT" ∨ name = "LEFT OUTER" then .ok .left
  else if name = "RIGHT" ∨ name = "RIGHT OUTER" then .ok .right
  else if name = "FULL" ∨ name = "FULL OUTER" ∨ name = "OUTER" then .ok .full
  else if name = "CROSS" then .ok .cross
  else .error (.unsupportedJoin name)

def decodeJoinKind : Data.Decoder Json JoinKind := fun v => do
  (joinKind (← Data.text v)).mapError .refused

/-- The two columns that an explicit join makes equal. -/
structure JoinOn where
  /-- A column of a table joined before, with its table. -/
  left : String
  /-- A column of the joined table, with or without its table. -/
  right : String
  deriving DecidableEq, Repr, Inhabited

namespace JoinOn

def decode : Data.Decoder Json JoinOn :=
  Data.record "JoinOn" <| mk <$> Data.field "left" Data.text <*> Data.field "right" Data.text

def toJson (o : JoinOn) : Json :=
  Json.ofFields [("left", .string o.left), ("right", .string o.right)]

end JoinOn

structure Join where
  table : String
  kind : JoinKind := .inner
  on : Option JoinOn := none
  deriving DecidableEq, Repr, Inhabited

namespace Join

def decode : Data.Decoder Json Join :=
  Data.record "JoinSpec" <|
    mk <$> Data.field "table" Data.text ["tabel"]
      <*> Data.fieldOr "join_type" .inner decodeJoinKind
      <*> Data.fieldOr "on" none (Data.optional JoinOn.decode)

def toJson (j : Join) : Json :=
  Json.ofFields <|
    [("table", .string j.table), ("join_type", .string j.kind.name)] ++
      j.on.toList.map fun on => ("on", on.toJson)

end Join

end Requested

end Granary
