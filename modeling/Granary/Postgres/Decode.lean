import Granary.Json.Reader
import Granary.Postgres.Address
import Granary.Postgres.Calendar
import Granary.Postgres.Numeric

/-!
# Decoding results

The cells of a result become JSON values by the types of their columns.  A null, octets that are no
value of the type, and every value of a type that is not listed here become null.
-/

namespace Granary.Postgres

/-- The types of columns whose values can be told. -/
inductive ValueType where
  | bool | int2 | int4 | int8 | oid | float4 | float8 | numeric
  | date | time | timestamp | timestamptz
  | json | jsonb | uuid | inet
  /-- The types of texts. -/
  | text
  | other
  deriving DecidableEq, Repr, Inhabited

structure ResultColumn where
  name : String
  type : ValueType
  deriving DecidableEq, Repr, Inhabited

/-- What a statement answers. -/
structure ResultSet where
  columns : List ResultColumn := []
  rows : List (List Cell) := []
  /-- How many rows the statement has written. -/
  affected : Nat := 0
  deriving DecidableEq, Repr, Inhabited

/-- A finite double as a number; JSON has no other. -/
def floatJson? (x : Float) : Option Json := if x.isFinite then some (.number (.float x)) else none

/-- Two digits of base sixteen for each octet. -/
def hexOctets (octets : Octets) : String :=
  String.ofList (octets.flatMap fun o =>
    [Nat.digitChar (o.toNat / 16), Nat.digitChar (o.toNat % 16)])

/-- Sixteen octets in five groups. -/
def uuidText? (octets : Octets) : Option String :=
  if octets.length = 16 then
    let part (start length : Nat) : String := hexOctets ((octets.drop start).take length)
    some ("-".intercalate [part 0 4, part 4 2, part 6 2, part 8 2, part 10 6])
  else none

/-- A JSON text. -/
def jsonText? (octets : Octets) : Option Json :=
  (Wire.text? octets).bind fun text => (Json.read text).toOption

/-- The value of some octets. -/
def ValueType.decode? (type : ValueType) (octets : Octets) : Option Json :=
  match type with
  | .bool => (Wire.truth? octets).map .bool
  | .int2 => (Wire.signed? 2 octets).map Json.int
  | .int4 => (Wire.signed? 4 octets).map Json.int
  | .int8 => (Wire.signed? 8 octets).map Json.int
  | .oid => (Wire.sized? 4 octets).map Json.nat
  | .float4 => (Wire.sized? 4 octets).bind fun n => floatJson? (Float32.ofBits n.toUInt32).toFloat
  | .float8 => (Wire.sized? 8 octets).bind fun n => floatJson? (Float.ofBits n.toUInt64)
  | .numeric => Numeric.decode? octets
  | .date => ((Wire.signed? 4 octets).bind dayText?).map .string
  | .time => (Wire.signed? 8 octets).map fun n => .string (timeText n)
  | .timestamp => ((Wire.signed? 8 octets).bind (momentText? " " "")).map .string
  | .timestamptz => ((Wire.signed? 8 octets).bind (momentText? "T" "+00:00")).map .string
  | .json => jsonText? octets
  | .jsonb => match octets with
    | 1 :: rest => jsonText? rest
    | _ => none
  | .uuid => (uuidText? octets).map .string
  | .inet => (Address.text? octets).map .string
  | .text => (Wire.text? octets).map .string
  | .other => none

/-- The value of a cell. -/
def cellJson (type : ValueType) (cell : Cell) : Json := (cell.bind type.decode?).getD .null

/-- A row as an object; of columns of one name the last counts. -/
def rowJson (columns : List ResultColumn) (row : List Cell) : Json :=
  Json.ofFields ((columns.zip row).map fun (column, cell) =>
    (column.name, cellJson column.type cell))

def ResultSet.toJson (r : ResultSet) : List Json := r.rows.map (rowJson r.columns)

end Granary.Postgres
