import Granary.Json.Form
import Granary.Text.Blank
import Granary.Text.Casing

/-!
# Columns of replicated tables

Every source column gets a type of the warehouse from the name of its own type and its declared
limits.  A type that is not known becomes a text.
-/

namespace Granary.Replica

/-- The type of a warehouse column. -/
inductive ColumnType where
  | smallInt | integer | bigInt
  | numeric (precision scale : Nat)
  | real | doublePrecision
  | date | time | timeTz | timestamp | timestampTz
  | boolean | json | jsonb | uuid | inet
  | varchar (length : Nat)
  | char (length : Nat)
  | text
  deriving DecidableEq, Repr, Inhabited

namespace ColumnType

def isTemporal : ColumnType → Bool
  | .date | .time | .timeTz | .timestamp | .timestampTz => true
  | _ => false

def isNumeric : ColumnType → Bool
  | .smallInt | .integer | .bigInt | .numeric .. | .real | .doublePrecision => true
  | _ => false

def isText : ColumnType → Bool
  | .varchar _ | .char _ | .text => true
  | _ => false

/-- The type as a column definition writes it. -/
def ddl : ColumnType → String
  | .smallInt => "smallint"
  | .integer => "integer"
  | .bigInt => "bigint"
  | .numeric precision scale => s!"numeric({precision},{scale})"
  | .real => "real"
  | .doublePrecision => "double precision"
  | .date => "date"
  | .time => "time"
  | .timeTz => "timetz"
  | .timestamp => "timestamp"
  | .timestampTz => "timestamptz"
  | .boolean => "boolean"
  | .json => "json"
  | .jsonb => "jsonb"
  | .uuid => "uuid"
  | .inet => "inet"
  | .varchar length => s!"varchar({length})"
  | .char length => s!"char({length})"
  | .text => "text"

def toJson : ColumnType → Json
  | .smallInt => .string "small_int"
  | .integer => .string "integer"
  | .bigInt => .string "big_int"
  | .numeric precision scale =>
    Json.ofFields [("numeric",
      Json.ofFields [("precision", Json.nat precision), ("scale", Json.nat scale)])]
  | .real => .string "real"
  | .doublePrecision => .string "double_precision"
  | .date => .string "date"
  | .time => .string "time"
  | .timeTz => .string "time_tz"
  | .timestamp => .string "timestamp"
  | .timestampTz => .string "timestamp_tz"
  | .boolean => .string "boolean"
  | .json => .string "json"
  | .jsonb => .string "jsonb"
  | .uuid => .string "uuid"
  | .inet => .string "inet"
  | .varchar length => Json.ofFields [("varchar", Json.nat length)]
  | .char length => Json.ofFields [("char", Json.nat length)]
  | .text => .string "text"

end ColumnType

/-- The limits that a column declares. -/
structure Limits where
  maxLength : Option Int := none
  precision : Option Int := none
  scale : Option Int := none
  deriving DecidableEq, Repr, Inhabited

/-- A limit that is given and positive. -/
def positive? (n : Option Int) : Option Nat := (n.filter (0 < ·)).map Int.toNat

/-- The longest text that keeps its declared length. -/
def longestVarchar : Nat := 255

namespace ColumnType

/-- A number of declared precision and scale.  Ten digits are kept where no precision is declared,
two of them after the point where no scale is; the scale is never more than the precision. -/
def numericOf (limits : Limits) : ColumnType :=
  let precision := (positive? limits.precision).getD 10
  let scale := ((limits.scale.filter (0 ≤ ·)).map Int.toNat).getD 2
  .numeric precision (min scale precision)

def varcharOf (limits : Limits) : ColumnType :=
  match positive? limits.maxLength with
  | some n => if n ≤ longestVarchar then .varchar n else .text
  | none => .text

def charOf (limits : Limits) : ColumnType := .char ((positive? limits.maxLength).getD 255)

/-- The names of source types and what each becomes. -/
def known : List (List String × (Limits → ColumnType)) := [
  (["smallint", "int2"], fun _ => .smallInt),
  (["integer", "int", "int4"], fun _ => .integer),
  (["bigint", "int8"], fun _ => .bigInt),
  (["numeric", "decimal"], numericOf),
  (["real", "float4"], fun _ => .real),
  (["double precision", "float8"], fun _ => .doublePrecision),
  (["money"], fun _ => .numeric 19 4),
  (["date"], fun _ => .date),
  (["time", "time without time zone"], fun _ => .time),
  (["timetz", "time with time zone"], fun _ => .timeTz),
  (["timestamp", "timestamp without time zone"], fun _ => .timestamp),
  (["timestamptz", "timestamp with time zone"], fun _ => .timestampTz),
  (["boolean", "bool"], fun _ => .boolean),
  (["json"], fun _ => .json),
  (["jsonb"], fun _ => .jsonb),
  (["uuid"], fun _ => .uuid),
  (["inet"], fun _ => .inet),
  (["character varying", "varchar"], varcharOf),
  (["character", "char", "bpchar"], charOf),
  (["text"], fun _ => .text)]

/-- The type that a source type becomes; blanks around its name and letter case do not matter. -/
def ofSource? (sourceType : String) (limits : Limits) : Option ColumnType :=
  let name := Text.asciiLower (Text.trim sourceType)
  (known.find? fun entry => entry.1.contains name).map fun entry => entry.2 limits

end ColumnType

/-- A column of a source table. -/
structure SourceColumn where
  name : String
  sourceType : String
  nullable : Bool
  limits : Limits
  ordinal : Int
  deriving DecidableEq, Repr, Inhabited

namespace SourceColumn

def decodeSmall : Data.Decoder Json Int := Data.integer .small

def decode : Data.Decoder Json SourceColumn :=
  Data.record "SourceColumn" <|
    (fun name sourceType nullable maxLength precision scale ordinal =>
      ⟨name, sourceType, nullable, ⟨maxLength, precision, scale⟩, ordinal⟩)
    <$> Data.field "name" Data.text
    <*> Data.field "source_type" Data.text
    <*> Data.field "nullable" Data.boolean
    <*> Data.fieldOption "max_length" decodeSmall
    <*> Data.fieldOption "precision" decodeSmall
    <*> Data.fieldOption "scale" decodeSmall
    <*> Data.field "ordinal" decodeSmall

def toJson (c : SourceColumn) : Json :=
  Json.ofFields [("name", .string c.name), ("source_type", .string c.sourceType),
    ("nullable", .bool c.nullable), ("max_length", Json.ofOption .int c.limits.maxLength),
    ("precision", Json.ofOption .int c.limits.precision),
    ("scale", Json.ofOption .int c.limits.scale), ("ordinal", .int c.ordinal)]

end SourceColumn

/-- The columns that a replicated table has besides those of its source: they record when a row was
written. -/
def auditColumns : List String := ["_etl_created_at", "_etl_updated_at"]

/-- A column of a replicated table. -/
structure Column where
  name : String
  type : ColumnType
  nullable : Bool
  /-- The source type was not known and the column became a text. -/
  fallback : Bool
  deriving DecidableEq, Repr, Inhabited

namespace Column

def ofSource (c : SourceColumn) : Column :=
  match ColumnType.ofSource? c.sourceType c.limits with
  | some type => ⟨c.name, type, c.nullable, false⟩
  | none => ⟨c.name, .text, c.nullable, true⟩

def toJson (c : Column) : Json :=
  Json.ofFields [("name", .string c.name), ("dest", c.type.toJson), ("nullable", .bool c.nullable),
    ("fallback", .bool c.fallback)]

end Column

end Granary.Replica
