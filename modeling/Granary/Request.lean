import Granary.Decimal.Reading
import Granary.Error
import Granary.Request.Filter
import Granary.Request.Join
import Granary.Request.Metric
import Granary.Request.Period

/-!
# Requests

A declarative analytical query.  It is decoded leniently: older field names, nulls for lists, counts
written as text and filters that are not a list are all accepted.
-/

namespace Granary

structure Request where
  table : String
  dimensions : List String := []
  metrics : List Metric := []
  joins : List Requested.Join := []
  filters : List Filter := []
  granularity : Granularity := .asIs
  /-- The date column, if named directly. -/
  dateColumn : Option String := none
  /-- The date column of a date filter; the outer option tells whether there is such a filter. -/
  dateFilter : Option (Option String) := none
  /-- Only so many of the highest ranking rows are wanted. -/
  top : Option Nat := none
  /-- What ranks the rows, if not the first metric. -/
  ranking : Option Metric := none
  display : DisplayFormat := .automatic
  deriving BEq, Repr, Inhabited

namespace Request

/-- A double as a word: cut towards zero, and to the greatest word if it is larger. -/
def countOfFloat (x : Float) : Option Nat := if x ≥ 1.0 then some x.toUInt64.toNat else none

/-- A positive count, as a number or as a decimal text; anything else is no count. -/
def positiveCount : Json → Option Nat
  | .number n => ((n.asNat?).or (countOfFloat n.toFloat)).filter (0 < ·)
  | .string s => ((Decimal.float? (Text.trim s)).bind countOfFloat).filter (0 < ·)
  | _ => none

/-- The details of a date filter, of which only the column counts. -/
def decodeDateFilter : Data.Decoder Json (Option String) :=
  Data.record "DateFilterDetails" <| id <$> Data.fieldOption "column" Data.text

def decode : Data.Decoder Json Request :=
  Data.record "QueryRequest" <|
    mk <$> Data.field "table" Data.text ["tabel"]
      <*> Data.fieldOr "dimensions" [] (Data.nullOr [] (Data.listOf Data.text)) ["dimensi"]
      <*> Data.fieldOr "metrics" [] (Data.nullOr [] (Data.listOf Metric.decode)) ["metriks"]
      <*> Data.fieldOr "joins" [] (Data.nullOr [] (Data.listOf Requested.Join.decode))
        ["tabel_join"]
      <*> Data.fieldOr "filters" [] Filter.decodeAll
      <*> Data.fieldOr "granularity" .asIs (Data.nullOr .asIs Granularity.choice.decode)
      <*> Data.fieldOr "date_column" none (Data.optional Data.text) ["dateColumn"]
      <*> Data.fieldOr "date_filter_details" none (Data.optional decodeDateFilter)
      <*> Data.fieldOr "topN" none (fun v => .ok (positiveCount v)) ["top_n"]
      <*> Data.fieldOr "topN_metric" none (Data.optional Metric.decode) ["top_n_metric"]
      <*> Data.fieldOr "display_format" .automatic
        (Data.nullOr .automatic DisplayFormat.choice.decode)

def toJson (r : Request) : Json :=
  Json.ofFields <|
    [("table", .string r.table),
      ("dimensions", Json.strings r.dimensions),
      ("metrics", .array (r.metrics.map Metric.toJson)),
      ("joins", .array (r.joins.map Requested.Join.toJson)),
      ("filters", .array (r.filters.map Filter.toJson)),
      ("granularity", .string r.granularity.name),
      ("display_format", .string r.display.name)] ++
    r.dateColumn.toList.map (fun c => ("date_column", .string c)) ++
    r.dateFilter.toList.map
      (fun c => ("date_filter_details", Json.ofFields [("column", Json.ofOption .string c)])) ++
    r.top.toList.map (fun n => ("topN", Json.nat n)) ++
    r.ranking.toList.map (fun m => ("topN_metric", m.toJson))

/-- The column whose dates are gathered into periods: the one named directly, or else the one of the
date filter; none if it is blank. -/
def date? (r : Request) : Option String :=
  (r.dateColumn.or (r.dateFilter.bind id)).filter fun c => !Text.allBlank c

/-- The root table under the name it is looked up by. -/
def root (r : Request) : String := Text.lowercase (Text.trim r.table)

/-- What can be checked without a catalog: names that must not be blank, and the values of the
filters. -/
def validate (r : Request) : Except Refusal Unit := do
  if Text.allBlank r.table then throw .emptyTable
  r.joins.forM fun j => if Text.allBlank j.table then throw .emptyJoinTable else pure ()
  r.filters.forM Filter.validate

/-- A request that has been decoded and validated. -/
def ofJson (v : Json) : Except Error Request := do
  let r ← (decode v).mapError .json
  r.validate.mapError .validation
  return r

end Request

end Granary
