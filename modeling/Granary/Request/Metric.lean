import Granary.Json.Form
import Granary.Sql.Expr
import Granary.Text.Blank
import Granary.Text.Casing
import Granary.Text.Split

/-!
# Metrics

A metric is a column and how its values are aggregated.  It is written `column|AGGREGATION`; without
an aggregation it counts, and so it does with one that is not known.
-/

namespace Granary

open Sql (Aggregation)

structure Metric where
  column : String
  aggregation : Aggregation
  /-- The aggregation was not known and counting took its place. -/
  fallback : Bool := false
  deriving DecidableEq, Repr, Inhabited

namespace Metric

/-- The name of an aggregation in a metric's text. -/
def aggregationName : Aggregation → String
  | .sum => "SUM"
  | .avg => "AVERAGE"
  | .min => "MIN"
  | .max => "MAX"
  | .count => "COUNT"
  | .countDistinct => "COUNT_DISTINCT"

/-- The aggregation that a name in upper case stands for. -/
def aggregation? (name : String) : Option Aggregation :=
  if name = "" ∨ name = "COUNT" then some .count
  else if name = "SUM" then some .sum
  else if name = "AVERAGE" ∨ name = "AVG" then some .avg
  else if name = "MIN" then some .min
  else if name = "MAX" then some .max
  else if name = "COUNT_DISTINCT" then some .countDistinct
  else none

def text (m : Metric) : String := m.column ++ "|" ++ aggregationName m.aggregation

/-- Whether the metric is about rows and not about a column. -/
def isStar (m : Metric) : Bool := Text.trim m.column == "*"

/-- Reads `column|AGGREGATION`, where blanks and letter case of the aggregation do not matter. -/
def parse (s : String) : Except Refusal Metric :=
  let (column, name) := (Text.cut "|" s).getD (s, "")
  let column := Text.trim column
  if column.isEmpty then .error (.metricWithoutColumn s)
  else
    match aggregation? (Text.asciiUpper (Text.trim name)) with
    | some aggregation => .ok ⟨column, aggregation, false⟩
    | none => .ok ⟨column, .count, true⟩

/-- A metric as an object has its column and, if wanted, its aggregation. -/
def written : Data.Decoder Json String :=
  Data.record "Full" <|
    (fun column aggregation => match aggregation with
      | some name => column ++ "|" ++ name
      | none => column)
    <$> Data.field "column" Data.text
    <*> Data.fieldOr "aggregation" none (Data.optional Data.text)

def decode : Data.Decoder Json Metric := fun v => do
  let s ← match v with
    | .string s => pure s
    | other => written other
  (parse s).mapError .refused

def toJson (m : Metric) : Json := .string m.text

end Metric

end Granary
