import Granary.Compile.Scope
import Granary.Request.Metric

/-!
# Selected metrics

A metric is selected under a name made from its aggregation and its column.
-/

namespace Granary

open Sql (Aggregation Expr SelectItem)

/-- The name of an aggregation at the front of a result column. -/
def Sql.Aggregation.label : Aggregation → String
  | .sum => "sum"
  | .avg => "avg"
  | .min => "min"
  | .max => "max"
  | .count => "count"
  | .countDistinct => "count_distinct"

def isWordChar (c : Char) : Bool := c.isAlphanum || c == '_'

/-- What one character of a column reference leaves in a result column's name. -/
def aliasChars (c : Char) : List Char :=
  if c = '.' then ['_']
  else if c = '*' then ['a', 'l', 'l']
  else if isWordChar c then [c]
  else []

/-- A column reference as part of a name: a point becomes an underscore, a star `all`, and what is
not an ASCII letter, digit or underscore is dropped. -/
def aliasText (column : String) : String :=
  String.ofList ((Text.trimChars column.toList).flatMap aliasChars)

namespace Metric

/-- The name of the result column. -/
def aliasName (m : Metric) : String :=
  if m.isStar && m.aggregation == .count then "count_star"
  else m.aggregation.label ++ "_" ++ aliasText m.column

/-- The aggregate of a metric; only counting takes the star. -/
def expr (m : Metric) (scope : Scope) : Except Error Expr :=
  if m.isStar then
    if m.aggregation = .count then .ok (.aggregate m.aggregation .star)
    else .error (.validation (.starOnlyCounts m.text))
  else do
    return .aggregate m.aggregation (← scope.resolve m.column).expr

def select (m : Metric) (scope : Scope) : Except Error SelectItem := do
  return ⟨← m.expr scope, some m.aliasName⟩

end Metric

end Granary
