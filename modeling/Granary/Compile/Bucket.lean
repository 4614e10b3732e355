import Granary.Request.Period

/-!
# Gathering dates into periods

A date column is cut down to the start of its period.  The query selects a label of the period and
its start, groups by both, and is ordered by the start.
-/

namespace Granary

open Sql (Expr Grain OrderItem SelectItem)

/-- What the periods contribute to a query. -/
structure Bucket where
  select : List SelectItem
  groupBy : List Expr
  orderBy : OrderItem
  deriving BEq, Repr

namespace Bucket

def labelAlias : String := "period_label"

def startAlias : Grain → String
  | .day => "day_start"
  | .week => "week_start"
  | .month => "month_start"

def weekNumberPattern : String := "IYYY-\"Week\"-IW"

def datePattern : String := "YYYY-MM-DD"

/-- The pattern of a label. -/
def labelPattern : Grain → DisplayFormat → String
  | .day, .weekNumber => weekNumberPattern
  | .day, .monthName => "YYYY-Mon-DD"
  | .day, _ => datePattern
  | .week, .monthName | .week, .year | .week, .plain => datePattern
  | .week, _ => weekNumberPattern
  | .month, .plain => "YYYY-MM"
  | .month, _ => "YYYY-Month"

/-- Labels of months are trimmed, since names of months are padded to one length. -/
def isPadded : Grain → Bool
  | .month => true
  | _ => false

def start (grain : Grain) (date : Expr) : Expr := .call (.dateTrunc grain) [date]

def label (grain : Grain) (display : DisplayFormat) (date : Expr) : Expr :=
  let shown := .call (.toChar (labelPattern grain display)) [start grain date]
  if isPadded grain then .call .trim [shown] else shown

def of (grain : Grain) (display : DisplayFormat) (date : Expr) : Bucket where
  select := [⟨label grain display date, some labelAlias⟩,
    ⟨start grain date, some (startAlias grain)⟩]
  groupBy := [start grain date, label grain display date]
  orderBy := ⟨.aliased (startAlias grain), .asc⟩

end Bucket

end Granary
