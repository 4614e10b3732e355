import Granary.Json.Form
import Granary.Sql.Expr

/-!
# Periods of time

A request may gather dates into days, weeks or months, and say how the periods are to be shown.
-/

namespace Granary

inductive Granularity where
  | asIs | daily | weekly | monthly
  deriving DecidableEq, Repr, Inhabited

namespace Granularity

def choice : Data.Choice Granularity where
  variants := [(.asIs, ["", "ASIS", "asis"]), (.daily, ["DAILY", "daily"]),
    (.weekly, ["WEEKLY", "weekly"]), (.monthly, ["MONTHLY", "monthly"])]
  other := none

def name : Granularity → String
  | .asIs => "asis"
  | .daily => "daily"
  | .weekly => "weekly"
  | .monthly => "monthly"

/-- The calendar unit, if dates are gathered at all. -/
def grain? : Granularity → Option Sql.Grain
  | .asIs => none
  | .daily => some .day
  | .weekly => some .week
  | .monthly => some .month

end Granularity

/-- How a period is shown. -/
inductive DisplayFormat where
  | weekNumber | monthName | year | plain | automatic
  deriving DecidableEq, Repr, Inhabited

namespace DisplayFormat

/-- A name that is not known leaves the choice to the granularity. -/
def choice : Data.Choice DisplayFormat where
  variants := [(.weekNumber, ["week_number"]), (.monthName, ["month_name"]), (.year, ["year"]),
    (.plain, ["original"]), (.automatic, ["auto"])]
  other := some .automatic

def name : DisplayFormat → String
  | .weekNumber => "week_number"
  | .monthName => "month_name"
  | .year => "year"
  | .plain => "original"
  | .automatic => "auto"

end DisplayFormat

end Granary
