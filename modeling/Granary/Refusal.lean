/-!
# Reasons to refuse a request

What a caller can do wrong, apart from naming tables and columns that do not exist.  Each reason
carries the words of the caller that it is about.
-/

namespace Granary

/-- Why an input is refused. -/
inductive Refusal where
  | emptyTable
  | emptyJoinTable
  | betweenWantsTwo (column : String)
  | betweenWantsPair (column : String)
  | wantsSingleValue (column : String)
  | metricWithoutColumn (metric : String)
  | unsupportedJoin (name : String)
  | badColumnReference (reference : String)
  | joinWantsSnapshot (table : String)
  | starOnlyCounts (metric : String)
  | rankingWantsMetric
  | required (field : String)
  | noDirectory (path : String)
  | stated (reason : String)
  deriving DecidableEq, Repr

def Refusal.reason : Refusal → String
  | .emptyTable => "table name must not be empty"
  | .emptyJoinTable => "join table name must not be empty"
  | .betweenWantsTwo column => s!"between filter on '{column}' needs exactly two values"
  | .betweenWantsPair column => s!"between filter on '{column}' needs a [low, high] array"
  | .wantsSingleValue column => s!"filter on '{column}' needs a single value"
  | .metricWithoutColumn metric => s!"metric '{metric}' has no column"
  | .unsupportedJoin name => s!"unsupported join type '{name}'"
  | .badColumnReference reference => s!"invalid column reference '{reference}'"
  | .joinWantsSnapshot table => s!"joining {table} needs a schema snapshot or an explicit predicate"
  | .starOnlyCounts metric => s!"aggregation over * is only valid for COUNT, got {metric}"
  | .rankingWantsMetric => "top-N needs a metric"
  | .required field => s!"{field} is required"
  | .noDirectory path => s!"datasources directory not found: {path}"
  | .stated reason => reason

/-- The reason as an error message. -/
def Refusal.message (r : Refusal) : String := "validation error: " ++ r.reason

end Granary
