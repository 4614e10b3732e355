import Granary.Compile.Bucket
import Granary.Compile.JoinPlan
import Granary.Compile.Measure
import Granary.Compile.Predicate
import Granary.Request
import Granary.Sql.Render

/-!
# Compiling requests

A request becomes one SELECT statement with parameters.  With a snapshot every table and column is
checked against it and parameters are cast to the types of their columns; without one names are
taken as they are.
-/

namespace Granary

open Sql (Expr OrderItem Select SelectItem)

/-- A compiled request. -/
structure Statement where
  /-- The root table in lower case. -/
  table : String
  query : Select
  params : List String
  deriving BEq, Repr, Inhabited

namespace Statement

/-- The text that is executed, with a placeholder for every parameter. -/
def sql (s : Statement) : String := s.query.render .placeholders

/-- The text that is shown, with the parameters written in place. -/
def shown (s : Statement) : String := s.query.render (.inlined s.params)

end Statement

namespace Request

/-- What the dates of a request contribute, and the date column itself; none if dates are not
gathered. -/
def bucket? (r : Request) (scope : Scope) : Except Error (Option (Resolved × Bucket)) :=
  match r.granularity.grain?, r.date? with
  | some grain, some column => do
    let date ← scope.resolveOn scope.root column
    return some (date, Bucket.of grain r.display date.expr)
  | _, _ => .ok none

/-- Adds a dimension, unless it is the column whose dates are gathered or is there already. -/
def addDimension (scope : Scope) (date : Option Resolved) (dims : List Resolved) (raw : String) :
    Except Error (List Resolved) := do
  let dim ← scope.resolve raw
  if date.any dim.sameColumn || dims.any (·.expr == dim.expr) then return dims
  else return dims ++ [dim]

/-- What is selected where nothing else is. -/
def standIn : SelectItem := ⟨.literal (.number (.int 1)), some "placeholder"⟩

/-- The column that ranks the rows, by its name in the result if it is selected. -/
def rankingOrder (m : Metric) (scope : Scope) (selected : List SelectItem) :
    Except Error OrderItem := do
  if selected.any (·.alias? == some m.aliasName) then return ⟨.aliased m.aliasName, .desc⟩
  else return ⟨← m.expr scope, .desc⟩

/-- The order and limit of a request for the highest ranking rows; others keep the order given.
Without a metric there is nothing to rank by. -/
def rankedOrder (r : Request) (scope : Scope) (selected : List SelectItem)
    (order : List OrderItem) : Except Error (List OrderItem × Option Nat) :=
  match r.top, r.metrics with
  | some n, first :: _ => do
    return ([← rankingOrder (r.ranking.getD first) scope selected], some n)
  | _, _ => .ok (order, none)

/-- The order of a request in which nothing is ranked: by the start of the periods, or else by the
first dimension. -/
def plainOrder (bucket : Option Bucket) (dims : List Resolved) : List OrderItem :=
  match bucket with
  | some b => [b.orderBy]
  | none => (dims.head?.map fun d => ⟨d.expr, .asc⟩).toList

/-- What a request selects: periods, dimensions and metrics, in this order. -/
def selectItems (bucket : Option Bucket) (dims : List Resolved) (metrics : List SelectItem) :
    List SelectItem :=
  let items := (bucket.map (·.select)).getD [] ++ dims.map (fun d => ⟨d.expr, none⟩) ++ metrics
  if items.isEmpty then [standIn] else items

/-- Compiles a request, with or without a snapshot of the catalog. -/
def compile (r : Request) (snapshot? : Option Snapshot) : Except Error Statement := do
  r.validate.mapError .validation
  let root := r.root
  JoinPlan.checkTable ⟨root, [], snapshot?⟩ root
  let plan ← JoinPlan.ofRequested ⟨Text.lowercase root, [], snapshot?⟩ r.joins
  let scope := plan.scope
  let dated ← r.bucket? scope
  let bucket := dated.map (·.2)
  let dims ← r.dimensions.foldlM (addDimension scope (dated.map (·.1))) []
  let metrics ← r.metrics.mapM (·.select scope)
  let items := selectItems bucket dims metrics
  let predicate ← Predicate.ofFilters scope r.filters
  let (orderBy, limit) ← r.rankedOrder scope items (plainOrder bucket dims)
  return {
    table := root
    query := {
      items := items
      source := ⟨JoinPlan.spelling scope root, none⟩
      joins := plan.clauses
      condition := predicate.expr
      groupBy := (bucket.map (·.groupBy)).getD [] ++ dims.map (·.expr)
      orderBy := orderBy
      limit := limit }
    params := predicate.params }

end Request

end Granary
