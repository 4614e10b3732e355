import Granary.Compile.Statement
import Granary.Proofs.Outcome

/-!
# The stages of a compilation

A request is compiled in stages: it is validated, the root table is looked up, the joins are
planned, and then dates, dimensions, metrics, filters and order are settled in the scope of the
plan.  `Stages` has what each stage arrives at, and `compile_eq_ok_iff` says that a request compiles
to a statement exactly when every stage succeeds and the statement is put together from them.
-/

namespace Granary

open Outcome
open Sql (Expr OrderItem SelectItem)

namespace Request

/-- What the stages of a compilation arrive at. -/
structure Stages where
  plan : JoinPlan
  dated : Option (Resolved × Bucket)
  dims : List Resolved
  metrics : List SelectItem
  predicate : Predicate
  orderBy : List OrderItem
  limit : Option Nat

namespace Stages

def scope (st : Stages) : Scope := st.plan.scope

def bucket (st : Stages) : Option Bucket := st.dated.map (·.2)

def items (st : Stages) : List SelectItem := selectItems st.bucket st.dims st.metrics

def groupBy (st : Stages) : List Expr :=
  (st.bucket.map (·.groupBy)).getD [] ++ st.dims.map (·.expr)

/-- The statement that is put together from the stages. -/
def statement (st : Stages) (r : Request) : Statement where
  table := r.root
  query := {
    items := st.items
    source := ⟨JoinPlan.spelling st.scope r.root, none⟩
    joins := st.plan.clauses
    condition := st.predicate.expr
    groupBy := st.groupBy
    orderBy := st.orderBy
    limit := st.limit }
  params := st.predicate.params

/-- Every stage succeeds, with these results. -/
structure Of (st : Stages) (r : Request) (snapshot? : Option Snapshot) : Prop where
  valid : r.validate = .ok ()
  root : JoinPlan.checkTable ⟨r.root, [], snapshot?⟩ r.root = .ok ()
  plan : JoinPlan.ofRequested ⟨Text.lowercase r.root, [], snapshot?⟩ r.joins = .ok st.plan
  dated : r.bucket? st.scope = .ok st.dated
  dims : r.dimensions.foldlM (addDimension st.scope (st.dated.map (·.1))) [] = .ok st.dims
  metrics : r.metrics.mapM (·.select st.scope) = .ok st.metrics
  predicate : Predicate.ofFilters st.scope r.filters = .ok st.predicate
  order : r.rankedOrder st.scope st.items (plainOrder st.bucket st.dims) =
    .ok (st.orderBy, st.limit)

end Stages

theorem compile_eq_ok_iff {r : Request} {snapshot? : Option Snapshot} {s : Statement} :
    r.compile snapshot? = .ok s ↔ ∃ st : Stages, st.Of r snapshot? ∧ s = st.statement r := by
  simp only [compile, bind_eq_ok, mapError_eq_ok, pure_eq_ok]
  constructor
  · rintro ⟨_, valid, _, root, plan, hplan, dated, hdated, dims, hdims, metrics, hmetrics,
      predicate, hpredicate, ⟨orderBy, limit⟩, horder, rfl⟩
    exact ⟨⟨plan, dated, dims, metrics, predicate, orderBy, limit⟩,
      ⟨valid, root, hplan, hdated, hdims, hmetrics, hpredicate, horder⟩, rfl⟩
  · rintro ⟨st, h, rfl⟩
    exact ⟨(), h.valid, (), h.root, st.plan, h.plan, st.dated, h.dated, st.dims, h.dims, st.metrics,
      h.metrics, st.predicate, h.predicate, (st.orderBy, st.limit), h.order, rfl⟩

end Request

/-! ## The tables in scope -/

/-- The table of a join under the name it is looked up by. -/
def Requested.Join.key (join : Requested.Join) : String := Text.lowercase (Text.trim join.table)

/-- The tables of a request as they are in scope once all its joins are planned. -/
def Request.scope (r : Request) (snapshot? : Option Snapshot) : Scope :=
  (r.joins.map (·.key)).foldl Scope.add ⟨Text.lowercase r.root, [], snapshot?⟩

theorem Scope.snapshot?_add (s : Scope) (table : String) :
    (s.add table).snapshot? = s.snapshot? := by
  simp only [Scope.add]
  split
  · rfl
  · rfl

theorem Scope.snapshot?_foldl_add (tables : List String) (s : Scope) :
    (tables.foldl Scope.add s).snapshot? = s.snapshot? := by
  induction tables generalizing s with
  | nil => rfl
  | cons table rest ih => rw [List.foldl_cons, ih, snapshot?_add]

theorem Request.snapshot?_scope (r : Request) (snapshot? : Option Snapshot) :
    (r.scope snapshot?).snapshot? = snapshot? := by
  rw [Request.scope, Scope.snapshot?_foldl_add]

namespace JoinPlan

/-- What one planned join adds. -/
theorem add_eq_ok_iff {plan next : JoinPlan} {join : Requested.Join} :
    plan.add join = .ok next ↔ checkTable plan.scope join.key = .ok () ∧
      ∃ conditions, plan.conditions join join.key = .ok conditions ∧
        ⟨plan.scope.add join.key, join.key,
          plan.clauses ++ [⟨join.kind, ⟨spelling plan.scope join.key, none⟩, conditions⟩]⟩ =
            next := by
  simp only [add, bind_eq_ok, pure_eq_ok, Requested.Join.key]
  constructor
  · rintro ⟨_, hcheck, hconditions⟩
    exact ⟨hcheck, hconditions⟩
  · rintro ⟨hcheck, hconditions⟩
    exact ⟨(), hcheck, hconditions⟩

theorem scope_foldlM {joins : List Requested.Join} {plan plan' : JoinPlan}
    (h : joins.foldlM add plan = .ok plan') :
    plan'.scope = (joins.map (·.key)).foldl Scope.add plan.scope := by
  induction joins generalizing plan with
  | nil =>
    rw [List.foldlM_nil, pure_eq_ok] at h
    rw [h, List.map_nil, List.foldl_nil]
  | cons join rest ih =>
    rw [List.foldlM_cons, bind_eq_ok] at h
    obtain ⟨next, hnext, hrest⟩ := h
    obtain ⟨_, conditions, _, rfl⟩ := add_eq_ok_iff.1 hnext
    rw [ih hrest, List.map_cons, List.foldl_cons]

end JoinPlan

theorem Request.Stages.Of.scope_eq {r : Request} {snapshot? : Option Snapshot} {st : Stages}
    (h : st.Of r snapshot?) : st.scope = r.scope snapshot? := by
  rw [Stages.scope, JoinPlan.scope_foldlM h.plan, Request.scope]
  rfl

end Granary
