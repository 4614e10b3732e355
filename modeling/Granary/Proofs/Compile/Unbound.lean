import Granary.Proofs.Compile.Stages
import Granary.Proofs.Sql.Inline

/-!
# What takes no values

Values reach a statement only through its filters.  All other stages write columns, functions of
columns, aggregates and the stand-in, and none of these has a parameter.
-/

namespace Granary

open Outcome
open Sql (Expr OrderItem SelectItem areWritable areWritable_eq_all)

/-! ## Columns -/

namespace Scope

variable {s : Scope} {c : Resolved}

theorem expr_of_resolveRef {ref : ColumnRef} (h : s.resolveRef ref = .ok c) :
    ∃ table? name, c.expr = .column table? name := by
  unfold resolveRef at h
  cases hs : s.snapshot? with
  | none =>
    simp only [hs] at h
    cases h
    exact ⟨_, _, rfl⟩
  | some snapshot =>
    simp only [hs, bind_eq_ok, pure_eq_ok] at h
    obtain ⟨table, _, rfl⟩ := h
    exact ⟨_, _, rfl⟩

theorem isWritable_of_resolve {raw : String} (h : s.resolve raw = .ok c) :
    c.expr.isWritable 0 = true := by
  obtain ⟨ref, _, href⟩ := bind_eq_ok.1 h
  obtain ⟨table?, name, hexpr⟩ := expr_of_resolveRef href
  rw [hexpr]
  rfl

theorem isWritable_of_resolveOn {table raw : String} (h : s.resolveOn table raw = .ok c) :
    c.expr.isWritable 0 = true := by
  obtain ⟨ref, _, href⟩ := bind_eq_ok.1 h
  obtain ⟨table?, name, hexpr⟩ := expr_of_resolveRef href
  rw [hexpr]
  rfl

end Scope

/-! ## Joins -/

namespace JoinPlan

theorem isWritable_of_conditions {plan : JoinPlan} {join : Requested.Join} {table : String}
    {es : List Expr} (h : plan.conditions join table = .ok es) :
    ∀ e ∈ es, e.isWritable 0 = true := by
  unfold conditions at h
  split at h
  · cases h
    exact fun e he => absurd he List.not_mem_nil
  · simp only [bind_eq_ok, pure_eq_ok] at h
    obtain ⟨left, hleft, right, hright, rfl⟩ := h
    have hl : left.expr.isWritable 0 = true := Scope.isWritable_of_resolve hleft
    have hr : right.expr.isWritable 0 = true := Scope.isWritable_of_resolveOn hright
    exact List.forall_mem_singleton.2 (by rw [Expr.isWritable, hl, hr, Bool.and_self])
  · split at h
    · cases h
    · split at h
      · cases h
      · cases h
        exact List.forall_mem_singleton.2 rfl

theorem isWritable_of_ofRequested {scope : Scope} {joins : List Requested.Join} {plan : JoinPlan}
    (h : ofRequested scope joins = .ok plan) :
    ∀ join ∈ plan.clauses, ∀ e ∈ join.conditions, e.isWritable 0 = true := by
  refine foldlM_invariant
    (fun plan => ∀ join ∈ plan.clauses, ∀ e ∈ join.conditions, e.isWritable 0 = true)
    (fun plan next join _ hplan hnext => ?_) (fun join hj => absurd hj List.not_mem_nil) h
  obtain ⟨_, conditions, hconditions, rfl⟩ := add_eq_ok_iff.1 hnext
  have hnew : ∀ e ∈ conditions, e.isWritable 0 = true := isWritable_of_conditions hconditions
  exact List.forall_mem_append.2 ⟨hplan, List.forall_mem_singleton.2 hnew⟩

end JoinPlan

/-! ## Dates, dimensions and metrics -/

/-- What a bucket selects and groups by, and the name it is ordered by, take no values. -/
structure Bucket.IsUnbound (b : Bucket) : Prop where
  select : ∀ item ∈ b.select, item.expr.isWritable 0 = true
  groupBy : ∀ e ∈ b.groupBy, e.isWritable 0 = true
  orderBy : b.orderBy.expr.isWritable 0 = true

theorem Bucket.isUnbound_of (grain : Sql.Grain) (display : DisplayFormat) {date : Expr}
    (h : date.isWritable 0 = true) : (Bucket.of grain display date).IsUnbound := by
  have hstart : (start grain date).isWritable 0 = true := by
    simp [start, Expr.isWritable, areWritable, h]
  have hlabel : (label grain display date).isWritable 0 = true := by
    unfold label
    cases isPadded grain with
    | true => simp [Expr.isWritable, areWritable, hstart]
    | false => simp [Expr.isWritable, areWritable, hstart]
  refine ⟨?_, ?_, rfl⟩
  · exact List.forall_mem_cons.2 ⟨hlabel, List.forall_mem_singleton.2 hstart⟩
  · exact List.forall_mem_cons.2 ⟨hstart, List.forall_mem_singleton.2 hlabel⟩

namespace Request

variable {r : Request} {scope : Scope}

theorem isUnbound_of_bucket? {dated : Option (Resolved × Bucket)}
    (h : r.bucket? scope = .ok dated) : ∀ b ∈ dated.map (·.2), b.IsUnbound := by
  unfold bucket? at h
  split at h
  · simp only [bind_eq_ok, pure_eq_ok] at h
    obtain ⟨date, hdate, rfl⟩ := h
    intro b hb
    obtain rfl : Bucket.of _ _ date.expr = b := by simpa using hb
    exact Bucket.isUnbound_of _ _ (Scope.isWritable_of_resolveOn hdate)
  · cases h
    simp

theorem isWritable_of_dimensions {date : Option Resolved} {raws : List String}
    {dims : List Resolved} (h : raws.foldlM (addDimension scope date) [] = .ok dims) :
    ∀ d ∈ dims, d.expr.isWritable 0 = true := by
  refine foldlM_invariant (fun dims => ∀ d ∈ dims, d.expr.isWritable 0 = true)
    (fun dims next raw _ hdims hnext => ?_) (fun d hd => absurd hd List.not_mem_nil) h
  obtain ⟨dim, hdim, hnext⟩ := bind_eq_ok.1 hnext
  have hnew : dim.expr.isWritable 0 = true := Scope.isWritable_of_resolve hdim
  split at hnext
  · exact pure_eq_ok.1 hnext ▸ hdims
  · exact pure_eq_ok.1 hnext ▸ List.forall_mem_append.2 ⟨hdims, List.forall_mem_singleton.2 hnew⟩

end Request

namespace Metric

variable {m : Metric} {scope : Scope}

theorem isWritable_of_expr {e : Expr} (h : m.expr scope = .ok e) : e.isWritable 0 = true := by
  unfold expr at h
  split at h
  · split at h
    · cases h
      rfl
    · cases h
  · simp only [bind_eq_ok, pure_eq_ok] at h
    obtain ⟨c, hc, rfl⟩ := h
    exact Scope.isWritable_of_resolve hc

theorem isWritable_of_select {item : SelectItem} (h : m.select scope = .ok item) :
    item.expr.isWritable 0 = true := by
  simp only [select, bind_eq_ok, pure_eq_ok] at h
  obtain ⟨e, he, rfl⟩ := h
  exact isWritable_of_expr he

end Metric

/-! ## Whole statements -/

namespace Request

variable {r : Request} {scope : Scope}

theorem isWritable_selectItems {bucket : Option Bucket} {dims : List Resolved}
    {metrics : List SelectItem} (hbucket : ∀ b ∈ bucket, b.IsUnbound)
    (hdims : ∀ d ∈ dims, d.expr.isWritable 0 = true)
    (hmetrics : ∀ item ∈ metrics, item.expr.isWritable 0 = true) :
    ∀ item ∈ selectItems bucket dims metrics, item.expr.isWritable 0 = true := by
  simp only [selectItems]
  split
  · exact List.forall_mem_singleton.2 rfl
  · refine List.forall_mem_append.2 ⟨List.forall_mem_append.2 ⟨?_, ?_⟩, hmetrics⟩
    · cases bucket with
      | none => exact fun item hi => absurd hi List.not_mem_nil
      | some b => exact (hbucket b rfl).select
    · exact List.forall_mem_map.2 hdims

theorem isWritable_plainOrder {bucket : Option Bucket} {dims : List Resolved}
    (hbucket : ∀ b ∈ bucket, b.IsUnbound) (hdims : ∀ d ∈ dims, d.expr.isWritable 0 = true) :
    ∀ o ∈ plainOrder bucket dims, o.expr.isWritable 0 = true := by
  cases bucket with
  | some b => exact List.forall_mem_singleton.2 (hbucket b rfl).orderBy
  | none =>
    cases dims with
    | nil => exact fun o ho => absurd ho List.not_mem_nil
    | cons d rest => exact List.forall_mem_singleton.2 (hdims d List.mem_cons_self)

theorem isWritable_of_rankingOrder {m : Metric} {selected : List SelectItem} {o : OrderItem}
    (h : rankingOrder m scope selected = .ok o) : o.expr.isWritable 0 = true := by
  unfold rankingOrder at h
  split at h
  · cases pure_eq_ok.1 h
    rfl
  · simp only [bind_eq_ok, pure_eq_ok] at h
    obtain ⟨e, he, rfl⟩ := h
    exact Metric.isWritable_of_expr he

theorem isWritable_of_rankedOrder {selected : List SelectItem} {order orderBy : List OrderItem}
    {limit : Option Nat} (horder : ∀ o ∈ order, o.expr.isWritable 0 = true)
    (h : r.rankedOrder scope selected order = .ok (orderBy, limit)) :
    ∀ o ∈ orderBy, o.expr.isWritable 0 = true := by
  unfold rankedOrder at h
  split at h
  · simp only [bind_eq_ok, pure_eq_ok, Prod.mk.injEq] at h
    obtain ⟨o, ho, rfl, _⟩ := h
    exact List.forall_mem_singleton.2 (isWritable_of_rankingOrder ho)
  · cases h
    exact horder

namespace Stages.Of

variable {snapshot? : Option Snapshot} {st : Stages}

theorem isWritable_otherExprs (h : st.Of r snapshot?) :
    ∀ e ∈ (st.statement r).query.otherExprs, e.isWritable 0 = true := by
  have hbucket : ∀ b ∈ st.bucket, b.IsUnbound := isUnbound_of_bucket? h.dated
  have hdims := isWritable_of_dimensions h.dims
  have hmetrics : ∀ item ∈ st.metrics, item.expr.isWritable 0 = true :=
    forall_of_mapM (fun _ _ _ hm => Metric.isWritable_of_select hm) h.metrics
  have hitems := isWritable_selectItems hbucket hdims hmetrics
  have horder := isWritable_of_rankedOrder (isWritable_plainOrder hbucket hdims) h.order
  refine List.forall_mem_append.2 ⟨List.forall_mem_append.2 ⟨List.forall_mem_append.2
    ⟨?_, ?_⟩, ?_⟩, ?_⟩
  · exact List.forall_mem_map.2 hitems
  · intro e he
    obtain ⟨join, hj, hej⟩ := List.mem_flatMap.1 he
    exact JoinPlan.isWritable_of_ofRequested h.plan join hj e hej
  · refine List.forall_mem_append.2 ⟨?_, List.forall_mem_map.2 hdims⟩
    cases hb : st.bucket with
    | none => exact fun e he => absurd he List.not_mem_nil
    | some b => exact (hbucket b hb).groupBy
  · exact List.forall_mem_map.2 horder

end Stages.Of
end Request
end Granary
