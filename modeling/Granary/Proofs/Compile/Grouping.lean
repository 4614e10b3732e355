import Granary.Proofs.Compile.OutputName

/-!
# Grouped statements

A server accepts a grouped query only if whatever it selects is the same for all rows of a group.
`Select.Grouped` is this rule: an item is an aggregate, an entry of GROUP BY or a constant, rows are
kept and grouped by expressions without aggregates, and no aggregate is inside another.

`grouped_of_compile` proves it of every statement, and says what the stand-in, the limit and the
order depend on.  Periods, dimensions and metrics each bring their own items and entries, so the
rule is proved part by part; only the stand-in and the order look at several parts at once.
-/

namespace Granary

open Outcome
open Sql (Expr OrderItem Select SelectItem)

namespace Sql

mutual

/-- What the aggregates of an expression are taken of, those inside others too. -/
def Expr.aggregated : Expr → List Expr
  | .column _ _ | .star | .literal _ | .param _ _ | .aliased _ => []
  | .call _ args => aggregatedAll args
  | .binary _ left right => left.aggregated ++ right.aggregated
  | .aggregate _ arg => arg :: arg.aggregated
  | .between subject low high _ => subject.aggregated ++ low.aggregated ++ high.aggregated
  | .not inner => inner.aggregated

def aggregatedAll : List Expr → List Expr
  | [] => []
  | e :: rest => e.aggregated ++ aggregatedAll rest

end

namespace Expr

def IsPlain (e : Expr) : Prop := e.aggregated = []

def IsAggregate (e : Expr) : Prop := ∃ aggregation arg, e = .aggregate aggregation arg

/-- No aggregate is inside another. -/
def IsFlat (e : Expr) : Prop := ∀ arg ∈ e.aggregated, arg.IsPlain

theorem IsPlain.isFlat {e : Expr} (h : e.IsPlain) : e.IsFlat := by
  intro arg harg
  rw [show e.aggregated = [] from h] at harg
  exact absurd harg List.not_mem_nil

theorem isFlat_aggregate (aggregation : Aggregation) {arg : Expr} (h : arg.IsPlain) :
    (Expr.aggregate aggregation arg).IsFlat := by
  rw [IsFlat, aggregated, show arg.aggregated = [] from h]
  exact List.forall_mem_singleton.2 h

theorem IsPlain.binary {left right : Expr} (op : Operator) (hl : left.IsPlain)
    (hr : right.IsPlain) : (Expr.binary op left right).IsPlain := by
  rw [IsPlain, aggregated, show left.aggregated = [] from hl, show right.aggregated = [] from hr,
    List.append_nil]

/-- A column is compared with an expression as it is written. -/
theorem column_beq_iff {e : Expr} {table? : Option String} {name : String} :
    (.column table? name == e) = true ↔ e = .column table? name := by
  cases e with
  | column table?' name' =>
    show (table? == table?' && name == name') = true ↔ _
    rw [Bool.and_eq_true, beq_iff_eq, beq_iff_eq, Expr.column.injEq, eq_comm (a := table?),
      eq_comm (a := name)]
  | _ => exact iff_of_false (fun h => nomatch h) (fun h => nomatch h)

end Expr

/-- The rule for grouped queries, for queries that may select one constant. -/
structure Select.Grouped (q : Select) (constant : SelectItem) : Prop where
  items : ∀ item ∈ q.items, item.expr.IsAggregate ∨ item = constant ∨ item.expr ∈ q.groupBy
  /-- Nothing is grouped by that is not selected. -/
  groups : ∀ e ∈ q.groupBy, ∃ item ∈ q.items, item.expr = e
  flat : ∀ e ∈ q.exprs, e.IsFlat
  plain : ∀ e ∈ q.joins.flatMap (·.conditions) ++ q.condition.toList ++ q.groupBy, e.IsPlain
  order : ∀ o ∈ q.orderBy,
    (∃ item ∈ q.items, ∃ name, item.alias? = some name ∧ o.expr = .aliased name) ∨
      o.expr ∈ q.groupBy ∨ o.expr.IsAggregate

end Sql

/-! ## Columns, joins and filters -/

namespace Scope

variable {s : Scope} {c : Resolved}

theorem expr_of_resolve {raw : String} (h : s.resolve raw = .ok c) :
    ∃ table? name, c.expr = .column table? name := by
  obtain ⟨ref, _, href⟩ := bind_eq_ok.1 h
  exact expr_of_resolveRef href

theorem isPlain_of_resolve {raw : String} (h : s.resolve raw = .ok c) : c.expr.IsPlain := by
  obtain ⟨table?, name, hexpr⟩ := expr_of_resolve h
  rw [hexpr]
  rfl

theorem isPlain_of_resolveOn {table raw : String} (h : s.resolveOn table raw = .ok c) :
    c.expr.IsPlain := by
  obtain ⟨ref, _, href⟩ := bind_eq_ok.1 h
  obtain ⟨table?, name, hexpr⟩ := expr_of_resolveRef href
  rw [hexpr]
  rfl

end Scope

namespace JoinPlan

theorem isPlain_of_conditions {plan : JoinPlan} {join : Requested.Join} {table : String}
    {es : List Expr} (h : plan.conditions join table = .ok es) : ∀ e ∈ es, e.IsPlain := by
  unfold conditions at h
  split at h
  · cases h
    exact fun e he => absurd he List.not_mem_nil
  · simp only [bind_eq_ok, pure_eq_ok] at h
    obtain ⟨left, hleft, right, hright, rfl⟩ := h
    exact List.forall_mem_singleton.2
      (.binary _ (Scope.isPlain_of_resolve hleft) (Scope.isPlain_of_resolveOn hright))
  · split at h
    · cases h
    · split at h
      · cases h
      · cases h
        exact List.forall_mem_singleton.2 rfl

theorem isPlain_of_ofRequested {scope : Scope} {joins : List Requested.Join} {plan : JoinPlan}
    (h : ofRequested scope joins = .ok plan) :
    ∀ e ∈ plan.clauses.flatMap (·.conditions), e.IsPlain := by
  refine foldlM_invariant (fun plan => ∀ e ∈ plan.clauses.flatMap (·.conditions), e.IsPlain)
    (fun plan next join _ hplan hnext => ?_) (fun e he => absurd he List.not_mem_nil) h
  obtain ⟨_, conditions, hconditions, rfl⟩ := add_eq_ok_iff.1 hnext
  rw [List.flatMap_append, List.flatMap_singleton]
  exact List.forall_mem_append.2 ⟨hplan, isPlain_of_conditions hconditions⟩

end JoinPlan

section

variable {scope : Scope}

theorem Filter.isPlain_of_clause {f : Filter} {bound : Nat} {e : Expr} {values : List String}
    (h : f.clause scope bound = .ok (e, values)) : e.IsPlain := by
  obtain ⟨c, hc, h⟩ := bind_eq_ok.1 h
  have hcolumn : c.expr.aggregated = [] := Scope.isPlain_of_resolve hc
  split at h
  · simp only [bind_eq_ok, mapError_eq_ok, pure_eq_ok] at h
    obtain ⟨⟨low, high⟩, _, hclause⟩ := h
    obtain ⟨rfl, rfl⟩ := Prod.mk.inj hclause
    simp [Expr.IsPlain, Expr.aggregated, hcolumn]
  · split at h
    · obtain ⟨rfl, rfl⟩ := Prod.mk.inj (pure_eq_ok.1 h)
      split
      · simp [Expr.IsPlain, Expr.aggregated, hcolumn]
      · simp [Expr.IsPlain, Expr.aggregated, hcolumn]
    · cases h

theorem Predicate.isPlain_of_ofFilters {filters : List Filter} {p : Predicate}
    (h : ofFilters scope filters = .ok p) : ∀ e ∈ p.expr.toList, e.IsPlain := by
  refine foldlM_invariant (fun p : Predicate => ∀ e ∈ p.expr.toList, e.IsPlain)
    (fun p next f _ hp hnext => ?_) (fun _ he => absurd he List.not_mem_nil) h
  unfold add at hnext
  split at hnext
  · exact pure_eq_ok.1 hnext ▸ hp
  · simp only [bind_eq_ok, pure_eq_ok] at hnext
    obtain ⟨⟨clause, values⟩, hclause, rfl⟩ := hnext
    have hnew := Filter.isPlain_of_clause hclause
    refine List.forall_mem_singleton.2 ?_
    cases hexpr : p.expr with
    | none => exact hnew
    | some before => exact .binary _ (hp before (hexpr ▸ List.mem_singleton_self _)) hnew

/-! ## Metrics -/

theorem Metric.aggregate_of_expr {m : Metric} {e : Expr} (h : m.expr scope = .ok e) :
    e.IsAggregate ∧ e.IsFlat := by
  unfold expr at h
  split at h
  · split at h
    · cases h
      exact ⟨⟨_, _, rfl⟩, Expr.isFlat_aggregate _ rfl⟩
    · cases h
  · simp only [bind_eq_ok, pure_eq_ok] at h
    obtain ⟨c, hc, rfl⟩ := h
    exact ⟨⟨_, _, rfl⟩, Expr.isFlat_aggregate _ (Scope.isPlain_of_resolve hc)⟩

theorem Metric.aggregate_of_select {m : Metric} {item : SelectItem}
    (h : m.select scope = .ok item) : item.expr.IsAggregate ∧ item.expr.IsFlat := by
  simp only [select, bind_eq_ok, pure_eq_ok] at h
  obtain ⟨e, he, rfl⟩ := h
  exact aggregate_of_expr he

end

/-! ## Periods -/

/-- A bucket selects what it groups by, under names of its own, and is ordered by one of them. -/
structure Bucket.IsGrouped (b : Bucket) : Prop where
  selected : ∀ item ∈ b.select, item.expr ∈ b.groupBy
  grouped : ∀ e ∈ b.groupBy, ∃ item ∈ b.select, item.expr = e
  plain : ∀ e ∈ b.groupBy, e.IsPlain
  order : ∃ item ∈ b.select, ∃ name, item.alias? = some name ∧ b.orderBy.expr = .aliased name

theorem Bucket.isGrouped_of (grain : Sql.Grain) (display : DisplayFormat) {date : Expr}
    (h : date.IsPlain) : (Bucket.of grain display date).IsGrouped := by
  have hdate : date.aggregated = [] := h
  have hstart : (start grain date).aggregated = [] := by
    simp [start, Expr.aggregated, Sql.aggregatedAll, hdate]
  have hlabel : (label grain display date).aggregated = [] := by
    unfold label
    cases isPadded grain with
    | true => simp [Expr.aggregated, Sql.aggregatedAll, hstart]
    | false => simp [Expr.aggregated, Sql.aggregatedAll, hstart]
  refine ⟨?_, ?_, ?_, ?_⟩
  · simp [Bucket.of]
  · simp [Bucket.of]
  · exact List.forall_mem_cons.2 ⟨hstart, List.forall_mem_singleton.2 hlabel⟩
  · exact ⟨⟨start grain date, some (startAlias grain)⟩, by simp [Bucket.of], _, rfl, rfl⟩

namespace Request

variable {r : Request} {scope : Scope}

/-- The unit into which the dates of a request are gathered. -/
def grain? (r : Request) : Option Sql.Grain := r.date?.bind fun _ => r.granularity.grain?

/-- The column whose dates are gathered. -/
def gathered? (r : Request) (scope : Scope) : Except Error (Option Resolved) :=
  match r.granularity.grain?, r.date? with
  | some _, some column => (scope.resolveOn scope.root column).map some
  | _, _ => .ok none

/-- Either there are no periods, or they are those of the grain and the date column. -/
theorem periods_of_bucket? {dated : Option (Resolved × Bucket)} (h : r.bucket? scope = .ok dated) :
    r.gathered? scope = .ok (dated.map (·.1)) ∧
      (dated = none ∧ r.grain? = none ∨ ∃ grain date, r.grain? = some grain ∧
        date.expr.IsPlain ∧ dated = some (date, Bucket.of grain r.display date.expr)) := by
  unfold bucket? at h
  unfold gathered? grain?
  cases hgrain : r.granularity.grain? with
  | none =>
    rw [hgrain] at h
    cases h
    refine ⟨rfl, .inl ⟨rfl, ?_⟩⟩
    cases r.date? with
    | none => rfl
    | some column => rfl
  | some grain =>
    cases hdate : r.date? with
    | none =>
      rw [hgrain, hdate] at h
      cases h
      exact ⟨rfl, .inl ⟨rfl, rfl⟩⟩
    | some column =>
      rw [hgrain, hdate] at h
      simp only [bind_eq_ok, pure_eq_ok] at h
      obtain ⟨date, hresolve, rfl⟩ := h
      refine ⟨?_, .inr ⟨grain, date, rfl, Scope.isPlain_of_resolveOn hresolve, rfl⟩⟩
      show (scope.resolveOn scope.root column).map some = _
      rw [hresolve]
      rfl

/-! ## Dimensions -/

/-- Columns in order, without those that are written like one before. -/
def distinct : List Resolved → List Resolved
  | [] => []
  | c :: rest => c :: (distinct rest).filter fun d => !(c.expr == d.expr)

/-- The dimensions that remain: those that are not the gathered dates, each the first time it is
written so. -/
def remaining (r : Request) (scope : Scope) (date : Option Resolved) :
    Except Error (List Resolved) := do
  let columns ← r.dimensions.mapM scope.resolve
  return distinct (columns.filter fun c => !date.any c.sameColumn)

/-- Adding dimensions one by one keeps those that remain and are not there yet. -/
theorem distinct_of_dimensions {date : Option Resolved} {raws : List String}
    {dims dims' : List Resolved} (h : raws.foldlM (addDimension scope date) dims = .ok dims') :
    ∃ columns, raws.mapM scope.resolve = .ok columns ∧ dims' = dims ++
      (distinct (columns.filter fun c => !date.any c.sameColumn)).filter fun d =>
        !dims.any (·.expr == d.expr) := by
  induction raws generalizing dims with
  | nil =>
    rw [List.foldlM_nil, pure_eq_ok] at h
    exact ⟨[], rfl, h ▸ (List.append_nil dims).symm⟩
  | cons raw rest ih =>
    rw [List.foldlM_cons, bind_eq_ok] at h
    obtain ⟨next, hnext, hrest⟩ := h
    obtain ⟨columns, hcolumns, rfl⟩ := ih hrest
    obtain ⟨c, hc, hnext⟩ := bind_eq_ok.1 hnext
    obtain ⟨table?, name, hexpr⟩ := Scope.expr_of_resolve hc
    refine ⟨c :: columns, ?_, ?_⟩
    · simp only [List.mapM_cons, bind_eq_ok, pure_eq_ok]
      exact ⟨c, hc, columns, hcolumns, rfl⟩
    · by_cases hdate : date.any c.sameColumn = true
      · rw [hdate, Bool.true_or, if_pos rfl, pure_eq_ok] at hnext
        rw [← hnext, List.filter_cons_of_neg (by simp [hdate])]
      · rw [List.filter_cons_of_pos (by simp [hdate]), distinct]
        rw [Bool.not_eq_true] at hdate
        rw [hdate, Bool.false_or] at hnext
        by_cases hthere : dims.any (·.expr == c.expr) = true
        · rw [if_pos hthere, pure_eq_ok] at hnext
          rw [← hnext, List.filter_cons_of_neg (by simp [hthere]), List.filter_filter]
          -- What is written like `c` is also written like a dimension that is there.
          refine congrArg _ (List.filter_congr fun d _ => ?_)
          cases hsame : c.expr == d.expr with
          | false => simp
          | true =>
            have heq : d.expr = c.expr := by
              rw [hexpr, Expr.column_beq_iff] at hsame
              rw [hsame, hexpr]
            simp [heq, hthere]
        · rw [if_neg hthere, pure_eq_ok] at hnext
          rw [← hnext, List.filter_cons_of_pos (by simpa using hthere), List.filter_filter,
            List.append_assoc, List.singleton_append]
          refine congrArg (fun l => dims ++ c :: l) (List.filter_congr fun d _ => ?_)
          simp [Bool.and_comm]

theorem remaining_of_dimensions {date : Option Resolved} {dims : List Resolved}
    (h : r.dimensions.foldlM (addDimension scope date) [] = .ok dims) :
    r.remaining scope date = .ok dims := by
  obtain ⟨columns, hcolumns, rfl⟩ := distinct_of_dimensions h
  rw [remaining, bind_eq_ok]
  refine ⟨columns, hcolumns, pure_eq_ok.2 ?_⟩
  rw [List.nil_append]
  exact (List.filter_eq_self.2 fun d _ => rfl).symm

/-! ## Order and limit -/

/-- A ranking is by an alias that is selected, or by an aggregate of its own. -/
theorem order_of_rankedOrder {selected : List SelectItem} {order orderBy : List OrderItem}
    {limit : Option Nat} (h : r.rankedOrder scope selected order = .ok (orderBy, limit)) :
    (∀ n, limit = some n ↔ r.top = some n ∧ r.metrics ≠ []) ∧
    (r.top = none ∨ r.metrics = [] → orderBy = order) ∧
    (orderBy = order ∨ ∃ o, orderBy = [o] ∧ ((∃ item ∈ selected, ∃ name,
      item.alias? = some name ∧ o.expr = .aliased name) ∨ o.expr.IsAggregate ∧ o.expr.IsFlat)) := by
  unfold rankedOrder at h
  cases htop : r.top with
  | none =>
    simp only [htop, Except.ok.injEq, Prod.mk.injEq] at h
    obtain ⟨rfl, rfl⟩ := h
    exact ⟨by simp, fun _ => rfl, .inl rfl⟩
  | some n =>
    cases hmetrics : r.metrics with
    | nil =>
      simp only [htop, hmetrics, Except.ok.injEq, Prod.mk.injEq] at h
      obtain ⟨rfl, rfl⟩ := h
      exact ⟨by simp, fun _ => rfl, .inl rfl⟩
    | cons first rest =>
      simp only [htop, hmetrics, bind_eq_ok, pure_eq_ok, Prod.mk.injEq] at h
      obtain ⟨o, ho, rfl, rfl⟩ := h
      refine ⟨by simp, by simp, .inr ⟨o, rfl, ?_⟩⟩
      unfold rankingOrder at ho
      split at ho
      · rename_i hselected
        obtain ⟨item, hitem, halias⟩ := List.any_eq_true.1 hselected
        exact .inl ⟨item, hitem, _, by simpa using halias, by rw [← pure_eq_ok.1 ho]⟩
      · simp only [bind_eq_ok, pure_eq_ok] at ho
        obtain ⟨e, he, rfl⟩ := ho
        exact .inr (Metric.aggregate_of_expr he)

/-! ## Statements -/

/-- The items of periods and dimensions are selected. -/
theorem Stages.mem_items (st : Stages) :
    (∀ b ∈ st.bucket, ∀ item ∈ b.select, item ∈ st.items) ∧
      ∀ d ∈ st.dims, (⟨d.expr, none⟩ : SelectItem) ∈ st.items := by
  obtain hitems | ⟨_, hempty⟩ := selectItems_cases st.bucket st.dims st.metrics
  · rw [items, hitems]
    refine ⟨fun b hb item hitem => ?_, fun d hd => ?_⟩
    · obtain hb : st.bucket = some b := hb
      rw [hb]
      exact List.mem_append_left _ (List.mem_append_left _ hitem)
    · exact List.mem_append_left _ (List.mem_append_right _ (List.mem_map.2 ⟨d, hd, rfl⟩))
  · simp only [List.append_eq_nil_iff, List.map_eq_nil_iff] at hempty
    refine ⟨fun b hb item hitem => ?_, fun d hd => ?_⟩
    · obtain hb : st.bucket = some b := hb
      have hnone : b.select = [] := by simpa [hb] using hempty.1.1
      exact absurd (hnone ▸ hitem) List.not_mem_nil
    · exact absurd (hempty.1.2 ▸ hd) List.not_mem_nil

namespace Stages.Of

variable {snapshot? : Option Snapshot} {st : Stages}

theorem isGrouped_bucket (h : st.Of r snapshot?) : ∀ b ∈ st.bucket, b.IsGrouped := by
  intro b hb
  rw [bucket] at hb
  obtain ⟨_, ⟨hnone, _⟩ | ⟨grain, date, _, hplain, hsome⟩⟩ := periods_of_bucket? h.dated
  · rw [hnone] at hb
    exact absurd hb (Option.not_mem_none b)
  · rw [hsome] at hb
    obtain rfl : Bucket.of _ _ date.expr = b := by simpa using hb
    exact Bucket.isGrouped_of grain r.display hplain

theorem aggregate_of_metrics (h : st.Of r snapshot?) :
    ∀ item ∈ st.metrics, item.expr.IsAggregate ∧ item.expr.IsFlat :=
  forall_of_mapM (fun _ _ _ hm => Metric.aggregate_of_select hm) h.metrics

theorem isPlain_groupBy (h : st.Of r snapshot?) : ∀ e ∈ st.groupBy, e.IsPlain := by
  refine List.forall_mem_append.2 ⟨?_, List.forall_mem_map.2 fun d hd => ?_⟩
  · cases hb : st.bucket with
    | none => exact fun e he => absurd he List.not_mem_nil
    | some b => exact (h.isGrouped_bucket b hb).plain
  · obtain ⟨table?, name, hexpr⟩ := (exprs_of_dimensions h.dims).1 d hd
    rw [hexpr]
    rfl

/-- An item is the stand-in, a metric, or an entry of GROUP BY. -/
theorem item_cases (h : st.Of r snapshot?) : ∀ item ∈ st.items,
    item = standIn ∨ item ∈ st.metrics ∨ item.expr ∈ st.groupBy := by
  intro item hitem
  obtain hitems | ⟨hitems, _⟩ := selectItems_cases st.bucket st.dims st.metrics
  · rw [items, hitems, List.mem_append, List.mem_append] at hitem
    obtain (hperiod | hdim) | hmetric := hitem
    · refine .inr (.inr (List.mem_append_left _ ?_))
      cases hb : st.bucket with
      | none => simp [hb] at hperiod
      | some b =>
        rw [hb] at hperiod
        exact (h.isGrouped_bucket b hb).selected item hperiod
    · obtain ⟨d, hd, rfl⟩ := List.mem_map.1 hdim
      exact .inr (.inr (List.mem_append_right _ (List.mem_map_of_mem hd)))
    · exact .inr (.inl hmetric)
  · rw [items, hitems] at hitem
    exact .inl (List.mem_singleton.1 hitem)

/-- Rows are ordered by an alias that is selected, an entry of GROUP BY, or an aggregate. -/
theorem order_cases (h : st.Of r snapshot?) : ∀ o ∈ st.orderBy,
    (∃ item ∈ st.items, ∃ name, item.alias? = some name ∧ o.expr = .aliased name) ∨
      o.expr ∈ st.groupBy ∨ o.expr.IsAggregate ∧ o.expr.IsFlat := by
  obtain ⟨_, _, hplain | ⟨o, hone, ho⟩⟩ := order_of_rankedOrder h.order
  · rw [hplain]
    unfold plainOrder
    cases hb : st.bucket with
    | some b =>
      obtain ⟨item, hitem, name, hname, hexpr⟩ := (h.isGrouped_bucket b hb).order
      exact List.forall_mem_singleton.2
        (.inl ⟨item, st.mem_items.1 b hb item hitem, name, hname, hexpr⟩)
    | none =>
      cases hd : st.dims with
      | nil => exact fun o ho => absurd ho List.not_mem_nil
      | cons d rest =>
        refine List.forall_mem_singleton.2 (.inr (.inl ?_))
        exact List.mem_append_right _ (List.mem_map_of_mem (hd ▸ List.mem_cons_self))
  · rw [hone]
    exact List.forall_mem_singleton.2 (ho.imp_right .inr)

theorem exists_item_of_groupBy (h : st.Of r snapshot?) :
    ∀ e ∈ st.groupBy, ∃ item ∈ st.items, item.expr = e := by
  intro e he
  obtain hperiod | hdim := List.mem_append.1 he
  · cases hb : st.bucket with
    | none => simp [hb] at hperiod
    | some b =>
      rw [hb] at hperiod
      obtain ⟨item, hitem, hexpr⟩ := (h.isGrouped_bucket b hb).grouped e hperiod
      exact ⟨item, st.mem_items.1 b hb item hitem, hexpr⟩
  · obtain ⟨d, hd, rfl⟩ := List.mem_map.1 hdim
    exact ⟨_, st.mem_items.2 d hd, rfl⟩

theorem isFlat_items (h : st.Of r snapshot?) : ∀ item ∈ st.items, item.expr.IsFlat := by
  intro item hitem
  obtain rfl | hmetric | hgroup := h.item_cases item hitem
  · exact Expr.IsPlain.isFlat rfl
  · exact (h.aggregate_of_metrics item hmetric).2
  · exact (h.isPlain_groupBy _ hgroup).isFlat

theorem isFlat_orderBy (h : st.Of r snapshot?) : ∀ o ∈ st.orderBy, o.expr.IsFlat := by
  intro o ho
  obtain ⟨_, _, name, _, hexpr⟩ | hgroup | haggregate := h.order_cases o ho
  · rw [hexpr]
    exact Expr.IsPlain.isFlat rfl
  · exact (h.isPlain_groupBy _ hgroup).isFlat
  · exact haggregate.2

theorem grouped (h : st.Of r snapshot?) : (st.statement r).query.Grouped standIn := by
  have hgroupBy := h.isPlain_groupBy
  have hjoins := JoinPlan.isPlain_of_ofRequested h.plan
  have hcondition := Predicate.isPlain_of_ofFilters h.predicate
  refine ⟨fun item hitem => ?_, h.exists_item_of_groupBy, ?_, ?_, fun o ho => ?_⟩
  · obtain hstand | hmetric | hgroup := h.item_cases item hitem
    · exact .inr (.inl hstand)
    · exact .inl (h.aggregate_of_metrics item hmetric).1
    · exact .inr (.inr hgroup)
  · simp only [Select.exprs, Stages.statement, List.forall_mem_append, List.forall_mem_map]
    exact ⟨⟨⟨⟨h.isFlat_items, fun e he => (hjoins e he).isFlat⟩,
      fun e he => (hcondition e he).isFlat⟩, fun e he => (hgroupBy e he).isFlat⟩, h.isFlat_orderBy⟩
  · exact List.forall_mem_append.2 ⟨List.forall_mem_append.2 ⟨hjoins, hcondition⟩, hgroupBy⟩
  · exact (h.order_cases o ho).imp_right (.imp_right (·.1))

/-- The stand-in is selected exactly where there is nothing else. -/
theorem standIn_mem_items_iff (h : st.Of r snapshot?) :
    standIn ∈ st.items ↔ st.bucket = none ∧ st.dims = [] ∧ st.metrics = [] := by
  constructor
  · intro hmem
    obtain hitems | ⟨_, hempty⟩ := selectItems_cases st.bucket st.dims st.metrics
    · -- Periods have other names, dimensions have none, and metrics are aggregates.
      rw [items, hitems, List.mem_append, List.mem_append] at hmem
      obtain (hperiod | hdim) | hmetric := hmem
      · rw [bucket] at hperiod
        obtain ⟨_, ⟨hnone, _⟩ | ⟨grain, date, _, _, hsome⟩⟩ := periods_of_bucket? h.dated
        · simp [hnone] at hperiod
        · rw [hsome] at hperiod
          revert hperiod
          cases grain <;> simp [Bucket.of, standIn, Bucket.labelAlias, Bucket.startAlias]
      · obtain ⟨d, _, hd⟩ := List.mem_map.1 hdim
        cases congrArg SelectItem.alias? hd
      · obtain ⟨⟨_, _, hexpr⟩, _⟩ := h.aggregate_of_metrics _ hmetric
        cases hexpr
    · simp only [List.append_eq_nil_iff, List.map_eq_nil_iff] at hempty
      refine ⟨?_, hempty.1.2, hempty.2⟩
      cases hb : st.bucket with
      | none => rfl
      | some b =>
        obtain ⟨item, hitem, _⟩ := (h.isGrouped_bucket b hb).order
        have hnone : b.select = [] := by simpa [hb] using hempty.1.1
        exact absurd (hnone ▸ hitem) List.not_mem_nil
  · rintro ⟨hbucket, hdims, hmetrics⟩
    rw [items, hbucket, hdims, hmetrics]
    exact List.mem_singleton_self _

end Stages.Of

/-- The order of a request in which nothing is ranked. -/
def unrankedOrder (r : Request) (dims : List Resolved) : List OrderItem :=
  match r.grain? with
  | some grain => [⟨.aliased (Bucket.startAlias grain), .asc⟩]
  | none => (dims.head?.map fun d => ⟨d.expr, .asc⟩).toList

/-- Every statement obeys the rule for grouped queries.  The constant is selected exactly if there
are no periods, no dimension that remains and no metric; rows are limited exactly if a number of
them and a metric are asked for; and where nothing is ranked the order is by the start of the
periods, or else by the first dimension that remains. -/
theorem grouped_of_compile {snapshot? : Option Snapshot} {s : Statement}
    (h : r.compile snapshot? = .ok s) :
    s.query.Grouped standIn ∧ ∃ date dims,
      r.gathered? (r.scope snapshot?) = .ok date ∧ date.isSome = r.grain?.isSome ∧
      r.remaining (r.scope snapshot?) date = .ok dims ∧
      (standIn ∈ s.query.items ↔ r.grain? = none ∧ dims = [] ∧ r.metrics = []) ∧
      (∀ n, s.query.limit = some n ↔ r.top = some n ∧ r.metrics ≠ []) ∧
      (r.top = none ∨ r.metrics = [] → s.query.orderBy = r.unrankedOrder dims) := by
  obtain ⟨st, hst, rfl⟩ := compile_eq_ok_iff.1 h
  rw [← hst.scope_eq]
  obtain ⟨hdate, hperiods⟩ := periods_of_bucket? hst.dated
  obtain ⟨hlimit, horder, _⟩ := order_of_rankedOrder hst.order
  have hmetrics : st.metrics = [] ↔ r.metrics = [] := by
    rw [← List.length_eq_zero_iff, length_of_mapM hst.metrics, List.length_eq_zero_iff]
  have hbucket : st.bucket = none ↔ r.grain? = none := by
    obtain ⟨hnone, hgrain⟩ | ⟨grain, date, hgrain, _, hsome⟩ := hperiods
    · simp [Stages.bucket, hnone, hgrain]
    · simp [Stages.bucket, hsome, hgrain]
  have hplain : plainOrder st.bucket st.dims = r.unrankedOrder st.dims := by
    obtain ⟨hnone, hgrain⟩ | ⟨grain, date, hgrain, _, hsome⟩ := hperiods
    · rw [Stages.bucket, hnone, unrankedOrder, hgrain]
      rfl
    · rw [Stages.bucket, hsome, unrankedOrder, hgrain]
      rfl
  rw [hplain] at horder
  have hremaining := remaining_of_dimensions hst.dims
  refine ⟨hst.grouped, st.dated.map (·.1), st.dims, hdate, ?_, hremaining, ?_, hlimit, horder⟩
  · obtain ⟨hnone, hgrain⟩ | ⟨grain, date, hgrain, _, hsome⟩ := hperiods
    · rw [hnone, hgrain]
      rfl
    · rw [hsome, hgrain]
      rfl
  · rw [← hbucket, ← hmetrics]
    exact hst.standIn_mem_items_iff

/-- Orders by month, without the day itself but with a customer who is named twice. -/
def ordersByMonth : Request where
  table := "orders"
  dimensions := ["ordered_on", "customer_id", "CUSTOMER_ID", "orders.customer_id"]
  metrics := [⟨"id", .count, false⟩]
  granularity := .monthly
  dateColumn := some "ordered_on"

theorem grouped_of_ordersByMonth :
    ∃ st, ordersByMonth.compile none = .ok st ∧ st.query.Grouped standIn ∧
      standIn ∉ st.query.items ∧ st.query.limit = none ∧
      st.query.orderBy = [⟨.aliased "month_start", .asc⟩] ∧ st.query.groupBy.length = 4 := by
  have hcount : (ordersByMonth.compile none).toOption.map (·.query.groupBy.length) = some 4 := by
    decide +kernel
  obtain ⟨st, hst, hgroups⟩ := Option.map_eq_some_iff.1 hcount
  have hok := toOption_eq_some.1 hst
  obtain ⟨hgrouped, date, dims, _, _, _, hstand, hlimit, horder⟩ := grouped_of_compile hok
  refine ⟨st, hok, hgrouped, ?_, ?_, horder (.inl rfl), hgroups⟩
  · rw [hstand]
    exact fun hempty => List.cons_ne_nil _ _ hempty.2.2
  · cases hsome : st.query.limit with
    | none => rfl
    | some n => exact absurd ((hlimit n).1 hsome).1 (Option.some_ne_none n).symm

end Request
end Granary
