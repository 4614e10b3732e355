import Granary.Proofs.Compile.Requirement

/-!
# What ranks the rows

Where only so many of the highest ranking rows are wanted, a statement is ordered by one aggregate.
If a selected metric has the name of the ranking one, the order refers to it by that name, and else
it repeats the aggregate.

The name of a metric does not tell all metrics apart: its column loses characters and points, and an
aggregation may look like the beginning of a column.  `ranked_of_compile` says when the order stands
for the aggregate of the ranking metric all the same.
-/

namespace Granary

open Outcome
open Sql (Expr OrderItem Select SelectItem)

/-- What an order is by stands for an aggregate: it is the aggregate, or a name that is given to
nothing else in the select list. -/
def Sql.Select.StandsFor (q : Select) (e aggregate : Expr) : Prop :=
  e = aggregate ∨ ∃ name, e = .aliased name ∧
    ∀ item ∈ q.items, item.alias? = some name → item.expr = aggregate

theorem Metric.isAggregate_of_expr {m : Metric} {scope : Scope} {e : Expr}
    (h : m.expr scope = .ok e) : ∃ arg, e = .aggregate m.aggregation arg := by
  unfold expr at h
  split at h
  · split at h
    · cases h
      exact ⟨_, rfl⟩
    · cases h
  · simp only [bind_eq_ok, pure_eq_ok] at h
    obtain ⟨c, _, rfl⟩ := h
    exact ⟨_, rfl⟩

namespace Request

variable {r : Request} {snapshot? : Option Snapshot}

/-- The metric that ranks the rows: the one named for it, or else the first. -/
def rankedBy? (r : Request) : Option Metric := r.ranking.or r.metrics.head?

namespace Stages.Of

variable {st : Stages}

/-- Only metrics are named like metrics. -/
theorem mem_items_named_iff (h : st.Of r snapshot?) (hsome : r.metrics ≠ []) {m : Metric}
    {item : SelectItem} :
    item ∈ st.items ∧ item.alias? = some m.aliasName ↔
      ∃ selected ∈ r.metrics, selected.aliasName = m.aliasName ∧
        selected.select st.scope = .ok item := by
  have hmetrics : ∀ item, item ∈ st.metrics ↔
      ∃ selected ∈ r.metrics, selected.select st.scope = .ok item := fun item =>
    mem_of_mapM h.metrics
  have hname : ∀ (selected : Metric) (item : SelectItem), selected.select st.scope = .ok item →
      item.alias? = some selected.aliasName := by
    intro selected item hitem
    simp only [Metric.select, bind_eq_ok, pure_eq_ok] at hitem
    obtain ⟨e, _, rfl⟩ := hitem
    rfl
  have hitems : st.items = (st.bucket.map (·.select)).getD [] ++
      st.dims.map (fun d => ⟨d.expr, none⟩) ++ st.metrics := by
    obtain hitems | ⟨_, hempty⟩ := selectItems_cases st.bucket st.dims st.metrics
    · exact hitems
    · obtain ⟨_, hnone⟩ := List.append_eq_nil_iff.1 hempty
      have hlength := length_of_mapM h.metrics
      rw [hnone, List.length_nil] at hlength
      exact absurd (List.length_eq_zero_iff.1 hlength.symm) hsome
  constructor
  · rintro ⟨hmem, halias⟩
    rw [hitems, List.mem_append, List.mem_append] at hmem
    obtain (hperiod | hdim) | hmetric := hmem
    · have hperiods := alias?_of_bucket? h.dated
      have hin : some m.aliasName ∈ r.periodNames.map some := by
        rw [← hperiods, ← halias]
        exact List.mem_map_of_mem hperiod
      obtain ⟨name, hin, hsame⟩ := List.mem_map.1 hin
      exact absurd (Option.some.inj hsame ▸ hin) (r.aliasName_not_mem_periodNames m)
    · obtain ⟨d, _, rfl⟩ := List.mem_map.1 hdim
      cases halias
    · obtain ⟨selected, hselected, hitem⟩ := (hmetrics item).1 hmetric
      rw [hname selected item hitem] at halias
      exact ⟨selected, hselected, Option.some.inj halias, hitem⟩
  · rintro ⟨selected, hselected, hsame, hitem⟩
    refine ⟨?_, by rw [hname selected item hitem, hsame]⟩
    rw [hitems]
    exact List.mem_append_right _ ((hmetrics item).2 ⟨selected, hselected, hitem⟩)

/-- The order of a ranked statement is by the name of the ranking metric if a selected one has it,
and by its aggregate otherwise. -/
theorem ranked (h : st.Of r snapshot?) {n : Nat} {m : Metric} (htop : r.top = some n)
    (hsome : r.metrics ≠ []) (hranking : r.rankedBy? = some m) :
    st.limit = some n ∧ ∃ e, st.orderBy = [⟨e, .desc⟩] ∧
      if m.aliasName ∈ r.metrics.map (·.aliasName) then e = .aliased m.aliasName
      else m.expr st.scope = .ok e := by
  obtain ⟨first, rest, hlist⟩ := List.exists_cons_of_ne_nil hsome
  have hm : r.ranking.getD first = m := by
    rw [rankedBy?, hlist, List.head?_cons] at hranking
    cases hnamed : r.ranking with
    | none => simpa [hnamed] using hranking
    | some named => simpa [hnamed] using hranking
  have horder := h.order
  rw [rankedOrder, htop, hlist] at horder
  simp only [hm, bind_eq_ok, pure_eq_ok, Prod.mk.injEq] at horder
  obtain ⟨o, ho, horder, hlimit⟩ := horder
  have hnamed := any_alias?_items h.dated h.metrics st.dims hsome m
  refine ⟨hlimit.symm, o.expr, ?_⟩
  rw [rankingOrder] at ho
  split at ho
  · rename_i hselected
    rw [if_pos (hnamed.1 hselected)]
    cases pure_eq_ok.1 ho
    exact ⟨horder.symm, rfl⟩
  · rename_i hselected
    rw [if_neg (mt hnamed.2 hselected)]
    simp only [bind_eq_ok, pure_eq_ok] at ho
    obtain ⟨e, he, rfl⟩ := ho
    exact ⟨horder.symm, he⟩

/-- What a ranked statement is ordered by stands for the aggregate of the ranking metric exactly if
every selected metric of the same name has the same aggregate. -/
theorem standsFor_iff (h : st.Of r snapshot?) (hsome : r.metrics ≠ []) {m : Metric} {e : Expr}
    (he : if m.aliasName ∈ r.metrics.map (·.aliasName) then e = .aliased m.aliasName
      else m.expr st.scope = .ok e) :
    (∃ aggregate, m.expr st.scope = .ok aggregate ∧
        (st.statement r).query.StandsFor e aggregate) ↔
      ∀ selected ∈ r.metrics, selected.aliasName = m.aliasName →
        selected.expr st.scope = m.expr st.scope := by
  have hitem : ∀ item : SelectItem, item ∈ st.items ∧ item.alias? = some m.aliasName ↔
      ∃ selected ∈ r.metrics, selected.aliasName = m.aliasName ∧
        selected.select st.scope = .ok item := fun item =>
    h.mem_items_named_iff hsome
  have hexpr : ∀ selected ∈ r.metrics, ∃ aggregate, selected.expr st.scope = .ok aggregate ∧
      selected.select st.scope = .ok ⟨aggregate, some selected.aliasName⟩ := by
    intro selected hselected
    obtain ⟨item, hselect⟩ := exists_of_mapM h.metrics selected hselected
    simp only [Metric.select, bind_eq_ok, pure_eq_ok] at hselect
    obtain ⟨aggregate, haggregate, _⟩ := hselect
    exact ⟨aggregate, haggregate, by rw [Metric.select, haggregate]; rfl⟩
  by_cases hnamed : m.aliasName ∈ r.metrics.map (·.aliasName)
  · rw [if_pos hnamed] at he
    obtain ⟨chosen, hchosen, hname⟩ := List.mem_map.1 hnamed
    constructor
    · rintro ⟨aggregate, haggregate, hstands⟩ selected hselected hsame
      obtain rfl | ⟨name, halias, hall⟩ := hstands
      · -- An aggregate is no name.
        obtain ⟨arg, harg⟩ := Metric.isAggregate_of_expr haggregate
        rw [he] at harg
        cases harg
      · obtain rfl : m.aliasName = name := by
          rw [he] at halias
          exact Expr.aliased.inj halias
        obtain ⟨other, hother, hselect⟩ := hexpr selected hselected
        obtain ⟨hmem, hgiven⟩ := (hitem _).2 ⟨selected, hselected, hsame, hselect⟩
        have hequal : other = aggregate := hall _ hmem hgiven
        rw [hother, hequal, haggregate]
    · intro hall
      obtain ⟨aggregate, haggregate, _⟩ := hexpr chosen hchosen
      rw [hall chosen hchosen hname] at haggregate
      refine ⟨aggregate, haggregate, .inr ⟨m.aliasName, he, fun item hmem halias => ?_⟩⟩
      obtain ⟨selected, hselected, hsame, hselect⟩ := (hitem item).1 ⟨hmem, halias⟩
      obtain ⟨other, hother, hother'⟩ := hexpr selected hselected
      rw [hother'] at hselect
      cases hselect
      rw [hall selected hselected hsame, haggregate] at hother
      exact (Except.ok.inj hother).symm
  · rw [if_neg hnamed] at he
    refine iff_of_true ⟨e, he, .inl rfl⟩ fun selected hselected hsame => ?_
    exact absurd (hsame ▸ List.mem_map_of_mem hselected) hnamed

end Stages.Of

/-- A request for the `n` highest ranking rows is limited to them and ordered by one expression,
downwards.  This stands for the aggregate of the ranking metric exactly if every selected metric of
the same name has the same aggregate, and it is the aggregate where no selected one has the name. -/
theorem ranked_of_compile {s : Statement} (h : r.compile snapshot? = .ok s) {n : Nat} {m : Metric}
    (htop : r.top = some n) (hsome : r.metrics ≠ []) (hranking : r.rankedBy? = some m) :
    s.query.limit = some n ∧ ∃ e, s.query.orderBy = [⟨e, .desc⟩] ∧
      (m.aliasName ∉ r.metrics.map (·.aliasName) → m.expr (r.scope snapshot?) = .ok e) ∧
      ((∃ aggregate, m.expr (r.scope snapshot?) = .ok aggregate ∧
          s.query.StandsFor e aggregate) ↔
        ∀ selected ∈ r.metrics, selected.aliasName = m.aliasName →
          selected.expr (r.scope snapshot?) = m.expr (r.scope snapshot?)) := by
  obtain ⟨st, hst, rfl⟩ := compile_eq_ok_iff.1 h
  obtain ⟨hlimit, e, horder, he⟩ := hst.ranked htop hsome hranking
  rw [← hst.scope_eq]
  exact ⟨hlimit, e, horder, fun hnone => by rwa [if_neg hnone] at he, hst.standsFor_iff hsome he⟩

/-- Events, each with a key of its own and the key of the visitor. -/
def eventCatalog : Snapshot :=
  ({} : Snapshot).addTyped "events" [("id", "int8"), ("distinct_id", "text"), ("country", "text")]

/-- The five countries with the most events, where the ranking metric is written with blanks. -/
def busyCountries : Request where
  table := "events"
  dimensions := ["country"]
  metrics := [⟨"events.id", .countDistinct, false⟩]
  top := some 5
  ranking := some ⟨"events . id", .countDistinct, false⟩

theorem ranked_of_busyCountries :
    ∃ s, busyCountries.compile (some eventCatalog) = .ok s ∧ s.query.limit = some 5 ∧
      ∃ e aggregate, s.query.orderBy = [⟨e, .desc⟩] ∧
        (⟨"events . id", .countDistinct, false⟩ : Metric).expr
          (busyCountries.scope (some eventCatalog)) = .ok aggregate ∧
        s.query.StandsFor e aggregate := by
  have hok : (busyCountries.compile (some eventCatalog)).toOption.isSome = true := by
    decide +kernel
  obtain ⟨s, hs⟩ := Option.isSome_iff_exists.1 hok
  have hcompile := toOption_eq_some.1 hs
  obtain ⟨hlimit, e, horder, _, hstands⟩ := ranked_of_compile hcompile (n := 5)
    (m := ⟨"events . id", .countDistinct, false⟩) rfl (by decide) rfl
  have hread : ColumnRef.parse "events.id" = ColumnRef.parse "events . id" := by decide +kernel
  have hsame : (⟨"events.id", .countDistinct, false⟩ : Metric).expr
      (busyCountries.scope (some eventCatalog)) =
        (⟨"events . id", .countDistinct, false⟩ : Metric).expr
          (busyCountries.scope (some eventCatalog)) := by
    simp only [Metric.expr, Scope.resolve, hread]
    rfl
  obtain ⟨aggregate, haggregate, hstandsFor⟩ :=
    hstands.2 (List.forall_mem_singleton.2 fun _ => hsame)
  exact ⟨s, hcompile, hlimit, e, aggregate, horder, haggregate, hstandsFor⟩

/-- The five countries with the most events, beside the number of events that have a visitor. -/
def busyCountriesByVisitors : Request where
  table := "events"
  dimensions := ["country"]
  metrics := [⟨"distinct_id", .count, false⟩]
  top := some 5
  ranking := some ⟨"id", .countDistinct, false⟩

/-- Both metrics are named `count_distinct_id`, so the countries with the most visitors come first
where those with the most events are wanted. -/
theorem order_not_standsFor :
    ¬ ∀ (r : Request) (s : Snapshot) (st : Statement) (n : Nat) (m : Metric),
      r.compile (some s) = .ok st → r.top = some n → 0 < n → r.metrics ≠ [] →
        r.rankedBy? = some m → st.query.limit = some n ∧
          ∃ e aggregate, st.query.orderBy = [⟨e, .desc⟩] ∧
            m.expr (r.scope (some s)) = .ok aggregate ∧ st.query.StandsFor e aggregate := by
  intro hall
  have hok : (busyCountriesByVisitors.compile (some eventCatalog)).toOption.isSome = true := by
    decide +kernel
  obtain ⟨s, hs⟩ := Option.isSome_iff_exists.1 hok
  have hcompile := toOption_eq_some.1 hs
  have hsome : busyCountriesByVisitors.metrics ≠ [] := by decide
  obtain ⟨_, e, aggregate, horder, haggregate, hstands⟩ :=
    hall _ _ s 5 _ hcompile rfl (by decide) hsome rfl
  obtain ⟨st, hst, rfl⟩ := compile_eq_ok_iff.1 hcompile
  obtain ⟨_, e', horder', he⟩ := hst.ranked rfl hsome rfl
  obtain rfl : e' = e := by
    have hsingle := horder'.symm.trans horder
    simpa using hsingle
  rw [← hst.scope_eq] at haggregate
  have hsame := (hst.standsFor_iff hsome he).1 ⟨aggregate, haggregate, hstands⟩
    ⟨"distinct_id", .count, false⟩ List.mem_cons_self (by decide)
  rw [haggregate] at hsame
  obtain ⟨arg, harg⟩ := Metric.isAggregate_of_expr haggregate
  obtain ⟨arg', harg'⟩ := Metric.isAggregate_of_expr hsame
  rw [harg] at harg'
  cases harg'

end Request
end Granary
