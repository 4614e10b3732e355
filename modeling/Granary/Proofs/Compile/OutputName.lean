import Granary.Postgres.Decode
import Granary.Proofs.Compile.Reference
import Granary.Proofs.Json.Object

/-!
# The names of a result's columns

A selected item is named by its alias, and a column without an alias by its own name.  A row of the
result becomes an object with these names, so it holds all selected values only if the names are
distinct.

Items without an alias are the dimensions.  They are distinct as they are written, but the name of a
column leaves out its table, so two of them may have one name.  `outputNames_of_compile` gives the
exact condition under which no value of a row is lost.
-/

namespace Granary

open Outcome
open Sql (Expr Select SelectItem)

namespace Sql

/-- The name of an item in the result, if the statement gives it one. -/
def SelectItem.outputName? (item : SelectItem) : Option String :=
  item.alias?.or (match item.expr with
    | .column _ name => some name
    | _ => none)

namespace Select

def outputNames (q : Select) : List String := q.items.filterMap (·.outputName?)

/-- The items without an alias. -/
def plainItems (q : Select) : List SelectItem := q.items.filter (·.alias?.isNone)

def plainNames (q : Select) : List String := q.plainItems.filterMap (·.outputName?)

end Select
end Sql

theorem Postgres.names_of_zip {columns : List ResultColumn} {row : List Cell}
    (hrow : row.length = columns.length) :
    ((columns.zip row).map fun (column, cell) =>
      (column.name, cellJson column.type cell)).map (·.1) = columns.map (·.name) := by
  have hzip : (columns.zip row).map (·.1) = columns := List.map_fst_zip hrow.ge
  conv_rhs => rw [← hzip]
  rw [List.map_map, List.map_map]
  rfl

/-- A row has a field for every column exactly if the names of the columns are distinct, and then
each value is found under the name of its column. -/
theorem Postgres.fields_of_rowJson {columns : List ResultColumn} {row : List Cell}
    (hrow : row.length = columns.length) : ∃ fields, rowJson columns row = .object fields ∧
      (fields.length = columns.length ↔ (columns.map (·.name)).Nodup) ∧
      ((columns.map (·.name)).Nodup → ∀ entry ∈ columns.zip row,
        (rowJson columns row).field? entry.1.name = some (cellJson entry.1.type entry.2)) := by
  have hnames := names_of_zip hrow
  refine ⟨_, Json.ofFields_eq _, ?_, fun hnodup entry hentry => ?_⟩
  · rw [← hnames, ← Json.length_give_eq_iff, List.length_map, List.length_zip, hrow, Nat.min_self]
  · rw [← hnames] at hnodup
    exact Json.field?_ofFields hnodup (List.mem_map.2 ⟨entry, hentry, rfl⟩)

/-! ## The items of periods, dimensions and metrics -/

/-- The start of a metric's name tells it from the names of periods. -/
theorem Metric.take_aliasName (m : Metric) :
    m.aliasName.toList.take 2 ∈
      [['s', 'u'], ['a', 'v'], ['m', 'i'], ['m', 'a'], ['c', 'o']] := by
  unfold aliasName
  split
  · decide
  · rw [String.toList_append, String.toList_append]
    cases m.aggregation <;> simp [Sql.Aggregation.label]

namespace Request

variable {r : Request} {scope : Scope}

/-- The names of the periods, if dates are gathered into any. -/
def periodNames (r : Request) : List String :=
  match r.granularity.grain?, r.date? with
  | some grain, some _ => [Bucket.labelAlias, Bucket.startAlias grain]
  | _, _ => []

theorem nodup_periodNames (r : Request) : r.periodNames.Nodup := by
  unfold periodNames
  split
  · rename_i grain _ _ _
    cases grain <;> decide
  · exact List.nodup_nil

theorem aliasName_not_mem_periodNames (r : Request) (m : Metric) :
    m.aliasName ∉ r.periodNames := by
  intro h
  have hstart := m.take_aliasName
  unfold periodNames at h
  split at h
  · rename_i grain _ _ _
    obtain h | h := List.mem_cons.1 h
    · rw [h] at hstart
      revert hstart
      decide
    · rw [List.mem_singleton.1 h] at hstart
      revert hstart
      cases grain <;> decide
  · exact absurd h List.not_mem_nil

theorem alias?_of_bucket? {dated : Option (Resolved × Bucket)}
    (h : r.bucket? scope = .ok dated) :
    (((dated.map (·.2)).map (·.select)).getD []).map (·.alias?) = r.periodNames.map some := by
  unfold bucket? at h
  unfold periodNames
  -- Both look at the grain and the date first.
  cases hgrain : r.granularity.grain? with
  | none =>
    rw [hgrain] at h
    cases h
    rfl
  | some grain =>
    cases hdate : r.date? with
    | none =>
      rw [hgrain, hdate] at h
      cases h
      rfl
    | some column =>
      rw [hgrain, hdate] at h
      simp only [bind_eq_ok, pure_eq_ok] at h
      obtain ⟨date, _, rfl⟩ := h
      rfl

theorem alias?_of_metrics {metrics : List Metric} {items : List SelectItem}
    (h : metrics.mapM (·.select scope) = .ok items) :
    items.map (·.alias?) = (metrics.map (·.aliasName)).map some := by
  induction metrics generalizing items with
  | nil =>
    rw [List.mapM_nil, pure_eq_ok] at h
    rw [← h]
    rfl
  | cons m rest ih =>
    simp only [List.mapM_cons, bind_eq_ok, pure_eq_ok] at h
    obtain ⟨item, hitem, others, hothers, rfl⟩ := h
    simp only [Metric.select, bind_eq_ok, pure_eq_ok] at hitem
    obtain ⟨e, _, rfl⟩ := hitem
    rw [List.map_cons, ih hothers, List.map_cons, List.map_cons]

/-- The dimensions are columns, and no two of them are written alike. -/
theorem exprs_of_dimensions {date : Option Resolved} {raws : List String} {dims : List Resolved}
    (h : raws.foldlM (addDimension scope date) [] = .ok dims) :
    (∀ d ∈ dims, ∃ table? name, d.expr = .column table? name) ∧ (dims.map (·.expr)).Nodup := by
  refine foldlM_invariant
    (fun dims : List Resolved =>
      (∀ d ∈ dims, ∃ table? name, d.expr = .column table? name) ∧ (dims.map (·.expr)).Nodup)
    (fun dims next raw _ hdims hnext => ?_)
    ⟨fun d hd => absurd hd List.not_mem_nil, List.nodup_nil⟩ h
  obtain ⟨dim, hdim, hnext⟩ := bind_eq_ok.1 hnext
  obtain ⟨ref, _, href⟩ := bind_eq_ok.1 hdim
  obtain ⟨table?, name, hexpr⟩ := Scope.expr_of_resolveRef href
  split at hnext
  · exact pure_eq_ok.1 hnext ▸ hdims
  · rename_i hskip
    rw [← pure_eq_ok.1 hnext]
    refine ⟨List.forall_mem_append.2 ⟨hdims.1, List.forall_mem_singleton.2 ⟨_, _, hexpr⟩⟩, ?_⟩
    have hnew : dim.expr ∉ dims.map (·.expr) := by
      intro hmem
      obtain ⟨d, hd, hsame⟩ := List.mem_map.1 hmem
      have hbeq : (d.expr == dim.expr) = true := by
        rw [hsame, hexpr]
        show (table? == table? && name == name) = true
        rw [beq_self_eq_true, beq_self_eq_true, Bool.and_self]
      exact hskip (by rw [List.any_eq_true.2 ⟨d, hd, hbeq⟩, Bool.or_true])
    rw [List.map_append, List.map_singleton]
    exact List.Nodup.append hdims.2 (List.nodup_singleton _)
      (List.disjoint_singleton.2 hnew)

end Request

/-! ## Items with and without an alias -/

namespace Sql.SelectItem

variable {items : List SelectItem}

/-- Items that all have an alias are named by it. -/
theorem outputName?_of_alias? {names : List String}
    (h : items.map (·.alias?) = names.map some) :
    items.map (·.outputName?) = names.map some ∧ items.filter (·.alias?.isNone) = [] := by
  induction items generalizing names with
  | nil => exact ⟨h, rfl⟩
  | cons item rest ih =>
    cases names with
    | nil => simp at h
    | cons name names =>
      simp only [List.map_cons, List.cons.injEq] at h
      obtain ⟨hname, hrest⟩ := h
      obtain ⟨hnames, hplain⟩ := ih hrest
      have hitem : item.outputName? = some name := by rw [outputName?, hname, Option.some_or]
      refine ⟨by rw [List.map_cons, List.map_cons, hitem, hnames], ?_⟩
      rw [List.filter_cons, hname, hplain]
      rfl

theorem filterMap_of_map_eq {names : List String}
    (h : items.map (·.outputName?) = names.map some) : items.filterMap (·.outputName?) = names := by
  have hid : items.filterMap (·.outputName?) = (items.map (·.outputName?)).filterMap id := by
    rw [List.filterMap_map]
    rfl
  rw [hid, h, List.filterMap_map]
  exact List.filterMap_some

end Sql.SelectItem

/-- Columns that are written without an alias have a name of their own. -/
theorem Resolved.outputName?_map {dims : List Resolved}
    (h : ∀ d ∈ dims, ∃ table? name, d.expr = .column table? name) :
    ∃ names : List String, (dims.map fun d => (⟨d.expr, none⟩ : SelectItem)).map (·.outputName?) =
      names.map some := by
  induction dims with
  | nil => exact ⟨[], rfl⟩
  | cons d rest ih =>
    obtain ⟨table?, name, hexpr⟩ := h d List.mem_cons_self
    obtain ⟨names, hnames⟩ := ih fun d' hd' => h d' (List.mem_cons_of_mem d hd')
    refine ⟨name :: names, ?_⟩
    rw [List.map_cons, List.map_cons, hnames, List.map_cons, Sql.SelectItem.outputName?, hexpr]
    rfl

/-! ## Statements -/

namespace Request

/-- The items in three parts, or the stand-in where all of these are empty. -/
theorem selectItems_cases (bucket : Option Bucket) (dims : List Resolved)
    (metrics : List SelectItem) :
    selectItems bucket dims metrics = (bucket.map (·.select)).getD [] ++
        dims.map (fun d => ⟨d.expr, none⟩) ++ metrics ∨
      selectItems bucket dims metrics = [standIn] ∧ (bucket.map (·.select)).getD [] ++
        dims.map (fun d => ⟨d.expr, none⟩) ++ metrics = [] := by
  unfold selectItems
  by_cases hempty : ((bucket.map (·.select)).getD [] ++
      dims.map (fun d => (⟨d.expr, none⟩ : SelectItem)) ++ metrics).isEmpty = true
  · exact .inr ⟨if_pos hempty, List.isEmpty_iff.1 hempty⟩
  · exact .inl (if_neg hempty)

variable {r : Request} {snapshot? : Option Snapshot}

namespace Stages.Of

variable {st : Stages}

theorem plainItems_eq (h : st.Of r snapshot?) :
    (st.statement r).query.plainItems = st.dims.map fun d => ⟨d.expr, none⟩ := by
  have hperiods := (Sql.SelectItem.outputName?_of_alias? (alias?_of_bucket? h.dated)).2
  have hmetrics := (Sql.SelectItem.outputName?_of_alias? (alias?_of_metrics h.metrics)).2
  have hdims : (st.dims.map fun d => (⟨d.expr, none⟩ : SelectItem)).filter (·.alias?.isNone) =
      st.dims.map fun d => ⟨d.expr, none⟩ := by
    rw [List.filter_eq_self]
    exact List.forall_mem_map.2 fun d _ => rfl
  show st.items.filter (·.alias?.isNone) = _
  obtain hitems | ⟨hitems, hempty⟩ := selectItems_cases st.bucket st.dims st.metrics
  · rw [items, hitems, bucket, List.filter_append, List.filter_append, hperiods, hmetrics, hdims,
      List.nil_append, List.append_nil]
  · simp only [List.append_eq_nil_iff] at hempty
    rw [items, hitems, hempty.1.2]
    rfl

/-- What is selected falls into three parts, unless it is the stand-in alone. -/
theorem outputNames_eq (h : st.Of r snapshot?) :
    (st.statement r).query.outputNames.length = (st.statement r).query.items.length ∧
    ((st.statement r).query.outputNames = r.periodNames ++ (st.statement r).query.plainNames ++
        r.metrics.map (·.aliasName) ∨
      (st.statement r).query.outputNames = ["placeholder"] ∧ r.periodNames ++
        (st.statement r).query.plainNames ++ r.metrics.map (·.aliasName) = []) := by
  have hperiods := (Sql.SelectItem.outputName?_of_alias? (alias?_of_bucket? h.dated)).1
  have hmetrics := (Sql.SelectItem.outputName?_of_alias? (alias?_of_metrics h.metrics)).1
  obtain ⟨plain, hplain⟩ := Resolved.outputName?_map (exprs_of_dimensions h.dims).1
  have hnames : (st.statement r).query.plainNames = plain := by
    rw [Select.plainNames, h.plainItems_eq]
    exact Sql.SelectItem.filterMap_of_map_eq hplain
  rw [hnames]
  have hparts := congrArg₂ (· ++ ·) (congrArg₂ (· ++ ·) hperiods hplain) hmetrics
  simp only [← List.map_append] at hparts
  show (st.items.filterMap (·.outputName?)).length = st.items.length ∧
    (st.items.filterMap (·.outputName?) = _ ∨ st.items.filterMap (·.outputName?) = _ ∧ _)
  obtain hitems | ⟨hitems, hempty⟩ := selectItems_cases st.bucket st.dims st.metrics
  · rw [items, hitems, bucket, Sql.SelectItem.filterMap_of_map_eq hparts]
    refine ⟨?_, .inl rfl⟩
    have hlength := congrArg List.length hparts
    rw [List.length_map, List.length_map] at hlength
    exact hlength.symm
  · rw [bucket] at hempty
    rw [hempty, List.map_nil] at hparts
    rw [items, hitems]
    exact ⟨rfl, .inr ⟨rfl, List.map_eq_nil_iff.1 hparts.symm⟩⟩

end Stages.Of

/-- The names of a result's columns are distinct exactly if no two dimensions and no two metrics
share one, and no dimension has the name of a metric or a period.  Then, and only then, a row has
a field for every item, and each value is found under the name of its item. -/
theorem outputNames_of_compile {s : Statement} (h : r.compile snapshot? = .ok s) :
    s.query.outputNames.length = s.query.items.length ∧
    (s.query.plainItems.map (·.expr)).Nodup ∧
    (s.query.outputNames.Nodup ↔ s.query.plainNames.Nodup ∧ (r.metrics.map (·.aliasName)).Nodup ∧
      ∀ name ∈ s.query.plainNames, name ∉ r.periodNames ∧ name ∉ r.metrics.map (·.aliasName)) ∧
    ∀ columns row, columns.map (·.name) = s.query.outputNames → row.length = columns.length →
      ∃ fields, Postgres.rowJson columns row = .object fields ∧
        (fields.length = s.query.items.length ↔ s.query.outputNames.Nodup) ∧
        (s.query.outputNames.Nodup → ∀ entry ∈ columns.zip row,
          (Postgres.rowJson columns row).field? entry.1.name =
            some (Postgres.cellJson entry.1.type entry.2)) := by
  obtain ⟨st, hst, rfl⟩ := compile_eq_ok_iff.1 h
  obtain ⟨hlength, hparts⟩ := hst.outputNames_eq
  refine ⟨hlength, ?_, ?_, fun columns row hcolumns hrow => ?_⟩
  · have hexprs : (st.statement r).query.plainItems.map (·.expr) = st.dims.map (·.expr) := by
      rw [hst.plainItems_eq, List.map_map]
      rfl
    rw [hexprs]
    exact (exprs_of_dimensions hst.dims).2
  · have hperiods := r.nodup_periodNames
    have hapart : ∀ name ∈ r.metrics.map (·.aliasName), name ∉ r.periodNames :=
      List.forall_mem_map.2 fun m _ => r.aliasName_not_mem_periodNames m
    obtain hnames | ⟨hnames, hempty⟩ := hparts
    · rw [hnames, List.nodup_append', List.nodup_append']
      simp only [List.disjoint_left, List.mem_append]
      constructor
      · rintro ⟨⟨_, hplain, hp⟩, hmetrics, hm⟩
        exact ⟨hplain, hmetrics, fun name hname =>
          ⟨fun hin => hp hin hname, fun hin => hm (.inr hname) hin⟩⟩
      · rintro ⟨hplain, hmetrics, hdisjoint⟩
        refine ⟨⟨hperiods, hplain, fun name hin hname => (hdisjoint name hname).1 hin⟩, hmetrics,
          fun name hin hm => ?_⟩
        obtain hin | hin := hin
        · exact hapart name hm hin
        · exact (hdisjoint name hin).2 hm
    · simp only [List.append_eq_nil_iff] at hempty
      obtain ⟨⟨_, hplain⟩, hmetrics⟩ := hempty
      rw [hnames, hplain, hmetrics]
      simp
  · have hcount : columns.length = (st.statement r).query.items.length := by
      rw [← hlength, ← hcolumns, List.length_map]
    rw [← hcount, ← hcolumns]
    exact Postgres.fields_of_rowJson hrow

/-- The keys of orders and of their customers. -/
def bothKeys : Request where
  table := "orders"
  dimensions := ["orders.id", "customers.id"]
  joins := [{ table := "customers" }]

theorem outputNames_bothKeys :
    ∃ st, bothKeys.compile (some shopCatalog) = .ok st ∧ st.query.outputNames = ["id", "id"] := by
  have hnames : (bothKeys.compile (some shopCatalog)).toOption.map (·.query.outputNames) =
      some ["id", "id"] := by decide +kernel
  obtain ⟨st, hst, hids⟩ := Option.map_eq_some_iff.1 hnames
  exact ⟨st, toOption_eq_some.1 hst, hids⟩

/-- Two keys are selected, and a row keeps one. -/
theorem outputNames_of_bothKeys :
    ∃ st, bothKeys.compile (some shopCatalog) = .ok st ∧ st.query.items.length = 2 ∧
      ∀ order customer, ∃ fields,
        Postgres.rowJson [⟨"id", .int4⟩, ⟨"id", .uuid⟩] [order, customer] = .object fields ∧
          fields.length ≠ 2 := by
  obtain ⟨st, hst, hnames⟩ := outputNames_bothKeys
  obtain ⟨hlength, _, _, hrows⟩ := outputNames_of_compile hst
  rw [hnames] at hlength hrows
  refine ⟨st, hst, hlength.symm, fun order customer => ?_⟩
  obtain ⟨fields, hfields, hcount, _⟩ := hrows [⟨"id", .int4⟩, ⟨"id", .uuid⟩] [order, customer]
    rfl rfl
  rw [← hlength] at hcount
  exact ⟨fields, hfields, fun htwo => absurd (hcount.1 htwo) (by decide)⟩

theorem outputNames_not_nodup :
    ¬ ∀ (r : Request) (s : Snapshot) (st : Statement), r.compile (some s) = .ok st →
      st.query.outputNames.Nodup := by
  intro hall
  obtain ⟨st, hst, hnames⟩ := outputNames_bothKeys
  have hnodup := hall _ _ _ hst
  rw [hnames] at hnodup
  exact absurd hnodup (by decide)

end Request
end Granary
