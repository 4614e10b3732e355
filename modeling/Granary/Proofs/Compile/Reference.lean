import Granary.Proofs.Compile.Binding
import Granary.Proofs.Text.Casing

/-!
# The columns of a statement

Every column that a statement names, in any of its clauses and inside any expression, comes from a
reference that was resolved among the tables of the query, or from the catalog, which tells how two
tables belong together.  `Scope.Refers` is this, and `refers_of_compile` proves it of all columns.

A reference is resolved while tables are still being joined, but a scope only grows at its end, so
it is resolved in the same way once all tables are there.

A server takes a bare name for a column of the only table that has one of this name, and refuses it
where several do.  `bareColumn_of_compile` compares this with what the compiler took it for.
-/

namespace Granary

open Outcome
open Sql (Expr OrderItem Select SelectItem)

namespace Sql

mutual

/-- The columns of an expression, each with its table if it is written with one. -/
def Expr.columns : Expr → List (Option String × String)
  | .column table? name => [(table?, name)]
  | .star | .literal _ | .param _ _ | .aliased _ => []
  | .call _ args => columnsAll args
  | .binary _ left right => left.columns ++ right.columns
  | .aggregate _ arg => arg.columns
  | .between subject low high _ => subject.columns ++ low.columns ++ high.columns
  | .not inner => inner.columns

def columnsAll : List Expr → List (Option String × String)
  | [] => []
  | e :: rest => e.columns ++ columnsAll rest

end

theorem columnsAll_eq_flatMap (es : List Expr) : columnsAll es = es.flatMap (·.columns) := by
  induction es with
  | nil => rfl
  | cons e rest ih => rw [columnsAll, ih, List.flatMap_cons]

namespace Select

/-- The names of the columns that a statement names without their table. -/
def bareColumns (q : Select) : List String :=
  (columnsAll q.exprs).filterMap fun c => if c.1.isNone then some c.2 else none

theorem mem_bareColumns {q : Select} {name : String} :
    name ∈ q.bareColumns ↔ ∃ e ∈ q.exprs, (none, name) ∈ e.columns := by
  rw [bareColumns, columnsAll_eq_flatMap, List.mem_filterMap]
  constructor
  · rintro ⟨⟨table?, other⟩, hmem, hsome⟩
    obtain ⟨e, he, hcol⟩ := List.mem_flatMap.1 hmem
    cases table? with
    | none =>
      obtain rfl : other = name := by simpa using hsome
      exact ⟨e, he, hcol⟩
    | some table => simp at hsome
  · rintro ⟨e, he, hcol⟩
    exact ⟨(none, name), List.mem_flatMap.2 ⟨e, he, hcol⟩, rfl⟩

/-- The names of the tables of FROM and JOIN. -/
def tableNames (q : Select) : List String := q.source.name :: q.joins.map (·.table.name)

end Select
end Sql

/-! ## Scopes that grow -/

namespace Scope

/-- Tables have been added to a scope, at the end. -/
structure Grows (s t : Scope) : Prop where
  root : t.root = s.root
  tables : s.tables <+: t.tables
  snapshot : t.snapshot? = s.snapshot?

theorem grows_add (s : Scope) (table : String) : s.Grows (s.add table) := by
  refine ⟨?_, ?_, s.snapshot?_add table⟩
  · simp only [add]
    split
    · rfl
    · rfl
  · simp only [add]
    split
    · exact List.prefix_rfl
    · exact ⟨[Text.lowercase table], rfl⟩

variable {s t : Scope}

theorem mem_tables_add {table added : String} :
    table ∈ (s.add added).tables ↔ table ∈ s.tables ∨ table = Text.lowercase added := by
  simp only [add]
  split
  · rename_i hin
    have hold : Text.lowercase added ∈ s.tables := List.contains_iff_mem.1 hin
    constructor
    · exact .inl
    · rintro (h | rfl)
      · exact h
      · exact hold
  · show table ∈ s.tables ++ [Text.lowercase added] ↔ _
    rw [List.mem_append, List.mem_singleton]

/-- The first table that has a column stays the first one. -/
theorem owner_of_grows (h : s.Grows t) {snapshot : Snapshot} {ref : ColumnRef} {table : String}
    (howner : s.owner snapshot ref = .ok table) : t.owner snapshot ref = .ok table := by
  obtain ⟨more, hmore⟩ := h.tables
  unfold owner at howner ⊢
  cases hq : ref.table with
  | some named =>
    simp only [hq] at howner ⊢
    split at howner
    · cases howner
    · rename_i hin
      have hin' : t.tables.contains named = true := by
        rw [Bool.not_eq_true, Bool.not_eq_false', List.contains_iff_mem] at hin
        rw [List.contains_iff_mem]
        exact h.tables.subset hin
      rw [hin']
      exact howner
  | none =>
    simp only [hq] at howner ⊢
    split at howner
    · rename_i found hfind
      cases howner
      rw [← hmore, List.find?_append, hfind]
      rfl
    · cases howner

theorem resolveRef_of_grows (h : s.Grows t) {ref : ColumnRef} {c : Resolved}
    (href : s.resolveRef ref = .ok c) : t.resolveRef ref = .ok c := by
  unfold resolveRef at href ⊢
  rw [h.snapshot]
  cases hs : s.snapshot? with
  | none =>
    simp only [hs] at href ⊢
    rw [h.root]
    exact href
  | some snapshot =>
    simp only [hs, bind_eq_ok] at href ⊢
    obtain ⟨table, howner, hc⟩ := href
    exact ⟨table, owner_of_grows h howner, hc⟩

theorem resolve_of_grows (h : s.Grows t) {raw : String} {c : Resolved}
    (hc : s.resolve raw = .ok c) : t.resolve raw = .ok c := by
  obtain ⟨ref, hparse, href⟩ := bind_eq_ok.1 hc
  exact bind_eq_ok.2 ⟨ref, hparse, resolveRef_of_grows h href⟩

theorem resolveOn_of_grows (h : s.Grows t) {table raw : String} {c : Resolved}
    (hc : s.resolveOn table raw = .ok c) : t.resolveOn table raw = .ok c := by
  obtain ⟨ref, hparse, href⟩ := bind_eq_ok.1 hc
  exact bind_eq_ok.2 ⟨ref, hparse, resolveRef_of_grows h href⟩

/-! ## Where columns come from -/

/-- A column that a reference resolves to, on a given table where it is bare, or one of two columns
by which the catalog says that two tables in scope belong together. -/
inductive Refers (s : Scope) (column : Option String × String) : Prop where
  | resolved {raw : String} {c : Resolved} (h : s.resolve raw = .ok c)
      (hexpr : c.expr = .column column.1 column.2)
  | resolvedOn {table raw : String} {c : Resolved} (h : s.resolveOn table raw = .ok c)
      (hexpr : c.expr = .column column.1 column.2)
  | key {snapshot : Snapshot} {a b : String} {key : JoinKey} (hs : s.snapshot? = some snapshot)
      (ha : a ∈ s.tables) (hb : b ∈ s.tables) (h : snapshot.joinKey? a b = some key)
      (hcolumn : column ∈ (key.condition snapshot).columns)

/-- All columns of an expression come from the scope. -/
def Covers (s : Scope) (e : Expr) : Prop := ∀ column ∈ e.columns, s.Refers column

theorem Refers.of_grows (h : s.Grows t) {column : Option String × String} (hc : s.Refers column) :
    t.Refers column := by
  cases hc with
  | resolved hc hexpr => exact .resolved (resolve_of_grows h hc) hexpr
  | resolvedOn hc hexpr => exact .resolvedOn (resolveOn_of_grows h hc) hexpr
  | key hs ha hb hkey hcolumn =>
    exact .key (h.snapshot.trans hs) (h.tables.subset ha) (h.tables.subset hb) hkey hcolumn

theorem Covers.of_grows (h : s.Grows t) {e : Expr} (he : s.Covers e) : t.Covers e :=
  fun column hcolumn => (he column hcolumn).of_grows h

theorem covers_of_resolve {raw : String} {c : Resolved} (h : s.resolve raw = .ok c) :
    s.Covers c.expr := by
  obtain ⟨ref, _, href⟩ := bind_eq_ok.1 h
  obtain ⟨table?, name, hexpr⟩ := expr_of_resolveRef href
  rw [hexpr]
  exact List.forall_mem_singleton.2 (.resolved h hexpr)

theorem covers_of_resolveOn {table raw : String} {c : Resolved}
    (h : s.resolveOn table raw = .ok c) :
    s.Covers c.expr := by
  obtain ⟨ref, _, href⟩ := bind_eq_ok.1 h
  obtain ⟨table?, name, hexpr⟩ := expr_of_resolveRef href
  rw [hexpr]
  exact List.forall_mem_singleton.2 (.resolvedOn h hexpr)

theorem covers_of_columns_eq_nil {e : Expr} (h : e.columns = []) : s.Covers e := by
  intro column hcolumn
  rw [h] at hcolumn
  exact absurd hcolumn List.not_mem_nil

theorem Covers.binary {left right : Expr} (op : Sql.Operator) (hl : s.Covers left)
    (hr : s.Covers right) : s.Covers (.binary op left right) := by
  simp only [Covers, Expr.columns]
  exact List.forall_mem_append.2 ⟨hl, hr⟩

end Scope

/-! ## Joins -/

theorem Requested.Join.lowercase_key (join : Requested.Join) :
    Text.lowercase join.key = join.key := by
  rw [key, Text.lowercase_lowercase]

namespace JoinPlan

theorem mem_tables_add_key (scope : Scope) (join : Requested.Join) :
    join.key ∈ (scope.add join.key).tables :=
  Scope.mem_tables_add.2 (.inr join.lowercase_key.symm)

/-- The conditions of a join are about tables joined up to it. -/
theorem covers_of_conditions {plan : JoinPlan} {join : Requested.Join}
    (hprevious : plan.previous ∈ plan.scope.tables) {es : List Expr}
    (h : plan.conditions join join.key = .ok es) :
    ∀ e ∈ es, (plan.scope.add join.key).Covers e := by
  unfold conditions at h
  split at h
  · cases h
    exact fun e he => absurd he List.not_mem_nil
  · simp only [bind_eq_ok, pure_eq_ok] at h
    obtain ⟨left, hleft, right, hright, rfl⟩ := h
    exact List.forall_mem_singleton.2
      (.binary _ (Scope.covers_of_resolve hleft) (Scope.covers_of_resolveOn hright))
  · split at h
    · cases h
    · rename_i snapshot hs
      split at h
      · cases h
      · rename_i key hkey
        cases h
        have hs : (plan.scope.add join.key).snapshot? = some snapshot := by
          rw [Scope.snapshot?_add, hs]
        have hprevious := (plan.scope.grows_add join.key).tables.subset hprevious
        exact List.forall_mem_singleton.2 fun column hcolumn =>
          .key hs hprevious (mem_tables_add_key plan.scope join) hkey hcolumn

theorem covers_of_ofRequested {scope : Scope} {joins : List Requested.Join} {plan : JoinPlan}
    (h : ofRequested scope joins = .ok plan) :
    plan.previous ∈ plan.scope.tables ∧
      ∀ join ∈ plan.clauses, ∀ e ∈ join.conditions, plan.scope.Covers e := by
  refine foldlM_invariant
    (fun plan : JoinPlan => plan.previous ∈ plan.scope.tables ∧
      ∀ join ∈ plan.clauses, ∀ e ∈ join.conditions, plan.scope.Covers e)
    (fun plan next join _ hplan hnext => ?_)
    ⟨List.mem_cons_self, fun join hj => absurd hj List.not_mem_nil⟩ h
  obtain ⟨_, conditions, hconditions, rfl⟩ := add_eq_ok_iff.1 hnext
  have hgrows := plan.scope.grows_add join.key
  dsimp only
  refine ⟨mem_tables_add_key plan.scope join, List.forall_mem_append.2
    ⟨fun clause hclause e he => ?_, ?_⟩⟩
  · exact (hplan.2 clause hclause e he).of_grows hgrows
  · exact List.forall_mem_singleton.2 (covers_of_conditions hplan.1 hconditions)

/-- The joined tables are spelled as the catalog spells them. -/
theorem names_of_foldlM {joins : List Requested.Join} {plan plan' : JoinPlan}
    (h : joins.foldlM add plan = .ok plan') :
    plan'.clauses.map (·.table.name) =
      plan.clauses.map (·.table.name) ++ joins.map fun join => spelling plan.scope join.key := by
  induction joins generalizing plan with
  | nil =>
    rw [List.foldlM_nil, pure_eq_ok] at h
    rw [h, List.map_nil, List.append_nil]
  | cons join rest ih =>
    rw [List.foldlM_cons, bind_eq_ok] at h
    obtain ⟨next, hnext, hrest⟩ := h
    obtain ⟨_, conditions, _, rfl⟩ := add_eq_ok_iff.1 hnext
    have hspell : ∀ name, spelling (plan.scope.add join.key) name = spelling plan.scope name := by
      intro name
      rw [spelling, spelling, Scope.snapshot?_add]
    rw [ih hrest]
    simp [hspell]

end JoinPlan

/-! ## Dates, dimensions, metrics and filters -/

section

variable {scope : Scope}

theorem Bucket.covers_of (grain : Sql.Grain) (display : DisplayFormat) {date : Expr}
    (h : scope.Covers date) :
    (∀ item ∈ (Bucket.of grain display date).select, scope.Covers item.expr) ∧
      (∀ e ∈ (Bucket.of grain display date).groupBy, scope.Covers e) ∧
      scope.Covers (Bucket.of grain display date).orderBy.expr := by
  have hstart : scope.Covers (start grain date) := by
    simpa [Scope.Covers, start, Expr.columns, Sql.columnsAll] using h
  have hlabel : scope.Covers (label grain display date) := by
    unfold label
    cases isPadded grain with
    | true => simpa [Scope.Covers, Expr.columns, Sql.columnsAll] using hstart
    | false => simpa [Scope.Covers, Expr.columns, Sql.columnsAll] using hstart
  refine ⟨?_, ?_, Scope.covers_of_columns_eq_nil rfl⟩
  · exact List.forall_mem_cons.2 ⟨hlabel, List.forall_mem_singleton.2 hstart⟩
  · exact List.forall_mem_cons.2 ⟨hstart, List.forall_mem_singleton.2 hlabel⟩

theorem Request.covers_of_bucket? {r : Request} {dated : Option (Resolved × Bucket)}
    (h : r.bucket? scope = .ok dated) :
    ∀ b ∈ dated.map (·.2), (∀ item ∈ b.select, scope.Covers item.expr) ∧
      (∀ e ∈ b.groupBy, scope.Covers e) ∧ scope.Covers b.orderBy.expr := by
  unfold bucket? at h
  split at h
  · simp only [bind_eq_ok, pure_eq_ok] at h
    obtain ⟨date, hdate, rfl⟩ := h
    intro b hb
    obtain rfl : Bucket.of _ _ date.expr = b := by simpa using hb
    exact Bucket.covers_of _ _ (Scope.covers_of_resolveOn hdate)
  · cases h
    simp

theorem Request.covers_of_dimensions {date : Option Resolved} {raws : List String}
    {dims : List Resolved} (h : raws.foldlM (addDimension scope date) [] = .ok dims) :
    ∀ d ∈ dims, scope.Covers d.expr := by
  refine foldlM_invariant (fun dims => ∀ d ∈ dims, scope.Covers d.expr)
    (fun dims next raw _ hdims hnext => ?_) (fun d hd => absurd hd List.not_mem_nil) h
  obtain ⟨dim, hdim, hnext⟩ := bind_eq_ok.1 hnext
  have hnew : scope.Covers dim.expr := Scope.covers_of_resolve hdim
  split at hnext
  · exact pure_eq_ok.1 hnext ▸ hdims
  · exact pure_eq_ok.1 hnext ▸ List.forall_mem_append.2 ⟨hdims, List.forall_mem_singleton.2 hnew⟩

theorem Metric.covers_of_expr {m : Metric} {e : Expr} (h : m.expr scope = .ok e) :
    scope.Covers e := by
  unfold expr at h
  split at h
  · split at h
    · cases h
      exact Scope.covers_of_columns_eq_nil rfl
    · cases h
  · simp only [bind_eq_ok, pure_eq_ok] at h
    obtain ⟨c, hc, rfl⟩ := h
    exact Scope.covers_of_resolve hc

theorem Metric.covers_of_select {m : Metric} {item : SelectItem} (h : m.select scope = .ok item) :
    scope.Covers item.expr := by
  simp only [select, bind_eq_ok, pure_eq_ok] at h
  obtain ⟨e, he, rfl⟩ := h
  exact covers_of_expr he

/-- Values have no columns, so a clause has those of its subject. -/
theorem Filter.covers_of_clause {f : Filter} {bound : Nat} {e : Expr} {values : List String}
    (h : f.clause scope bound = .ok (e, values)) : scope.Covers e := by
  obtain ⟨c, hc, h⟩ := bind_eq_ok.1 h
  have hcolumn : scope.Covers c.expr := Scope.covers_of_resolve hc
  split at h
  · simp only [bind_eq_ok, mapError_eq_ok, pure_eq_ok] at h
    obtain ⟨⟨low, high⟩, _, hclause⟩ := h
    obtain ⟨rfl, rfl⟩ := Prod.mk.inj hclause
    simpa [Scope.Covers, Expr.columns] using hcolumn
  · split at h
    · obtain ⟨rfl, rfl⟩ := Prod.mk.inj (pure_eq_ok.1 h)
      split
      · simpa [Scope.Covers, Expr.columns] using hcolumn
      · simpa [Scope.Covers, Expr.columns] using hcolumn
    · cases h

theorem Predicate.covers_of_ofFilters {filters : List Filter} {p : Predicate}
    (h : ofFilters scope filters = .ok p) : ∀ e ∈ p.expr, scope.Covers e := by
  refine foldlM_invariant (fun p : Predicate => ∀ e ∈ p.expr, scope.Covers e)
    (fun p next f _ hp hnext => ?_) (fun _ he => absurd he (Option.not_mem_none _)) h
  unfold add at hnext
  split at hnext
  · exact pure_eq_ok.1 hnext ▸ hp
  · simp only [bind_eq_ok, pure_eq_ok] at hnext
    obtain ⟨⟨clause, values⟩, hclause, rfl⟩ := hnext
    have hnew := Filter.covers_of_clause hclause
    intro e he
    obtain rfl := Option.mem_some.1 he
    cases hexpr : p.expr with
    | none => exact hnew
    | some before => exact .binary _ (hp before hexpr) hnew

end

/-! ## Statements -/

namespace Request

variable {r : Request} {scope : Scope}

theorem covers_of_rankedOrder {selected : List SelectItem} {order orderBy : List OrderItem}
    {limit : Option Nat} (horder : ∀ o ∈ order, scope.Covers o.expr)
    (h : r.rankedOrder scope selected order = .ok (orderBy, limit)) :
    ∀ o ∈ orderBy, scope.Covers o.expr := by
  unfold rankedOrder at h
  split at h
  · simp only [bind_eq_ok, pure_eq_ok, Prod.mk.injEq] at h
    obtain ⟨o, ho, rfl, _⟩ := h
    refine List.forall_mem_singleton.2 ?_
    unfold rankingOrder at ho
    split at ho
    · cases pure_eq_ok.1 ho
      exact Scope.covers_of_columns_eq_nil rfl
    · simp only [bind_eq_ok, pure_eq_ok] at ho
      obtain ⟨e, he, rfl⟩ := ho
      exact Metric.covers_of_expr he
  · cases h
    exact horder

namespace Stages.Of

variable {snapshot? : Option Snapshot} {st : Stages}

theorem covers_exprs (h : st.Of r snapshot?) :
    ∀ e ∈ (st.statement r).query.exprs, st.scope.Covers e := by
  have hbucket := covers_of_bucket? h.dated
  have hdims := covers_of_dimensions h.dims
  have hmetrics : ∀ item ∈ st.metrics, st.scope.Covers item.expr :=
    forall_of_mapM (fun _ _ _ hm => Metric.covers_of_select hm) h.metrics
  have hplain : ∀ o ∈ plainOrder st.bucket st.dims, st.scope.Covers o.expr := by
    unfold plainOrder
    cases hb : st.bucket with
    | some b => exact List.forall_mem_singleton.2 (hbucket b hb).2.2
    | none =>
      cases hd : st.dims with
      | nil => exact fun o ho => absurd ho List.not_mem_nil
      | cons d rest =>
        exact List.forall_mem_singleton.2 (hdims d (hd ▸ List.mem_cons_self))
  have hitems : ∀ item ∈ st.items, st.scope.Covers item.expr := by
    simp only [items, selectItems]
    split
    · exact List.forall_mem_singleton.2 (Scope.covers_of_columns_eq_nil rfl)
    · refine List.forall_mem_append.2 ⟨List.forall_mem_append.2 ⟨?_, ?_⟩, hmetrics⟩
      · cases hb : st.bucket with
        | none => exact fun item hi => absurd hi List.not_mem_nil
        | some b => exact (hbucket b hb).1
      · exact List.forall_mem_map.2 hdims
  have hgroup : ∀ e ∈ st.groupBy, st.scope.Covers e := by
    refine List.forall_mem_append.2 ⟨?_, List.forall_mem_map.2 hdims⟩
    cases hb : st.bucket with
    | none => exact fun e he => absurd he List.not_mem_nil
    | some b => exact (hbucket b hb).2.1
  have hjoins : ∀ e ∈ st.plan.clauses.flatMap (·.conditions), st.scope.Covers e := by
    intro e he
    obtain ⟨join, hj, hej⟩ := List.mem_flatMap.1 he
    exact (JoinPlan.covers_of_ofRequested h.plan).2 join hj e hej
  have hcondition := Predicate.covers_of_ofFilters h.predicate
  have horder := covers_of_rankedOrder hplain h.order
  simp only [Select.exprs, statement, List.forall_mem_append, List.forall_mem_map]
  exact ⟨⟨⟨⟨hitems, hjoins⟩, fun e he => hcondition e (Option.mem_toList.1 he)⟩, hgroup⟩, horder⟩

end Stages.Of

/-- Every column of a statement comes from its tables. -/
theorem refers_of_compile {snapshot? : Option Snapshot} {st : Statement}
    (h : r.compile snapshot? = .ok st) :
    ∀ e ∈ st.query.exprs, (r.scope snapshot?).Covers e := by
  obtain ⟨stages, hst, rfl⟩ := compile_eq_ok_iff.1 h
  rw [← hst.scope_eq]
  exact hst.covers_exprs

end Request

/-! ## Bare names -/

namespace Schema.Table

/-- The column of the given key as statements spell it. -/
def spellingOf (t : Table) (key : String) : String := (t.spellings.get? key).getD key

/-- Whether statements name some column of the table so. -/
def spells (t : Table) (name : String) : Bool := t.columns.any fun key => t.spellingOf key == name

end Schema.Table

namespace Snapshot

/-- Those of some tables that have a column of this name, which is what a server compares. -/
def holders (s : Snapshot) (tables : List String) (name : String) : List String :=
  tables.filter fun table => (s.table? table).any (·.spells name)

theorem spells_of_hasColumn {s : Snapshot} {table column : String}
    (h : s.hasColumn table column = true) :
    (s.table? table).any (·.spells (s.columnSpelling table column)) = true := by
  unfold hasColumn columns? at h
  unfold columnSpelling
  cases ht : s.table? table with
  | none => simp [ht] at h
  | some t =>
    have hmem : Text.lowercase column ∈ t.columns := by simpa [ht] using h
    simp only [Option.bind_some, Option.any_some, Schema.Table.spells, List.any_eq_true]
    exact ⟨Text.lowercase column, hmem, beq_self_eq_true _⟩

end Snapshot

namespace Scope

variable {s : Scope} {snapshot : Snapshot}

/-- A bare name in a statement is a bare reference of the request, which the first table that has
such a column takes. -/
theorem Refers.bare (hs : s.snapshot? = some snapshot) {name : String}
    (h : s.Refers (none, name)) :
    ∃ raw c, s.resolve raw = .ok c ∧ c.expr = .column none name ∧
      s.tables.find? (snapshot.hasColumn · c.column) = some c.table ∧
      name = snapshot.columnSpelling c.table c.column := by
  cases h with
  | @resolved raw c h hexpr =>
    refine ⟨raw, c, h, hexpr, ?_⟩
    obtain ⟨ref, _, href⟩ := bind_eq_ok.1 h
    simp only [resolveRef, hs, bind_eq_ok, pure_eq_ok] at href
    obtain ⟨table, howner, rfl⟩ := href
    simp only [Expr.column.injEq, Option.map_eq_none_iff] at hexpr
    obtain ⟨hnone, hname⟩ := hexpr
    refine ⟨?_, hname.symm⟩
    simp only [owner, hnone] at howner
    split at howner
    · rename_i found hfind
      cases howner
      exact hfind
    · cases howner
  | @resolvedOn table raw c h hexpr =>
    obtain ⟨ref, _, href⟩ := bind_eq_ok.1 h
    simp only [resolveRef, hs, bind_eq_ok, pure_eq_ok] at href
    obtain ⟨_, _, rfl⟩ := href
    simp at hexpr
  | key hs' _ _ h hcolumn => simp [JoinKey.condition, Expr.columns] at hcolumn

theorem mem_tables_foldl_add {tables : List String} {table : String} :
    table ∈ (tables.foldl add s).tables ↔
      table ∈ s.tables ∨ table ∈ tables.map Text.lowercase := by
  induction tables generalizing s with
  | nil => simp
  | cons first rest ih =>
    rw [List.foldl_cons, ih, mem_tables_add, List.map_cons, List.mem_cons, or_assoc]

end Scope

namespace Request

variable {r : Request} {s : Snapshot}

/-- The tables of FROM and JOIN, under the names they are looked up by. -/
def tableKeys (r : Request) : List String :=
  (r.root :: r.joins.map (·.key)).map Text.lowercase

theorem lowercase_root (r : Request) : Text.lowercase r.root = r.root := by
  rw [root, Text.lowercase_lowercase]

theorem tableKeys_eq (r : Request) : r.tableKeys = r.root :: r.joins.map (·.key) := by
  rw [tableKeys, List.map_cons, lowercase_root, List.map_map]
  exact congrArg (r.root :: ·) (List.map_congr_left fun join _ => join.lowercase_key)

theorem mem_scope_iff {snapshot? : Option Snapshot} {table : String} :
    table ∈ (r.scope snapshot?).tables ↔ table ∈ r.tableKeys := by
  have hroot : table ∈ (⟨Text.lowercase r.root, [], snapshot?⟩ : Scope).tables ↔
      table = Text.lowercase r.root := List.mem_singleton
  rw [scope, Scope.mem_tables_foldl_add, hroot, tableKeys, List.map_cons, List.mem_cons]

theorem tableNames_of_compile {st : Statement} (h : r.compile (some s) = .ok st) :
    st.query.tableNames = (r.root :: r.joins.map (·.key)).map s.tableSpelling := by
  obtain ⟨stages, hst, rfl⟩ := compile_eq_ok_iff.1 h
  have hnames := JoinPlan.names_of_foldlM hst.plan
  have hsnapshot : stages.scope.snapshot? = some s := by rw [hst.scope_eq, r.snapshot?_scope]
  simp only [Select.tableNames, Stages.statement, List.map_cons]
  rw [hnames]
  simp [JoinPlan.start, JoinPlan.spelling, hsnapshot]

/-- A bare name in a statement is a bare reference of the request, and the compiler takes it for a
column of the first table in scope that has one, whose type it casts to.  Among the tables of FROM
and JOIN the one it chose has a column of the name that is written, so a server agrees with the
compiler exactly if no other has; without joins there is no other. -/
theorem bareColumn_of_compile {st : Statement} (h : r.compile (some s) = .ok st) :
    st.query.tableNames = (r.root :: r.joins.map (·.key)).map s.tableSpelling ∧
    ∀ name ∈ st.query.bareColumns, ∃ raw c,
      (r.scope (some s)).resolve raw = .ok c ∧ c.expr = .column none name ∧
      (r.scope (some s)).tables.find? (s.hasColumn · c.column) = some c.table ∧
      c.type? = s.columnType? c.table c.column ∧
      c.table ∈ s.holders r.tableKeys name ∧
      ((s.holders r.tableKeys name).length = 1 ↔ s.holders r.tableKeys name = [c.table]) ∧
      (r.joins = [] → s.holders r.tableKeys name = [c.table]) := by
  refine ⟨tableNames_of_compile h, fun name hname => ?_⟩
  obtain ⟨e, he, hcolumn⟩ := Select.mem_bareColumns.1 hname
  have hsnapshot := r.snapshot?_scope (some s)
  obtain ⟨raw, c, hc, hexpr, hfirst, rfl⟩ := (refers_of_compile h e he _ hcolumn).bare hsnapshot
  have htype : c.type? = s.columnType? c.table c.column := by
    rw [Scope.type?_of_resolve hc, hsnapshot]
    rfl
  have hhas : s.hasColumn c.table c.column = true := by simpa using List.find?_some hfirst
  have hmem : c.table ∈ r.tableKeys := mem_scope_iff.1 (List.mem_of_find?_eq_some hfirst)
  have hholds : c.table ∈ s.holders r.tableKeys (s.columnSpelling c.table c.column) :=
    List.mem_filter.2 ⟨hmem, Snapshot.spells_of_hasColumn hhas⟩
  have hsingle : (s.holders r.tableKeys (s.columnSpelling c.table c.column)).length = 1 ↔
      s.holders r.tableKeys (s.columnSpelling c.table c.column) = [c.table] := by
    constructor
    · intro hone
      obtain ⟨only, honly⟩ := List.length_eq_one_iff.1 hone
      rw [honly] at hholds ⊢
      rw [List.mem_singleton.1 hholds]
    · intro hlist
      rw [hlist, List.length_singleton]
  refine ⟨raw, c, hc, hexpr, hfirst, htype, hholds, hsingle, fun hjoins => hsingle.1 ?_⟩
  -- The root is the only table, and the one that was chosen is among the holders.
  have hle : (s.holders r.tableKeys (s.columnSpelling c.table c.column)).length ≤ 1 := by
    have hone : r.tableKeys.length = 1 := by
      rw [tableKeys, hjoins]
      rfl
    exact hone ▸ List.length_filter_le _ _
  have hpos := List.length_pos_of_mem hholds
  omega

/-- Orders and their customers, who both have an `id`. -/
def shopCatalog : Snapshot :=
  ((({} : Snapshot).addTyped "orders" [("id", "int4"), ("customer_id", "uuid")]).addTyped
    "customers" [("id", "uuid"), ("name", "text")]).addForeignKey
      "orders" "customer_id" "customers" "id"

/-- One order with its customer; `id` is meant to be that of the order. -/
def orderWithCustomer : Request where
  table := "orders"
  dimensions := ["id"]
  filters := [{ column := some "id", value := .string "7" }]
  joins := [{ table := "customers" }]

theorem bareColumns_orderWithCustomer :
    ∃ st, orderWithCustomer.compile (some shopCatalog) = .ok st ∧
      st.query.bareColumns = ["id", "id", "id", "id"] := by
  have hbare : (orderWithCustomer.compile (some shopCatalog)).toOption.map (·.query.bareColumns) =
      some ["id", "id", "id", "id"] := by decide +kernel
  obtain ⟨st, hst, hnames⟩ := Option.map_eq_some_iff.1 hbare
  exact ⟨st, toOption_eq_some.1 hst, hnames⟩

theorem bareColumn_of_orderWithCustomer :
    ∃ st, orderWithCustomer.compile (some shopCatalog) = .ok st ∧
      st.query.bareColumns = ["id", "id", "id", "id"] ∧
      st.query.tableNames = ["orders", "customers"] ∧
      ∃ raw c, (orderWithCustomer.scope (some shopCatalog)).resolve raw = .ok c ∧
        c.expr = .column none "id" ∧ c.type? = shopCatalog.columnType? c.table c.column ∧
        c.table ∈ shopCatalog.holders ["orders", "customers"] "id" := by
  obtain ⟨st, hst, hnames⟩ := bareColumns_orderWithCustomer
  obtain ⟨htables, hcolumns⟩ := bareColumn_of_compile hst
  have hid : "id" ∈ st.query.bareColumns := by rw [hnames]; exact List.mem_cons_self
  obtain ⟨raw, c, hc, hexpr, _, htype, hholds, _⟩ := hcolumns "id" hid
  have hspelled : (orderWithCustomer.root :: orderWithCustomer.joins.map (·.key)).map
      shopCatalog.tableSpelling = ["orders", "customers"] := by decide +kernel
  have hkeys : orderWithCustomer.tableKeys = ["orders", "customers"] := by decide +kernel
  exact ⟨st, hst, hnames, htables.trans hspelled, raw, c, hc, hexpr, htype, hkeys ▸ hholds⟩

/-- A bare name need not have one holder: here both tables have an `id`. -/
theorem holders_of_bareColumn_not_single :
    ¬ ∀ (r : Request) (s : Snapshot) (st : Statement), r.compile (some s) = .ok st →
      ∀ name ∈ st.query.bareColumns, (s.holders r.tableKeys name).length = 1 := by
  intro hall
  obtain ⟨st, hst, hnames⟩ := bareColumns_orderWithCustomer
  have hid : "id" ∈ st.query.bareColumns := by rw [hnames]; exact List.mem_cons_self
  have htwo : (shopCatalog.holders orderWithCustomer.tableKeys "id").length = 2 := by
    decide +kernel
  have hone := hall _ _ _ hst "id" hid
  omega

end Request
end Granary
