import Granary.Proofs.Compile.Catalog
import Granary.Proofs.Compile.Grouping
import Granary.Proofs.Schema.Built

/-!
# Statements without a catalog

A request without joins that compiles with a snapshot compiles without one as well.  The snapshot
tells how tables and columns are spelled and which types parameters are cast to, and nothing else:
with names in lower case and without casts, the two are one statement.

The stages of the compilation with the snapshot are run again without it.  Whatever a stage arrives
at with the snapshot, it arrives at the folded form of it without.
-/

namespace Granary

open Outcome
open Sql (Expr OrderItem Select SelectItem TableRef)
open Text (lowercase trim)

/-! ## Folding -/

namespace Sql

mutual

/-- An expression with the names of tables and columns in lower case and without casts. -/
def Expr.folded : Expr → Expr
  | .column table? name => .column (table?.map lowercase) (lowercase name)
  | .param index _ => .param index none
  | .call function args => .call function (foldedAll args)
  | .binary op left right => .binary op left.folded right.folded
  | .aggregate aggregation arg => .aggregate aggregation arg.folded
  | .between subject low high negated => .between subject.folded low.folded high.folded negated
  | .not inner => .not inner.folded
  | .star => .star
  | .literal value => .literal value
  | .aliased name => .aliased name

def foldedAll : List Expr → List Expr
  | [] => []
  | e :: rest => e.folded :: foldedAll rest

end

mutual

theorem Expr.folded_folded (e : Expr) : e.folded.folded = e.folded := by
  match e with
  | .column table? name =>
    have htable : (table?.map lowercase).map lowercase = table?.map lowercase := by
      rw [Option.map_map]
      exact Option.map_congr fun table _ => Text.lowercase_lowercase table
    rw [Expr.folded, Expr.folded, htable, Text.lowercase_lowercase]
  | .call function args => rw [Expr.folded, Expr.folded, foldedAll_foldedAll args]
  | .binary op left right =>
    rw [Expr.folded, Expr.folded, left.folded_folded, right.folded_folded]
  | .aggregate aggregation arg => rw [Expr.folded, Expr.folded, arg.folded_folded]
  | .between subject low high negated =>
    rw [Expr.folded, Expr.folded, subject.folded_folded, low.folded_folded, high.folded_folded]
  | .not inner => rw [Expr.folded, Expr.folded, inner.folded_folded]
  | .param _ _ | .star | .literal _ | .aliased _ => rfl

theorem foldedAll_foldedAll (es : List Expr) : foldedAll (foldedAll es) = foldedAll es := by
  match es with
  | [] => rfl
  | e :: rest => rw [foldedAll, foldedAll, e.folded_folded, foldedAll_foldedAll rest]

end

def SelectItem.folded (item : SelectItem) : SelectItem := { item with expr := item.expr.folded }

def TableRef.folded (table : TableRef) : TableRef := { table with name := lowercase table.name }

def Join.folded (join : Join) : Join :=
  { join with table := join.table.folded, conditions := join.conditions.map (·.folded) }

def OrderItem.folded (item : OrderItem) : OrderItem := { item with expr := item.expr.folded }

/-- A statement with the names of tables and columns in lower case and without casts.  The names
that it gives to its results stay as they are. -/
def Select.folded (q : Select) : Select where
  items := q.items.map (·.folded)
  source := q.source.folded
  joins := q.joins.map (·.folded)
  condition := q.condition.map (·.folded)
  groupBy := q.groupBy.map (·.folded)
  orderBy := q.orderBy.map (·.folded)
  limit := q.limit

theorem SelectItem.folded_folded (item : SelectItem) : item.folded.folded = item.folded := by
  rw [folded, folded, Expr.folded_folded]

theorem TableRef.folded_folded (table : TableRef) : table.folded.folded = table.folded := by
  rw [folded, folded, Text.lowercase_lowercase]

theorem OrderItem.folded_folded (item : OrderItem) : item.folded.folded = item.folded := by
  rw [folded, folded, Expr.folded_folded]

theorem Join.folded_folded (join : Join) : join.folded.folded = join.folded := by
  rw [folded, folded, TableRef.folded_folded, List.map_map]
  congr 1
  exact List.map_congr_left fun e _ => e.folded_folded

theorem Select.folded_folded (q : Select) : q.folded.folded = q.folded := by
  have hitems : (q.items.map (·.folded)).map (·.folded) = q.items.map (·.folded) := by
    rw [List.map_map]
    exact List.map_congr_left fun item _ => item.folded_folded
  have hjoins : (q.joins.map (·.folded)).map (·.folded) = q.joins.map (·.folded) := by
    rw [List.map_map]
    exact List.map_congr_left fun join _ => join.folded_folded
  have hgroupBy : (q.groupBy.map (·.folded)).map (·.folded) = q.groupBy.map (·.folded) := by
    rw [List.map_map]
    exact List.map_congr_left fun e _ => e.folded_folded
  have horderBy : (q.orderBy.map (·.folded)).map (·.folded) = q.orderBy.map (·.folded) := by
    rw [List.map_map]
    exact List.map_congr_left fun item _ => item.folded_folded
  have hcondition : (q.condition.map (·.folded)).map (·.folded) = q.condition.map (·.folded) := by
    cases q.condition with
    | none => rfl
    | some e => exact congrArg some e.folded_folded
  simp only [folded, hitems, hjoins, hgroupBy, horderBy, hcondition, TableRef.folded_folded]

end Sql

def Resolved.folded (c : Resolved) : Resolved := { c with expr := c.expr.folded, type? := none }

def Bucket.folded (b : Bucket) : Bucket where
  select := b.select.map (·.folded)
  groupBy := b.groupBy.map (·.folded)
  orderBy := b.orderBy.folded

def Predicate.folded (p : Predicate) : Predicate := { p with expr := p.expr.map (·.folded) }

def Statement.folded (st : Statement) : Statement := { st with query := st.query.folded }

/-! ## References -/

/-- A reference is read in lower case. -/
theorem ColumnRef.lowercase_of_parse {raw : String} {ref : ColumnRef} (h : parse raw = .ok ref) :
    ref.table.map lowercase = ref.table ∧ lowercase ref.column = ref.column := by
  unfold parse at h
  dsimp only at h
  split at h
  · split at h
    · cases h
    · cases h
      exact ⟨rfl, Text.lowercase_lowercase _⟩
  · split at h
    · cases h
    · cases h
      exact ⟨congrArg some (Text.lowercase_lowercase _), Text.lowercase_lowercase _⟩

namespace Scope

variable {root : String} {s : Snapshot}

/-- A column as it is written where the table is the only one in scope: its reference, spelled. -/
def Writes (s : Snapshot) (root : String) (e : Expr) : Prop :=
  ∃ ref : ColumnRef,
    e = .column (ref.table.map s.tableSpelling) (s.columnSpelling root ref.column) ∧
      e.folded = .column ref.table ref.column

/-- Spelling does not bring two references together, nor does it tell one from itself. -/
theorem Writes.beq_folded {e e' : Expr} (h : Writes s root e) (h' : Writes s root e') :
    (e.folded == e'.folded) = (e == e') := by
  obtain ⟨ref, he, hfolded⟩ := h
  obtain ⟨ref', he', hfolded'⟩ := h'
  have hsame : (Expr.column ref.table ref.column == e'.folded) = true ↔
      (Expr.column (ref.table.map s.tableSpelling) (s.columnSpelling root ref.column) == e') =
        true := by
    rw [Expr.column_beq_iff, Expr.column_beq_iff]
    constructor
    · intro hsame
      rw [hfolded', Expr.column.injEq] at hsame
      rw [he', hsame.1, hsame.2]
    · intro hsame
      rw [hsame, ← he, hfolded]
  rw [Bool.eq_iff_iff, hfolded, he]
  exact hsame

section

variable (hs : s.Built) (hroot : lowercase root = root)

include hs hroot

theorem resolveRef_plain {ref : ColumnRef} {c : Resolved}
    (htable : ref.table.map lowercase = ref.table) (hcolumn : lowercase ref.column = ref.column)
    (h : Scope.resolveRef ⟨root, [], some s⟩ ref = .ok c) :
    Scope.resolveRef ⟨root, [], none⟩ ref = .ok c.folded ∧ Writes s root c.expr := by
  simp only [resolveRef, bind_eq_ok, pure_eq_ok] at h
  obtain ⟨table, howner, rfl⟩ := h
  obtain ⟨hmem, _, hnamed⟩ := has_of_owner howner
  obtain rfl : table = root := List.mem_singleton.1 hmem
  have hspelled : (ref.table.map s.tableSpelling).map lowercase = ref.table := by
    rw [Option.map_map]
    refine Eq.trans (Option.map_congr fun name _ => ?_) htable
    exact Snapshot.lowercase_tableSpelling hs.isSpelled name
  have hfolded : (Expr.column (ref.table.map s.tableSpelling)
      (s.columnSpelling table ref.column)).folded = .column ref.table ref.column := by
    rw [Expr.folded, hspelled, hs.lowercase_columnSpelling, hcolumn]
  refine ⟨?_, ref, rfl, hfolded⟩
  have howned : ref.table.getD table = table := by
    cases hq : ref.table with
    | none => rfl
    | some named => exact hnamed named hq
  simp only [resolveRef, Resolved.folded, hfolded, howned]

theorem resolve_plain {raw : String} {c : Resolved}
    (h : Scope.resolve ⟨root, [], some s⟩ raw = .ok c) :
    Scope.resolve ⟨root, [], none⟩ raw = .ok c.folded ∧ Writes s root c.expr := by
  obtain ⟨ref, hparse, href⟩ := bind_eq_ok.1 h
  obtain ⟨htable, hcolumn⟩ := ColumnRef.lowercase_of_parse (mapError_eq_ok.1 hparse)
  obtain ⟨hplain, hwrites⟩ := resolveRef_plain hs hroot htable hcolumn href
  exact ⟨bind_eq_ok.2 ⟨ref, hparse, hplain⟩, hwrites⟩

theorem resolveOn_plain {raw : String} {c : Resolved}
    (h : Scope.resolveOn ⟨root, [], some s⟩ root raw = .ok c) :
    Scope.resolveOn ⟨root, [], none⟩ root raw = .ok c.folded := by
  obtain ⟨ref, hparse, href⟩ := bind_eq_ok.1 h
  obtain ⟨htable, hcolumn⟩ := ColumnRef.lowercase_of_parse (mapError_eq_ok.1 hparse)
  have hqualified : (some (ref.table.getD (lowercase root))).map lowercase =
      some (ref.table.getD (lowercase root)) := by
    cases hq : ref.table with
    | none => exact congrArg some (Text.lowercase_lowercase root)
    | some named =>
      rw [hq] at htable
      exact htable
  have hplain := fun hq hc => resolveRef_plain hs hroot hq hc href
  exact bind_eq_ok.2 ⟨ref, hparse, (hplain hqualified hcolumn).1⟩

end

end Scope

/-! ## Dates, dimensions and metrics -/

section

variable {root : String} {s : Snapshot}

theorem Bucket.folded_of (grain : Sql.Grain) (display : DisplayFormat) (date : Expr) :
    (Bucket.of grain display date).folded = Bucket.of grain display date.folded := by
  cases grain with
  | day => rfl
  | week => rfl
  | month => rfl

theorem Request.plainOrder_folded (bucket : Option Bucket) (dims : List Resolved) :
    (plainOrder bucket dims).map (·.folded) =
      plainOrder (bucket.map (·.folded)) (dims.map (·.folded)) := by
  cases bucket with
  | some b => rfl
  | none =>
    cases dims with
    | nil => rfl
    | cons d rest => rfl

theorem Request.selectItems_folded (bucket : Option Bucket) (dims : List Resolved)
    (metrics : List SelectItem) : (selectItems bucket dims metrics).map (·.folded) =
      selectItems (bucket.map (·.folded)) (dims.map (·.folded)) (metrics.map (·.folded)) := by
  have hperiods : ((bucket.map (·.select)).getD []).map (·.folded) =
      ((bucket.map (·.folded)).map (·.select)).getD [] := by
    cases bucket with
    | none => rfl
    | some b => rfl
  have hdims : (dims.map fun d => (⟨d.expr, none⟩ : SelectItem)).map (·.folded) =
      (dims.map (·.folded)).map fun d => ⟨d.expr, none⟩ := by
    rw [List.map_map, List.map_map]
    rfl
  unfold selectItems
  dsimp only
  rw [← hperiods, ← hdims, ← List.map_append, ← List.map_append, List.isEmpty_map]
  split
  · rfl
  · rfl

variable (hs : s.Built) (hroot : lowercase root = root)

include hs hroot

theorem Request.bucket?_plain {r : Request} {dated : Option (Resolved × Bucket)}
    (h : r.bucket? ⟨root, [], some s⟩ = .ok dated) :
    r.bucket? ⟨root, [], none⟩ = .ok (dated.map fun d => (d.1.folded, d.2.folded)) := by
  unfold bucket? at h ⊢
  split at h
  · rename_i grain column hgrain hcolumn
    obtain ⟨date, hdate, hsome⟩ := bind_eq_ok.1 h
    rw [pure_eq_ok] at hsome
    rw [← hsome, Option.map_some, Bucket.folded_of]
    exact bind_eq_ok.2 ⟨date.folded, Scope.resolveOn_plain hs hroot hdate, rfl⟩
  · cases h
    rfl

theorem Request.addDimension_plain {date : Option Resolved} {dims dims' : List Resolved}
    {raw : String} (hdims : ∀ d ∈ dims, Scope.Writes s root d.expr)
    (h : addDimension ⟨root, [], some s⟩ date dims raw = .ok dims') :
    addDimension ⟨root, [], none⟩ (date.map (·.folded)) (dims.map (·.folded)) raw =
        .ok (dims'.map (·.folded)) ∧ ∀ d ∈ dims', Scope.Writes s root d.expr := by
  obtain ⟨dim, hdim, hadd⟩ := bind_eq_ok.1 h
  obtain ⟨hplain, hwrites⟩ := Scope.resolve_plain hs hroot hdim
  have hdate : (date.map (·.folded)).any dim.folded.sameColumn = date.any dim.sameColumn := by
    cases date with
    | none => rfl
    | some d => rfl
  have hthere : (dims.map (·.folded)).any (·.expr == dim.folded.expr) =
      dims.any (·.expr == dim.expr) := by
    rw [List.any_map, Bool.eq_iff_iff, List.any_eq_true, List.any_eq_true]
    refine exists_congr fun d => and_congr_right fun hd => ?_
    exact Bool.eq_iff_iff.1 ((hdims d hd).beq_folded hwrites)
  rw [addDimension, bind_eq_ok]
  split at hadd
  · rename_i hskip
    rw [pure_eq_ok] at hadd
    subst hadd
    refine ⟨⟨dim.folded, hplain, ?_⟩, hdims⟩
    rw [hdate, hthere, if_pos hskip]
    rfl
  · rename_i hnew
    rw [pure_eq_ok] at hadd
    subst hadd
    refine ⟨⟨dim.folded, hplain, ?_⟩, List.forall_mem_append.2 ⟨hdims, ?_⟩⟩
    · rw [hdate, hthere, if_neg hnew, List.map_append]
      rfl
    · exact List.forall_mem_singleton.2 hwrites

theorem Metric.expr_plain {m : Metric} {e : Expr} (h : m.expr ⟨root, [], some s⟩ = .ok e) :
    m.expr ⟨root, [], none⟩ = .ok e.folded := by
  unfold expr at h ⊢
  split at h
  · rename_i hstar
    rw [if_pos hstar]
    split at h
    · rename_i hcount
      cases h
      rw [if_pos hcount]
      rfl
    · cases h
  · rename_i hstar
    obtain ⟨column, hcolumn, he⟩ := bind_eq_ok.1 h
    rw [pure_eq_ok] at he
    subst he
    rw [if_neg hstar]
    exact bind_eq_ok.2 ⟨column.folded, (Scope.resolve_plain hs hroot hcolumn).1, rfl⟩

theorem Metric.select_plain {m : Metric} {item : SelectItem}
    (h : m.select ⟨root, [], some s⟩ = .ok item) :
    m.select ⟨root, [], none⟩ = .ok item.folded := by
  obtain ⟨e, he, hitem⟩ := bind_eq_ok.1 h
  rw [pure_eq_ok] at hitem
  subst hitem
  exact bind_eq_ok.2 ⟨e.folded, m.expr_plain hs hroot he, rfl⟩

/-! ## Filters and order -/

theorem Filter.clause_plain {f : Filter} {bound : Nat} {e : Expr} {values : List String}
    (h : f.clause ⟨root, [], some s⟩ bound = .ok (e, values)) :
    f.clause ⟨root, [], none⟩ bound = .ok (e.folded, values) := by
  obtain ⟨column, hcolumn, hclause⟩ := bind_eq_ok.1 h
  have hplain := (Scope.resolve_plain hs hroot hcolumn).1
  rw [clause, bind_eq_ok]
  refine ⟨column.folded, hplain, ?_⟩
  cases hop : f.operator with
  | between =>
    simp only [hop, bind_eq_ok, pure_eq_ok] at hclause ⊢
    obtain ⟨⟨low, high⟩, hrange, hsome⟩ := hclause
    cases hsome
    exact ⟨(low, high), hrange, rfl⟩
  | _ =>
    simp only [hop] at hclause ⊢
    split at hclause
    · cases hclause
      split
      · rfl
      · rfl
    · cases hclause

theorem Predicate.ofFilters_plain {filters : List Filter} {p : Predicate}
    (h : ofFilters ⟨root, [], some s⟩ filters = .ok p) :
    ofFilters ⟨root, [], none⟩ filters = .ok p.folded := by
  refine foldlM_map_of_ok Predicate.folded (fun _ => True) (fun p q f _ _ hadd => ⟨?_, trivial⟩)
    trivial h
  unfold add at hadd ⊢
  split at hadd
  · rename_i hblank
    cases hadd
    rw [if_pos hblank]
  · rename_i hblank
    obtain ⟨⟨clause, values⟩, hclause, hq⟩ := bind_eq_ok.1 hadd
    rw [pure_eq_ok] at hq
    subst hq
    rw [if_neg hblank]
    refine bind_eq_ok.2 ⟨(clause.folded, values), f.clause_plain hs hroot hclause, ?_⟩
    cases hexpr : p.expr with
    | none => simp [folded, hexpr, pure, Except.pure]
    | some before => simp [folded, hexpr, pure, Except.pure, Expr.folded]

theorem Request.rankingOrder_plain {m : Metric} {selected : List SelectItem} {o : OrderItem}
    (h : rankingOrder m ⟨root, [], some s⟩ selected = .ok o) :
    rankingOrder m ⟨root, [], none⟩ (selected.map (·.folded)) = .ok o.folded := by
  have hnamed : (selected.map (·.folded)).any (·.alias? == some m.aliasName) =
      selected.any (·.alias? == some m.aliasName) := by
    rw [List.any_map]
    rfl
  unfold rankingOrder at h ⊢
  rw [hnamed]
  split at h
  · rename_i hselected
    cases h
    rw [if_pos hselected]
    rfl
  · rename_i hselected
    obtain ⟨e, he, ho⟩ := bind_eq_ok.1 h
    rw [pure_eq_ok] at ho
    subst ho
    rw [if_neg hselected]
    exact bind_eq_ok.2 ⟨e.folded, m.expr_plain hs hroot he, rfl⟩

theorem Request.rankedOrder_plain {r : Request} {selected : List SelectItem}
    {order orderBy : List OrderItem} {limit : Option Nat}
    (h : r.rankedOrder ⟨root, [], some s⟩ selected order = .ok (orderBy, limit)) :
    r.rankedOrder ⟨root, [], none⟩ (selected.map (·.folded)) (order.map (·.folded)) =
      .ok (orderBy.map (·.folded), limit) := by
  unfold rankedOrder at h ⊢
  split at h
  · obtain ⟨o, ho, hsome⟩ := bind_eq_ok.1 h
    rw [pure_eq_ok] at hsome
    cases hsome
    exact bind_eq_ok.2 ⟨o.folded, rankingOrder_plain hs hroot ho, rfl⟩
  · cases h
    rfl

end

/-! ## Statements -/

namespace Request

variable {r : Request} {s : Snapshot} {st : Statement}

/-- What the stages arrive at without the snapshot. -/
def Stages.folded (st : Stages) (root : String) : Stages where
  plan := JoinPlan.start ⟨root, [], none⟩
  dated := st.dated.map fun d => (d.1.folded, d.2.folded)
  dims := st.dims.map (·.folded)
  metrics := st.metrics.map (·.folded)
  predicate := st.predicate.folded
  orderBy := st.orderBy.map (·.folded)
  limit := st.limit

theorem Stages.items_folded (st : Stages) (root : String) :
    (st.folded root).items = st.items.map (·.folded) := by
  unfold items
  rw [selectItems_folded, bucket, bucket, folded, Option.map_map, Option.map_map]
  rfl

theorem Stages.of_folded {st : Stages} (hs : s.Built) (hjoins : r.joins = [])
    (h : st.Of r (some s)) : (st.folded r.root).Of r none := by
  have hroot : lowercase r.root = r.root := r.lowercase_root
  have hscope : st.scope = ⟨r.root, [], some s⟩ := by
    rw [h.scope_eq, Request.scope, hjoins, hroot]
    rfl
  have hdated := h.dated
  have hdims := h.dims
  have hmetrics := h.metrics
  have hpredicate := h.predicate
  have horder := h.order
  rw [hscope] at hdated hdims hmetrics hpredicate horder
  have hnone : ∀ d ∈ ([] : List Resolved), Scope.Writes s r.root d.expr :=
    fun d hd => absurd hd List.not_mem_nil
  refine ⟨h.valid, rfl, ?_, ?_, ?_, ?_, ?_, ?_⟩
  · rw [hjoins, hroot]
    rfl
  · exact bucket?_plain hs hroot hdated
  · have hdate : (st.folded r.root).dated.map (·.1) = (st.dated.map (·.1)).map (·.folded) := by
      rw [folded, Option.map_map, Option.map_map]
      rfl
    rw [hdate]
    refine foldlM_map_of_ok (List.map Resolved.folded)
      (fun dims => ∀ d ∈ dims, Scope.Writes s r.root d.expr)
      (fun dims dims' raw _ hwrites hadd => ?_) hnone hdims
    exact addDimension_plain hs hroot hwrites hadd
  · exact mapM_map_of_ok _ (fun m item hitem => m.select_plain hs hroot hitem) hmetrics
  · exact Predicate.ofFilters_plain hs hroot hpredicate
  · have hplain : (plainOrder st.bucket st.dims).map (·.folded) =
        plainOrder (st.folded r.root).bucket (st.folded r.root).dims := by
      rw [plainOrder_folded, bucket, bucket, folded, Option.map_map, Option.map_map]
      rfl
    have hranked := rankedOrder_plain hs hroot horder
    rw [items_folded, ← hplain]
    unfold folded
    exact hranked

theorem Stages.groupBy_folded (st : Stages) (root : String) :
    (st.folded root).groupBy = st.groupBy.map (·.folded) := by
  rw [groupBy, groupBy, List.map_append, bucket, bucket, folded, List.map_map, List.map_map]
  cases st.dated with
  | none => rfl
  | some d => rfl

theorem Stages.statement_folded {st : Stages} (hs : s.Built) (hjoins : r.joins = [])
    (h : st.Of r (some s)) : (st.folded r.root).statement r = (st.statement r).folded := by
  have hplan := h.plan
  rw [hjoins] at hplan
  have hclauses : st.plan.clauses = [] := by
    rw [← Except.ok.inj hplan]
    rfl
  have hsource : (⟨JoinPlan.spelling st.scope r.root, none⟩ : TableRef).folded =
      ⟨JoinPlan.spelling (st.folded r.root).scope r.root, none⟩ := by
    have hsnapshot : st.scope.snapshot? = some s := by rw [h.scope_eq, snapshot?_scope]
    rw [TableRef.folded, JoinPlan.spelling, hsnapshot]
    dsimp only
    rw [Snapshot.lowercase_tableSpelling hs.isSpelled, r.lowercase_root]
    rfl
  rw [statement, statement, Statement.folded, Select.folded, items_folded, groupBy_folded,
    hclauses, hsource]
  unfold folded
  rfl

/-- Without joins, a snapshot only checks, spells and types a statement: without it the request
compiles to the same statement with names in lower case and without casts, and to the same
parameters. -/
theorem compile_none_of_compile (hs : s.Built) (hjoins : r.joins = [])
    (h : r.compile (some s) = .ok st) :
    ∃ plain, r.compile none = .ok plain ∧ plain.query = st.query.folded ∧
      plain.query.folded = st.query.folded ∧ plain.params = st.params ∧ plain.table = st.table := by
  obtain ⟨stages, hstages, rfl⟩ := compile_eq_ok_iff.1 h
  refine ⟨(stages.statement r).folded, compile_eq_ok_iff.2 ⟨stages.folded r.root, ?_, ?_⟩, rfl,
    Select.folded_folded _, rfl, rfl⟩
  · exact Stages.of_folded hs hjoins hstages
  · exact (Stages.statement_folded hs hjoins hstages).symm

/-- Orders that cost more than some amount by month, in a spelling that is not the catalog's. -/
def dearOrders : Request where
  table := "ORDERS"
  dimensions := ["orders.STATUS", "status", "placed"]
  metrics := [{ column := "Total", aggregation := .sum }]
  filters := [
    { column := some "total", operator := .between, value := .array [Json.nat 10, Json.nat 20] },
    { column := some "Status", operator := .like, value := .string "paid" }]
  granularity := .monthly
  dateColumn := some "PLACED"
  top := some 3

def orderSheet : Snapshot :=
  ({} : Snapshot).addTyped "Orders" [("Placed", "date"), ("Status", "text"), ("total", "numeric")]

theorem compile_none_dearOrders : orderSheet.Built ∧ dearOrders.joins = [] ∧
    ∃ st, dearOrders.compile (some orderSheet) = .ok st ∧ st.query.source.name = "Orders" ∧
      ∃ plain, dearOrders.compile none = .ok plain ∧ plain.query = st.query.folded ∧
        plain.query.folded = st.query.folded ∧ plain.params = st.params ∧
        plain.table = st.table := by
  have hs : orderSheet.Built := .addTyped .empty _ _
  have hname : (dearOrders.compile (some orderSheet)).toOption.map (·.query.source.name) =
      some "Orders" := by decide +kernel
  obtain ⟨st, hst, hsource⟩ := Option.map_eq_some_iff.1 hname
  have hcompile := toOption_eq_some.1 hst
  exact ⟨hs, rfl, st, hcompile, hsource, compile_none_of_compile hs rfl hcompile⟩

end Request

end Granary
