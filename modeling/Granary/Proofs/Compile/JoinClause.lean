import Granary.Proofs.Compile.Catalog

/-!
# The clauses of joins

A statement has one clause for each requested join, in the order of the request.  A cross join has
no condition, and any other exactly one equality: the requested one, or else one between the table
joined before and the joined table.  For this a foreign key between the two is taken where the
catalog has one, and else a column that one table has as its key and the other has too.

`Snapshot.Joined` says of one clause what it has to do with its join.  Planning goes from join to
join, so what is known of the clauses before is only how many they are, which table was joined last
and which tables are in scope; `joined_of_add` is about one step, and `ofRequested_at` takes the
planning apart at any join.
-/

namespace Granary

open Outcome
open Schema (ForeignKey)
open Sql (Expr)
open Text (lowercase)

/-! ## How two tables belong together -/

namespace Snapshot

variable {s : Snapshot} {a b : String}

/-- A foreign key between two tables, in either direction. -/
def Declares (s : Snapshot) (a b : String) (fk : ForeignKey) : Prop :=
  fk ∈ s.foreignKeys ∧ (fk.referencingTable = a ∧ fk.referencedTable = b ∨
    fk.referencingTable = b ∧ fk.referencedTable = a)

/-- The leading key column of `owner` is also a column of `other`. -/
def Shares (s : Snapshot) (owner other column : String) : Prop :=
  s.leadingKey? owner = some column ∧ s.hasColumn other column = true

/-- Nothing in the catalog tells how two tables belong together. -/
structure Unrelated (s : Snapshot) (a b : String) : Prop where
  declared : ∀ fk, ¬ s.Declares a b fk
  shared : ∀ column, ¬ s.Shares a b column ∧ ¬ s.Shares b a column

/-- Two columns, each with its table, by which two tables belong together: one is on either table,
and they are those of a foreign key wherever there is one between the two. -/
structure Matches (s : Snapshot) (a b : String) (x y : String × String) : Prop where
  tables : x.1 = a ∧ y.1 = b ∨ x.1 = b ∧ y.1 = a
  declared : (∃ fk, s.Declares a b fk) → ∃ fk, s.Declares a b fk ∧
    x = (fk.referencingTable, fk.referencingColumn) ∧ y = (fk.referencedTable, fk.referencedColumn)
  shared : (∀ fk, ¬ s.Declares a b fk) → x.2 = y.2 ∧ s.Shares y.1 x.1 y.2

theorem find?_links_eq_none_iff :
    s.foreignKeys.find? (links a b) = none ↔ ∀ fk, ¬ s.Declares a b fk := by
  simp [Declares, links]

theorem declares_of_find? {fk : ForeignKey} (h : s.foreignKeys.find? (links a b) = some fk) :
    s.Declares a b fk := by
  refine ⟨List.mem_of_find?_eq_some h, ?_⟩
  simpa [links] using List.find?_some h

theorem keyByName_eq_some {owner other : String} {key : JoinKey}
    (h : s.keyByName owner other = some key) :
    ∃ column, s.Shares owner other column ∧ key = ⟨other, column, owner, column, .keyName⟩ := by
  obtain ⟨column, hleading, hkey⟩ := Option.bind_eq_some_iff.1 h
  split at hkey
  · rename_i hcolumn
    exact ⟨column, ⟨hleading, hcolumn⟩, (Option.some.inj hkey).symm⟩
  · cases hkey

theorem keyByName_eq_none_iff {owner other : String} :
    s.keyByName owner other = none ↔ ∀ column, ¬ s.Shares owner other column := by
  rw [keyByName]
  cases hleading : s.leadingKey? owner with
  | none => simp [Shares, hleading]
  | some column => simp [Shares, hleading]

theorem joinKey?_eq_none_iff (ha : lowercase a = a) (hb : lowercase b = b) :
    s.joinKey? a b = none ↔ s.Unrelated a b := by
  simp only [joinKey?, ha, hb]
  cases hfind : s.foreignKeys.find? (links a b) with
  | some fk =>
    have hdeclared := declares_of_find? hfind
    simp only [reduceCtorEq, false_iff]
    exact fun h => h.declared fk hdeclared
  | none =>
    simp only [Option.or_eq_none_iff, keyByName_eq_none_iff]
    exact ⟨fun h => ⟨find?_links_eq_none_iff.1 hfind, fun column => ⟨h.1 column, h.2 column⟩⟩,
      fun h => ⟨fun column => (h.shared column).1, fun column => (h.shared column).2⟩⟩

theorem matches_of_joinKey? (ha : lowercase a = a) (hb : lowercase b = b) {key : JoinKey}
    (h : s.joinKey? a b = some key) :
    s.Matches a b (key.referencingTable, key.referencingColumn)
      (key.referencedTable, key.referencedColumn) := by
  simp only [joinKey?, ha, hb] at h
  cases hfind : s.foreignKeys.find? (links a b) with
  | some fk =>
    have hdeclared := declares_of_find? hfind
    rw [hfind] at h
    obtain rfl := Option.some.inj h
    exact ⟨hdeclared.2, fun _ => ⟨fk, hdeclared, rfl, rfl⟩,
      fun hnone => absurd hdeclared (hnone fk)⟩
  | none =>
    have hnone := find?_links_eq_none_iff.1 hfind
    rw [hfind] at h
    have hfirst : ¬ ∃ fk, s.Declares a b fk := fun ⟨fk, hfk⟩ => hnone fk hfk
    obtain hkey | ⟨_, hkey⟩ := Option.or_eq_some_iff.1 h
    · obtain ⟨column, hshares, rfl⟩ := keyByName_eq_some hkey
      exact ⟨.inr ⟨rfl, rfl⟩, fun hsome => absurd hsome hfirst, fun _ => ⟨rfl, hshares⟩⟩
    · obtain ⟨column, hshares, rfl⟩ := keyByName_eq_some hkey
      exact ⟨.inl ⟨rfl, rfl⟩, fun hsome => absurd hsome hfirst, fun _ => ⟨rfl, hshares⟩⟩

/-! ## One clause -/

/-- A column written with its table, both as the catalog spells them. -/
def qualified (s : Snapshot) (x : String × String) : Expr :=
  .column (some (s.tableSpelling x.1)) (s.columnSpelling x.1 x.2)

/-- A column as it is written for a text that refers to it: one that a table of the query has, which
is the table that the text names, or else the given one, if there is such. -/
def Means (s : Snapshot) (tables : List String) (table? : Option String) (raw : String)
    (column : Option String × String) : Prop :=
  ∃ ref table, ColumnRef.parse raw = .ok ref ∧ (∀ named ∈ ref.table.or table?, named = table) ∧
    s.Spells tables column table ref.column

/-- What a clause has to do with its join, where `tables` are in scope with the joined one and
`previous` was joined before it. -/
structure Joined (s : Snapshot) (tables : List String) (previous : String) (j : Requested.Join)
    (clause : Sql.Join) : Prop where
  kind : clause.kind = j.kind
  table : s.hasTable j.key = true ∧ clause.table = ⟨s.tableSpelling j.key, none⟩
  cross : clause.conditions = [] ↔ j.kind = .cross
  found : j.kind ≠ .cross → j.on = none → ∃ x y, s.Matches previous j.key x y ∧
    clause.conditions = [.binary .eq (s.qualified x) (s.qualified y)]
  stated : ∀ on, j.kind ≠ .cross → j.on = some on → ∃ left right, s.Means tables none on.left left ∧
    s.Means tables (some j.key) on.right right ∧
    clause.conditions = [.binary .eq (.column left.1 left.2) (.column right.1 right.2)]

theorem Means.mono {tables tables' : List String} (h : ∀ t ∈ tables, t ∈ tables')
    {table? : Option String} {raw : String} {column : Option String × String}
    (hm : s.Means tables table? raw column) : s.Means tables' table? raw column := by
  obtain ⟨ref, table, hparse, hnamed, hspells⟩ := hm
  exact ⟨ref, table, hparse, hnamed, { hspells with table_mem := h _ hspells.table_mem }⟩

theorem Joined.mono {tables tables' : List String} (h : ∀ t ∈ tables, t ∈ tables')
    {previous : String} {j : Requested.Join} {clause : Sql.Join}
    (hj : s.Joined tables previous j clause) : s.Joined tables' previous j clause := by
  refine { hj with stated := fun on hkind hon => ?_ }
  obtain ⟨left, right, hleft, hright, hconditions⟩ := hj.stated on hkind hon
  exact ⟨left, right, hleft.mono h, hright.mono h, hconditions⟩

end Snapshot

namespace Scope

variable {scope : Scope} {s : Snapshot} {c : Resolved}

theorem means_of_resolveRef (hs : scope.snapshot? = some s) {ref : ColumnRef}
    (h : scope.resolveRef ref = .ok c) : ∃ column : Option String × String,
      c.expr = .column column.1 column.2 ∧ ∃ table, (∀ named ∈ ref.table, named = table) ∧
        s.Spells scope.tables column table ref.column := by
  obtain ⟨column, hexpr, hspells⟩ := spells_of_resolveRef hs h
  simp only [resolveRef, hs, bind_eq_ok, pure_eq_ok] at h
  obtain ⟨table, howner, rfl⟩ := h
  obtain ⟨_, _, hnamed⟩ := has_of_owner howner
  exact ⟨column, hexpr, table, hnamed, hspells⟩

theorem means_of_resolve (hs : scope.snapshot? = some s) {raw : String}
    (h : scope.resolve raw = .ok c) : ∃ column : Option String × String,
      c.expr = .column column.1 column.2 ∧ s.Means scope.tables none raw column := by
  simp only [resolve, bind_eq_ok, mapError_eq_ok] at h
  obtain ⟨ref, hparse, href⟩ := h
  obtain ⟨column, hexpr, table, hnamed, hspells⟩ := means_of_resolveRef hs href
  exact ⟨column, hexpr, ref, table, hparse, by rwa [Option.or_none], hspells⟩

theorem means_of_resolveOn (hs : scope.snapshot? = some s) {table raw : String}
    (h : scope.resolveOn table raw = .ok c) : ∃ column : Option String × String,
      c.expr = .column column.1 column.2 ∧
        s.Means scope.tables (some (lowercase table)) raw column := by
  simp only [resolveOn, bind_eq_ok, mapError_eq_ok] at h
  obtain ⟨ref, hparse, href⟩ := h
  obtain ⟨column, hexpr, owner, hnamed, hspells⟩ := means_of_resolveRef hs href
  have hor : ref.table.or (some (lowercase table)) = some (ref.table.getD (lowercase table)) := by
    cases ref.table <;> rfl
  exact ⟨column, hexpr, ref, owner, hparse, by rwa [hor], hspells⟩

end Scope

/-! ## Planning -/

namespace JoinPlan

variable {s : Snapshot} {plan plan' next : JoinPlan} {j : Requested.Join}

/-- One step of the planning adds one clause, which is that of its join. -/
theorem joined_of_add (hs : plan.scope.snapshot? = some s)
    (hprevious : lowercase plan.previous = plan.previous) (h : plan.add j = .ok next) :
    ∃ clause, next.clauses = plan.clauses ++ [clause] ∧
      s.Joined (plan.scope.add j.key).tables plan.previous j clause := by
  obtain ⟨hcheck, conditions, hconditions, rfl⟩ := add_eq_ok_iff.1 h
  have hadded : (plan.scope.add j.key).snapshot? = some s := by rw [Scope.snapshot?_add, hs]
  have htable : s.hasTable j.key = true := by
    have hmet := (decides_checkTable hs j.key).eq_ok_iff.1 ⟨(), hcheck⟩
    exact hmet _ List.mem_cons_self
  refine ⟨_, rfl, ?_⟩
  have hspelling : spelling plan.scope j.key = s.tableSpelling j.key := by rw [spelling, hs]
  rw [hspelling]
  unfold JoinPlan.conditions at hconditions
  split at hconditions
  · rename_i hkind
    cases hconditions
    exact ⟨rfl, ⟨htable, rfl⟩, iff_of_true rfl hkind, fun hcross => absurd hkind hcross,
      fun _ hcross => absurd hkind hcross⟩
  · rename_i on hon hkind
    simp only [bind_eq_ok, pure_eq_ok] at hconditions
    obtain ⟨left, hleft, right, hright, rfl⟩ := hconditions
    obtain ⟨x, hx, hmeansx⟩ := Scope.means_of_resolve hadded hleft
    obtain ⟨y, hy, hmeansy⟩ := Scope.means_of_resolveOn hadded hright
    rw [j.lowercase_key] at hmeansy
    refine ⟨rfl, ⟨htable, rfl⟩, iff_of_false (by simp) hkind, fun _ hnone => ?_,
      fun on' _ hon' => ?_⟩
    · rw [hon] at hnone
      cases hnone
    · rw [hon] at hon'
      obtain rfl := Option.some.inj hon'
      exact ⟨x, y, hmeansx, hmeansy, by rw [hx, hy]⟩
  · rename_i hon hkind
    simp only [hs] at hconditions
    split at hconditions
    · cases hconditions
    · rename_i key hkey
      cases hconditions
      refine ⟨rfl, ⟨htable, rfl⟩, iff_of_false (by simp) hkind, fun _ _ => ?_, fun on' _ hon' => ?_⟩
      · exact ⟨_, _, Snapshot.matches_of_joinKey? hprevious j.lowercase_key hkey, rfl⟩
      · rw [hon] at hon'
        cases hon'

theorem previous_foldlM {joins : List Requested.Join} (h : joins.foldlM add plan = .ok plan') :
    plan'.previous = (joins.map (·.key)).getLastD plan.previous := by
  induction joins generalizing plan with
  | nil =>
    rw [List.foldlM_nil, pure_eq_ok] at h
    rw [← h]
    rfl
  | cons j rest ih =>
    rw [List.foldlM_cons, bind_eq_ok] at h
    obtain ⟨next, hnext, hrest⟩ := h
    obtain ⟨_, conditions, _, rfl⟩ := add_eq_ok_iff.1 hnext
    rw [ih hrest, List.map_cons, List.getLastD_cons]

/-- The table that was joined last is named by its key. -/
theorem lowercase_lastKey {root : String} (hroot : lowercase root = root)
    (joins : List Requested.Join) :
    lowercase ((joins.map (·.key)).getLastD root) = (joins.map (·.key)).getLastD root := by
  obtain rfl | ⟨init, last, rfl⟩ := List.eq_nil_or_concat joins
  · exact hroot
  · simp [Requested.Join.lowercase_key]

/-- Planning leaves the clauses that are there and adds one for each join. -/
theorem clauses_foldlM {joins : List Requested.Join} (h : joins.foldlM add plan = .ok plan') :
    ∃ more, plan'.clauses = plan.clauses ++ more ∧ more.length = joins.length := by
  induction joins generalizing plan with
  | nil =>
    rw [List.foldlM_nil, pure_eq_ok] at h
    exact ⟨[], by simp [h], rfl⟩
  | cons j rest ih =>
    rw [List.foldlM_cons, bind_eq_ok] at h
    obtain ⟨next, hnext, hrest⟩ := h
    obtain ⟨_, conditions, _, rfl⟩ := add_eq_ok_iff.1 hnext
    obtain ⟨more, hclauses, hlength⟩ := ih hrest
    exact ⟨_ :: more, by rw [hclauses, List.append_assoc, List.singleton_append], by simp [hlength]⟩

/-- At every join of a planning that succeeds. -/
theorem joined_of_foldlM (hs : plan.scope.snapshot? = some s)
    (hprevious : lowercase plan.previous = plan.previous) {joins before after : List Requested.Join}
    (h : joins.foldlM add plan = .ok plan') (hjoins : joins = before ++ j :: after) :
    ∃ clause, plan'.clauses[plan.clauses.length + before.length]? = some clause ∧
      s.Joined (plan.scope.tables ++ before.map (·.key) ++ [j.key])
        ((before.map (·.key)).getLastD plan.previous) j clause := by
  rw [hjoins, List.foldlM_append, bind_eq_ok] at h
  obtain ⟨mid, hmid, h⟩ := h
  rw [List.foldlM_cons, bind_eq_ok] at h
  obtain ⟨next, hnext, hafter⟩ := h
  obtain ⟨more, hmore, hlength⟩ := clauses_foldlM hmid
  obtain ⟨rest, hrest, _⟩ := clauses_foldlM hafter
  have hscope := scope_foldlM hmid
  have hmids : mid.scope.snapshot? = some s := by rw [hscope, Scope.snapshot?_foldl_add, hs]
  have hlast : lowercase mid.previous = mid.previous := by
    rw [previous_foldlM hmid]
    exact lowercase_lastKey hprevious before
  obtain ⟨clause, hclause, hjoined⟩ := joined_of_add hmids hlast hnext
  rw [previous_foldlM hmid] at hjoined
  refine ⟨clause, ?_, hjoined.mono fun t ht => ?_⟩
  · rw [hrest, hclause, hmore, ← hlength, ← List.length_append]
    simp
  · have hkeys : (before.map (·.key)).map lowercase = before.map (·.key) := by
      rw [List.map_map]
      exact List.map_congr_left fun join _ => join.lowercase_key
    rw [mem_tables_add_key_iff, List.mem_append, hscope, Scope.mem_tables_foldl_add, hkeys] at ht
    rwa [List.mem_append, List.mem_append]

/-! ## Where planning stops -/

theorem requirementsAll_append (scope : Scope) (previous : String)
    (before after : List Requested.Join) :
    requirementsAll s scope previous (before ++ after) =
      requirementsAll s scope previous before ++
        requirementsAll s ((before.map (·.key)).foldl Scope.add scope)
          ((before.map (·.key)).getLastD previous) after := by
  induction before generalizing scope previous with
  | nil => rfl
  | cons j rest ih =>
    rw [List.cons_append, requirementsAll, ih, requirementsAll, List.append_assoc, List.map_cons,
      List.foldl_cons, List.getLastD_cons]

/-- A join whose condition only the catalog could tell stops the planning where nothing does. -/
theorem firstUnmet_of_unrelated {scope : Scope} {previous : String} {j : Requested.Join}
    (hprevious : lowercase previous = previous) (hkind : j.kind ≠ .cross)
    (htable : s.hasTable j.key = true) (hon : j.on = none) (h : s.Unrelated previous j.key) :
    Requirement.firstUnmet (requirements s scope previous j) =
      some (.joinNotFound previous j.key) := by
  have hnone := (Snapshot.joinKey?_eq_none_iff hprevious j.lowercase_key).2 h
  unfold requirements linkRequirements
  rw [htable, hon, hnone]
  cases hj : j.kind with
  | cross => exact absurd hj hkind
  | _ => rfl

end JoinPlan

namespace Request

variable {r : Request} {s : Snapshot}

/-- The table that was joined last by some joins, which is the root if there are none. -/
def lastJoined (r : Request) (before : List Requested.Join) : String :=
  (before.map (·.key)).getLastD r.root

theorem joined_of_compile {st : Statement} (h : r.compile (some s) = .ok st)
    {before after : List Requested.Join} {j : Requested.Join}
    (hjoins : r.joins = before ++ j :: after) :
    ∃ clause, st.query.joins[before.length]? = some clause ∧
      s.Joined (r.root :: before.map (·.key) ++ [j.key]) (r.lastJoined before) j clause := by
  obtain ⟨st, hst, rfl⟩ := compile_eq_ok_iff.1 h
  have hplan := hst.plan
  rw [lowercase_root] at hplan
  have hroot : lowercase (JoinPlan.start ⟨r.root, [], some s⟩).previous =
      (JoinPlan.start ⟨r.root, [], some s⟩).previous := lowercase_root r
  obtain ⟨clause, hclause, hjoined⟩ := JoinPlan.joined_of_foldlM rfl hroot hplan hjoins
  refine ⟨clause, ?_, hjoined⟩
  simpa [JoinPlan.start, Stages.statement] using hclause

theorem length_joins_of_compile {st : Statement} (h : r.compile (some s) = .ok st) :
    st.query.joins.length = r.joins.length := by
  obtain ⟨st, hst, rfl⟩ := compile_eq_ok_iff.1 h
  obtain ⟨more, hclauses, hlength⟩ := JoinPlan.clauses_foldlM hst.plan
  simpa [JoinPlan.start, Stages.statement, hclauses] using hlength

/-- A join is possible behind some joins of the request. -/
def Plans (r : Request) (s : Snapshot) (before : List Requested.Join) (j : Requested.Join) : Prop :=
  s.Joins (r.root :: before.map (·.key)) (r.lastJoined before) j

/-- The first join that is not possible has no condition of its own, and the catalog tells none. -/
structure StopsAt (r : Request) (s : Snapshot) (before : List Requested.Join)
    (j : Requested.Join) : Prop where
  within : ∃ after, r.joins = before ++ j :: after
  planned : ∀ earlier k later, before = earlier ++ k :: later → r.Plans s earlier k
  kind : j.kind ≠ .cross
  on : j.on = none
  known : s.hasTable (r.lastJoined before) = true ∧ s.hasTable j.key = true
  unrelated : s.Unrelated (r.lastJoined before) j.key

theorem joinNotFound_of_stopsAt {before : List Requested.Join} {j : Requested.Join}
    (hvalid : r.validate = .ok ()) (hroot : s.hasTable r.root = true) (h : r.StopsAt s before j) :
    r.compile (some s) = .error (.joinNotFound (r.lastJoined before) j.key) := by
  obtain ⟨after, hjoins⟩ := h.within
  have hnone : ∀ stage, Requirement.firstUnmet (r.requirementsAt s stage) = none ↔
      r.Fulfils s stage := fun stage =>
    Requirement.firstUnmet_eq_none_iff.trans (fulfils_iff stage)
  rw [(compile_decided r s).eq_error_iff, requirements, Requirement.firstUnmet_flatMap_iff]
  refine ⟨[.validation, .root], .joins, _, rfl, ?_, ?_⟩
  · simp only [List.forall_mem_cons, hnone]
    exact ⟨hvalid, hroot, fun _ h => absurd h List.not_mem_nil⟩
  · have hscope : ∀ t, t ∈ (⟨r.root, [], some s⟩ : Scope).tables ↔ t ∈ [r.root] := fun t => Iff.rfl
    have hplanned := (JoinPlan.joinsAll_iff hscope r.root before).2 h.planned
    rw [requirementsAt, hjoins, JoinPlan.requirementsAll_append, Requirement.firstUnmet_append,
      Requirement.firstUnmet_eq_none_iff.2 hplanned, Option.none_or, JoinPlan.requirementsAll,
      Requirement.firstUnmet_append]
    have hlast := JoinPlan.lowercase_lastKey (lowercase_root r) before
    rw [JoinPlan.firstUnmet_of_unrelated hlast h.kind h.known.2 h.on h.unrelated]
    rfl

/-- The joins of a request become clauses one by one, each with the condition that its kind, its own
words or the catalog give it; and where the catalog gives none, the compilation stops with the two
tables.  Before it plans a join it checks the request and looks for the root table. -/
theorem planned_of_compile (r : Request) (s : Snapshot) :
    (∀ st, r.compile (some s) = .ok st → st.query.joins.length = r.joins.length ∧
      ∀ before j after, r.joins = before ++ j :: after → ∃ clause,
        st.query.joins[before.length]? = some clause ∧
        s.Joined (r.root :: before.map (·.key) ++ [j.key]) (r.lastJoined before) j clause) ∧
    (r.validate = .ok () → s.hasTable r.root = true → ∀ before j, r.StopsAt s before j →
      r.compile (some s) = .error (.joinNotFound (r.lastJoined before) j.key)) := by
  refine ⟨fun st h => ⟨length_joins_of_compile h, fun before j after hjoins => ?_⟩,
    fun hvalid hroot before j h => joinNotFound_of_stopsAt hvalid hroot h⟩
  exact joined_of_compile h hjoins

/-- Parcels of customers: an address refers to its customer as an order does, labels are only known
by the name of their key, and nothing refers to the stock. -/
def parcelCatalog : Snapshot :=
  ({} : Snapshot)
    |>.addTyped "orders" [("id", "int4"), ("customer_id", "int4")]
    |>.addTyped "Customers" [("id", "int4")]
    |>.addTyped "addresses" [("customer_id", "int4"), ("city", "text")]
    |>.addTyped "tags" [("order_id", "int4"), ("label_id", "int4")]
    |>.addTyped "labels" [("label_id", "int4"), ("name", "text")]
    |>.addTyped "stock" [("total", "int4")]
    |>.setPrimaryKey "labels" ["label_id"]
    |>.addForeignKey "orders" "customer_id" "customers" "id"
    |>.addForeignKey "addresses" "customer_id" "customers" "id"

def ofCustomers : Requested.Join where
  table := "customers"
  kind := .left

/-- An order with all that belongs to it, beside the stock. -/
def parcels : Request where
  table := "orders"
  joins := [
    ofCustomers,
    { table := "addresses" },
    { table := "tags", kind := .full, on := some ⟨"orders.id", "order_id"⟩ },
    { table := "labels" },
    { table := "stock", kind := .cross }]

/-- The stock again, as if it belonged to the customers. -/
def stockOfCustomers : Request :=
  { parcels with joins := [ofCustomers, { table := "stock" }] }

theorem planned_of_parcels :
    (∃ st, parcels.compile (some parcelCatalog) = .ok st ∧ st.query.joins.length = 5 ∧
      ∃ clause, st.query.joins[1]? = some clause ∧ clause.conditions = [.binary .eq
        (.column (some "addresses") "customer_id") (.column (some "Customers") "id")]) ∧
    stockOfCustomers.compile (some parcelCatalog) = .error (.joinNotFound "customers" "stock") := by
  have hcustomers : ofCustomers.key = "customers" := by decide +kernel
  constructor
  · have hok : (parcels.compile (some parcelCatalog)).toOption.isSome = true := by decide +kernel
    obtain ⟨st, hst⟩ := Option.isSome_iff_exists.1 hok
    rw [toOption_eq_some] at hst
    obtain ⟨hlength, hall⟩ := (planned_of_compile parcels parcelCatalog).1 st hst
    obtain ⟨clause, hclause, hjoined⟩ := hall [ofCustomers] { table := "addresses" } _ rfl
    obtain ⟨x, y, hmatches, hconditions⟩ := hjoined.found (by decide) rfl
    refine ⟨st, hst, hlength, clause, hclause, hconditions.trans ?_⟩
    have hlast : parcels.lastJoined [ofCustomers] = "customers" := hcustomers
    have haddresses : ({ table := "addresses" } : Requested.Join).key = "addresses" := by
      decide +kernel
    have hkeys : parcelCatalog.foreignKeys = [⟨"orders", "customer_id", "customers", "id"⟩,
        ⟨"addresses", "customer_id", "customers", "id"⟩] := by decide +kernel
    have hspelled : parcelCatalog.tableSpelling "addresses" = "addresses" ∧
        parcelCatalog.columnSpelling "addresses" "customer_id" = "customer_id" ∧
        parcelCatalog.tableSpelling "customers" = "Customers" ∧
        parcelCatalog.columnSpelling "customers" "id" = "id" := by decide +kernel
    rw [hlast, haddresses] at hmatches
    -- Of the two foreign keys only the second is between customers and addresses.
    obtain ⟨fk, ⟨hmem, hends⟩, rfl, rfl⟩ := hmatches.declared
      ⟨⟨"addresses", "customer_id", "customers", "id"⟩, by simp [hkeys], .inr ⟨rfl, rfl⟩⟩
    rw [hkeys] at hmem
    obtain rfl | rfl : fk = _ ∨ fk = _ := by simpa using hmem
    · simp at hends
    · simp only [Snapshot.qualified, hspelled]
  · have hplans : stockOfCustomers.Plans parcelCatalog [] ofCustomers :=
      ⟨by decide +kernel, fun _ _ => by decide +kernel, (fun _ _ hon => nomatch hon),
        (fun _ _ hon => nomatch hon)⟩
    have hunrelated : parcelCatalog.Unrelated "customers" "stock" :=
      (Snapshot.joinKey?_eq_none_iff (by decide +kernel) (by decide +kernel)).1 (by decide +kernel)
    have hlast : stockOfCustomers.lastJoined [ofCustomers] = "customers" := hcustomers
    have hstock : ({ table := "stock" } : Requested.Join).key = "stock" := by decide +kernel
    have hstops : stockOfCustomers.StopsAt parcelCatalog [ofCustomers] { table := "stock" } := by
      refine ⟨⟨[], rfl⟩, fun earlier k later heq => ?_, by decide, rfl, by decide +kernel, ?_⟩
      · cases earlier with
        | nil =>
          obtain ⟨rfl, _⟩ := List.cons.inj heq
          exact hplans
        | cons first rest =>
          obtain ⟨_, heq⟩ := List.cons.inj heq
          simp at heq
      · rwa [hlast, hstock]
    have hstop := (planned_of_compile stockOfCustomers parcelCatalog).2 (by decide +kernel)
      (by decide +kernel) _ _ hstops
    rwa [hlast, hstock] at hstop

/-- The same with a filter whose value is no range. -/
def stockInNoRange : Request where
  table := "orders"
  joins := [{ table := "stock" }]
  filters := [{ column := some "id", operator := .between, value := Json.nat 5 }]

/-- A request is checked before its joins are planned, so a join that is not possible need not be
what is told of. -/
theorem stopsAt_not_joinNotFound :
    ¬ ∀ (r : Request) (s : Snapshot) before j, r.StopsAt s before j →
      r.compile (some s) = .error (.joinNotFound (r.lastJoined before) j.key) := by
  intro hall
  have hroot : stockInNoRange.lastJoined [] = "orders" := by decide +kernel
  have hstock : ({ table := "stock" } : Requested.Join).key = "stock" := by decide +kernel
  have hunrelated : parcelCatalog.Unrelated "orders" "stock" :=
    (Snapshot.joinKey?_eq_none_iff (by decide +kernel) (by decide +kernel)).1 (by decide +kernel)
  have hstops : stockInNoRange.StopsAt parcelCatalog [] { table := "stock" } :=
    ⟨⟨[], rfl⟩, fun earlier k later heq => by simp at heq, by decide, rfl, by decide +kernel,
      by rwa [hroot, hstock]⟩
  have hinvalid : stockInNoRange.validate = .error (.betweenWantsPair "id") := by decide +kernel
  have hrefused : stockInNoRange.compile (some parcelCatalog) =
      .error (.validation (.betweenWantsPair "id")) := by
    rw [compile, hinvalid]
    rfl
  rw [hall _ _ _ _ hstops] at hrefused
  cases hrefused

end Request
end Granary
