import Granary.Proofs.Compile.Requirement
import Granary.Proofs.Sql.Name

/-!
# Names that come from the catalog

A statement compiled against a snapshot names tables and columns as the catalog spells them, and
casts values to types that the catalog gives.  What a request calls them is only looked up.

Columns get into a statement by references, which are checked when they are resolved, and by the
keys that tell how two tables belong together, which are not: a key of the catalog may name a column
that is not there.  So it is assumed that keys name columns that exist.

`catalog_of_compile` says this of the expressions of a statement and of its text.
-/

namespace Granary

open Outcome
open Sql (Expr OrderItem Parameter Select SelectItem Token lex parametersAll)
open Text (lowercase)

/-! ## What a catalog contains -/

namespace Schema.Table

/-- All texts that a catalog has for a table: its name, the names of its columns and their types. -/
def texts (t : Table) : List String :=
  t.spelling :: (t.columns ++ t.spellings.map (·.2) ++ t.types.map (·.2))

end Schema.Table

namespace Snapshot

variable {s : Snapshot}

def texts (s : Snapshot) : List String := s.tables.flatMap (·.texts)

/-- The columns of keys are columns of tables. -/
structure KeysExist (s : Snapshot) : Prop where
  primary : ∀ key ∈ s.primaryKeys, ∀ column ∈ key.2, s.hasColumn key.1 column = true
  foreign : ∀ fk ∈ s.foreignKeys, s.hasColumn fk.referencingTable fk.referencingColumn = true ∧
    s.hasColumn fk.referencedTable fk.referencedColumn = true

/-- A column is written, with or without its table, as the catalog spells a column that one of some
tables has. -/
structure Spells (s : Snapshot) (tables : List String) (column : Option String × String)
    (table key : String) : Prop where
  table_mem : table ∈ tables
  hasColumn : s.hasColumn table key = true
  qualifier : column.1 = none ∨ column.1 = some (s.tableSpelling table)
  name : column.2 = s.columnSpelling table key

theorem mem_texts {t : Schema.Table} {name text : String} (ht : s.table? name = some t)
    (h : text ∈ t.texts) : text ∈ s.texts :=
  List.mem_flatMap.2 ⟨t, List.mem_of_find?_eq_some ht, h⟩

theorem hasColumn_eq_true_iff {table column : String} : s.hasColumn table column = true ↔
    ∃ t, s.table? table = some t ∧ lowercase column ∈ t.columns := by
  unfold hasColumn columns?
  cases s.table? table with
  | none => simp
  | some t => simp

theorem hasTable_of_hasColumn {table column : String} (h : s.hasColumn table column = true) :
    s.hasTable table = true := by
  obtain ⟨t, ht, _⟩ := hasColumn_eq_true_iff.1 h
  rw [hasTable, ht]
  rfl

theorem tableSpelling_mem_texts {table : String} (h : s.hasTable table = true) :
    s.tableSpelling table ∈ s.texts := by
  obtain ⟨t, ht⟩ := Option.isSome_iff_exists.1 h
  rw [tableSpelling, ht]
  exact mem_texts ht List.mem_cons_self

theorem columnSpelling_mem_texts {table column : String} (h : s.hasColumn table column = true) :
    s.columnSpelling table column ∈ s.texts := by
  obtain ⟨t, ht, hcolumn⟩ := hasColumn_eq_true_iff.1 h
  rw [columnSpelling, ht, Option.bind_some]
  refine mem_texts ht (List.mem_cons_of_mem _ (List.mem_append_left _ ?_))
  cases hspelling : t.spellings.get? (lowercase column) with
  | none => exact List.mem_append_left _ hcolumn
  | some spelling =>
    exact List.mem_append_right _
      (List.mem_map.2 ⟨_, Named.mem_of_get?_eq_some hspelling, rfl⟩)

theorem columnType?_mem_texts {table column type : String}
    (h : s.columnType? table column = some type) : type ∈ s.texts := by
  obtain ⟨t, ht, htype⟩ := Option.bind_eq_some_iff.1 h
  exact mem_texts ht (List.mem_cons_of_mem _ (List.mem_append_right _
    (List.mem_map.2 ⟨_, Named.mem_of_get?_eq_some htype, rfl⟩)))

theorem Spells.mem_texts {tables : List String} {column : Option String × String}
    {table key : String} (h : s.Spells tables column table key) :
    ∀ text ∈ column.1.toList ++ [column.2], text ∈ s.texts := by
  refine List.forall_mem_append.2 ⟨fun text htext => ?_, List.forall_mem_singleton.2 ?_⟩
  · obtain hnone | hsome := h.qualifier
    · rw [hnone] at htext
      cases htext
    · rw [hsome, Option.toList_some, List.mem_singleton] at htext
      rw [htext]
      exact tableSpelling_mem_texts (hasTable_of_hasColumn h.hasColumn)
  · rw [h.name]
    exact columnSpelling_mem_texts h.hasColumn

/-! ## Keys -/

/-- The leading column of a table's key is a column of the table. -/
theorem KeysExist.leading (h : s.KeysExist) {owner pk : String}
    (hpk : s.leadingKey? owner = some pk) : s.hasColumn (lowercase owner) pk = true := by
  rw [leadingKey?, primaryKeyOf] at hpk
  cases hkey : s.primaryKeys.get? (lowercase owner) with
  | none => simp [hkey] at hpk
  | some columns =>
    rw [hkey, Option.getD_some] at hpk
    exact h.primary _ (Named.mem_of_get?_eq_some hkey) pk (List.mem_of_mem_head? hpk)

/-- Both sides of a key are columns of the tables that it joins. -/
structure Links (s : Snapshot) (a b : String) (key : JoinKey) : Prop where
  referencing_mem : key.referencingTable = a ∨ key.referencingTable = b
  referenced_mem : key.referencedTable = a ∨ key.referencedTable = b
  referencing : s.hasColumn key.referencingTable key.referencingColumn = true
  referenced : s.hasColumn key.referencedTable key.referencedColumn = true

theorem KeysExist.keyByName (h : s.KeysExist) {owner other : String} {key : JoinKey}
    (hkey : s.keyByName owner other = some key) (howner : lowercase owner = owner) :
    key.referencingTable = other ∧ key.referencedTable = owner ∧
      s.hasColumn key.referencingTable key.referencingColumn = true ∧
      s.hasColumn key.referencedTable key.referencedColumn = true := by
  obtain ⟨pk, hpk, hother⟩ := Option.bind_eq_some_iff.1 hkey
  split at hother
  · rename_i hhas
    cases hother
    have hleading := h.leading hpk
    rw [howner] at hleading
    exact ⟨rfl, rfl, hhas, hleading⟩
  · cases hother

theorem KeysExist.joinKey? (h : s.KeysExist) {a b : String} {key : JoinKey}
    (hkey : s.joinKey? a b = some key) : s.Links (lowercase a) (lowercase b) key := by
  unfold Snapshot.joinKey? at hkey
  dsimp only at hkey
  split at hkey
  · rename_i fk hfk
    cases hkey
    obtain ⟨hreferencing, hreferenced⟩ := h.foreign fk (List.mem_of_find?_eq_some hfk)
    have hlinks := List.find?_some hfk
    simp only [links, Bool.or_eq_true, Bool.and_eq_true, beq_iff_eq] at hlinks
    obtain ⟨hfrom, hto⟩ | ⟨hfrom, hto⟩ := hlinks
    · exact ⟨.inl hfrom, .inr hto, hreferencing, hreferenced⟩
    · exact ⟨.inr hfrom, .inl hto, hreferencing, hreferenced⟩
  · obtain hab | ⟨_, hba⟩ := Option.or_eq_some_iff.1 hkey
    · obtain ⟨hfrom, hto, hreferencing, hreferenced⟩ :=
        h.keyByName hab (Text.lowercase_lowercase a)
      exact ⟨.inr hfrom, .inl hto, hreferencing, hreferenced⟩
    · obtain ⟨hfrom, hto, hreferencing, hreferenced⟩ :=
        h.keyByName hba (Text.lowercase_lowercase b)
      exact ⟨.inl hfrom, .inr hto, hreferencing, hreferenced⟩

end Snapshot

/-! ## References -/

namespace Scope

variable {scope : Scope} {s : Snapshot}

theorem has_of_owner {ref : ColumnRef} {table : String} (h : scope.owner s ref = .ok table) :
    table ∈ scope.tables ∧ s.hasColumn table ref.column = true ∧
      ∀ named ∈ ref.table, named = table := by
  have hmet := (decides_owner scope s ref).eq_ok_iff.1 ⟨table, h⟩
  unfold owner at h
  unfold referenceRequirements at hmet
  cases hnamed : ref.table with
  | some named =>
    simp only [hnamed, List.forall_mem_cons] at hmet
    obtain ⟨htable, hcolumn, _⟩ := hmet
    simp only [hnamed, htable, hcolumn] at h
    cases h
    exact ⟨List.contains_iff_mem.1 htable, hcolumn, fun _ hsame => (Option.mem_some.1 hsame).symm⟩
  | none =>
    simp only [hnamed] at h
    split at h
    · rename_i found hfind
      cases h
      have hhas : s.hasColumn table ref.column = true := by simpa using List.find?_some hfind
      exact ⟨List.mem_of_find?_eq_some hfind, hhas, fun _ hsome => nomatch hsome⟩
    · cases h

theorem spells_of_resolveRef (hs : scope.snapshot? = some s) {ref : ColumnRef} {c : Resolved}
    (h : scope.resolveRef ref = .ok c) : ∃ column : Option String × String,
      c.expr = .column column.1 column.2 ∧ s.Spells scope.tables column c.table c.column := by
  simp only [resolveRef, hs, bind_eq_ok, pure_eq_ok] at h
  obtain ⟨table, howner, rfl⟩ := h
  obtain ⟨hmem, hhas, hnamed⟩ := has_of_owner howner
  refine ⟨(ref.table.map s.tableSpelling, s.columnSpelling table ref.column), rfl, hmem, hhas, ?_,
    rfl⟩
  cases hq : ref.table with
  | none => exact .inl rfl
  | some named =>
    obtain rfl := hnamed named hq
    exact .inr rfl

/-- A column of a statement is one that a table in scope has. -/
theorem Refers.spells (hs : scope.snapshot? = some s) (hkeys : s.KeysExist)
    (hlower : ∀ table ∈ scope.tables, lowercase table = table) {column : Option String × String}
    (h : scope.Refers column) : ∃ table key, s.Spells scope.tables column table key := by
  have hresolved : ∀ {ref : ColumnRef} {c : Resolved}, scope.resolveRef ref = .ok c →
      c.expr = .column column.1 column.2 → s.Spells scope.tables column c.table c.column := by
    intro ref c href hexpr
    obtain ⟨written, hwritten, hspells⟩ := spells_of_resolveRef hs href
    rw [hexpr] at hwritten
    obtain ⟨hqualifier, hname⟩ := Expr.column.inj hwritten
    rwa [Prod.ext hqualifier hname]
  cases h with
  | resolved h hexpr =>
    obtain ⟨ref, _, href⟩ := bind_eq_ok.1 h
    exact ⟨_, _, hresolved href hexpr⟩
  | resolvedOn h hexpr =>
    obtain ⟨ref, _, href⟩ := bind_eq_ok.1 h
    exact ⟨_, _, hresolved href hexpr⟩
  | @key snapshot a b key hs' ha hb hkey hcolumn =>
    obtain rfl : snapshot = s := Option.some.inj (hs'.symm.trans hs)
    have hlinks := hkeys.joinKey? hkey
    rw [hlower a ha, hlower b hb] at hlinks
    have hmem : ∀ table, table = a ∨ table = b → table ∈ scope.tables := by
      rintro table (rfl | rfl)
      · exact ha
      · exact hb
    simp only [JoinKey.condition, Expr.columns, List.singleton_append, List.mem_cons,
      List.not_mem_nil, or_false] at hcolumn
    obtain rfl | rfl := hcolumn
    · exact ⟨key.referencingTable, key.referencingColumn, hmem _ hlinks.referencing_mem,
        hlinks.referencing, .inr rfl, rfl⟩
    · exact ⟨key.referencedTable, key.referencedColumn, hmem _ hlinks.referenced_mem,
        hlinks.referenced, .inr rfl, rfl⟩

end Scope

/-! ## Casts -/

/-- A parameter belongs to a slot. -/
theorem Slot.exists_of_mem_parameters {k : Nat} {slots : List Slot} {p : Parameter}
    (h : p ∈ parameters k slots) :
    ∃ slot ∈ slots, p.subject? = some slot.column ∧ p.cast = slot.cast := by
  induction slots generalizing k with
  | nil => exact absurd h List.not_mem_nil
  | cons slot rest ih =>
    obtain rfl | h := List.mem_cons.1 h
    · exact ⟨slot, List.mem_cons_self, rfl, rfl⟩
    · obtain ⟨other, hother, hsame⟩ := ih h
      exact ⟨other, List.mem_cons_of_mem slot hother, hsame⟩

/-- Whatever a filter binds is compared with its column, and cast to the column's type if at all. -/
theorem Filter.Binds.cast {snapshot? : Option Snapshot} {scope : Scope} {f : Filter}
    {slots : List Slot} (h : f.Binds snapshot? scope slots) :
    ∀ slot ∈ slots, ∃ c, scope.resolve f.columnText = .ok c ∧ slot.column = c.expr ∧
      ∀ type ∈ slot.cast, c.catalogType snapshot? = some type := by
  cases h with
  | blank _ => exact fun slot hslot => absurd hslot List.not_mem_nil
  | range _ _ hc _ _ _ =>
    exact List.forall_mem_cons.2 ⟨⟨_, hc, rfl, fun _ h => h⟩,
      List.forall_mem_singleton.2 ⟨_, hc, rfl, fun _ h => h⟩⟩
  | pattern _ _ hc _ => exact List.forall_mem_singleton.2 ⟨_, hc, rfl, fun _ h => nomatch h⟩
  | single _ _ _ hc _ => exact List.forall_mem_singleton.2 ⟨_, hc, rfl, fun _ h => h⟩

theorem Filter.Binds.cast_flatten {snapshot? : Option Snapshot} {scope : Scope}
    {filters : List Filter} {owned : List (List Slot)}
    (h : List.Forall₂ (Filter.Binds snapshot? scope) filters owned) :
    ∀ slot ∈ owned.flatten, ∃ raw c, scope.resolve raw = .ok c ∧ slot.column = c.expr ∧
      ∀ type ∈ slot.cast, c.catalogType snapshot? = some type := by
  induction h with
  | nil => exact fun slot hslot => absurd hslot List.not_mem_nil
  | cons hbinds _ ih =>
    rw [List.flatten_cons]
    refine List.forall_mem_append.2 ⟨fun slot hslot => ?_, ih⟩
    obtain ⟨c, hc⟩ := hbinds.cast slot hslot
    exact ⟨_, c, hc⟩

/-! ## Aliases -/

namespace Sql

mutual

/-- The names of the select list that an expression uses. -/
def Expr.aliases : Expr → List String
  | .aliased name => [name]
  | .column _ _ | .star | .literal _ | .param _ _ => []
  | .call _ args => aliasesAll args
  | .binary _ left right => left.aliases ++ right.aliases
  | .aggregate _ arg => arg.aliases
  | .between subject low high _ => subject.aliases ++ low.aliases ++ high.aliases
  | .not inner => inner.aliases

def aliasesAll : List Expr → List String
  | [] => []
  | e :: rest => e.aliases ++ aliasesAll rest

end

/-- A name is that of a column or its table, of a type that a parameter is cast to, or of an
item. -/
def NameOf (columns : List (Option String × String)) (parameters : List Parameter)
    (aliases : List String) (name : String) : Prop :=
  (∃ column ∈ columns, name ∈ column.1.toList ++ [column.2]) ∨
    (∃ p ∈ parameters, name ∈ p.cast) ∨ name ∈ aliases

namespace NameOf

variable {cs cs' : List (Option String × String)} {ps ps' : List Parameter}
  {as as' : List String} {name : String}

theorem append_left (h : NameOf cs ps as name) :
    NameOf (cs ++ cs') (ps ++ ps') (as ++ as') name := by
  obtain ⟨c, hc, h⟩ | ⟨p, hp, h⟩ | h := h
  · exact .inl ⟨c, List.mem_append_left _ hc, h⟩
  · exact .inr (.inl ⟨p, List.mem_append_left _ hp, h⟩)
  · exact .inr (.inr (List.mem_append_left _ h))

theorem append_right (h : NameOf cs' ps' as' name) :
    NameOf (cs ++ cs') (ps ++ ps') (as ++ as') name := by
  obtain ⟨c, hc, h⟩ | ⟨p, hp, h⟩ | h := h
  · exact .inl ⟨c, List.mem_append_right _ hc, h⟩
  · exact .inr (.inl ⟨p, List.mem_append_right _ hp, h⟩)
  · exact .inr (.inr (List.mem_append_right _ h))

end NameOf

mutual

theorem Expr.nameOf_names (subject? : Option Expr) (e : Expr) :
    ∀ name ∈ e.names, NameOf e.columns (e.parameters subject?) e.aliases name := by
  cases e with
  | column table? other =>
    exact fun name h => .inl ⟨(table?, other), List.mem_singleton_self _, h⟩
  | star => exact fun name h => absurd h List.not_mem_nil
  | literal value => exact fun name h => absurd h List.not_mem_nil
  | param index cast =>
    exact fun name h => .inr (.inl ⟨⟨subject?, index, cast⟩, List.mem_singleton_self _,
      Option.mem_toList.1 h⟩)
  | aliased other => exact fun name h => .inr (.inr h)
  | call function args => exact nameOf_namesAll args
  | binary op left right =>
    exact List.forall_mem_append.2 ⟨fun name h => (left.nameOf_names none name h).append_left,
      fun name h => (right.nameOf_names (some left) name h).append_right⟩
  | aggregate aggregation arg => exact arg.nameOf_names none
  | between subject low high negated =>
    exact List.forall_mem_append.2 ⟨List.forall_mem_append.2
      ⟨fun name h => (subject.nameOf_names none name h).append_left.append_left,
        fun name h => (low.nameOf_names (some subject) name h).append_right.append_left⟩,
      fun name h => (high.nameOf_names (some subject) name h).append_right⟩
  | not inner => exact inner.nameOf_names none

theorem nameOf_namesAll (es : List Expr) :
    ∀ name ∈ namesAll es, NameOf (columnsAll es) (parametersAll es) (aliasesAll es) name := by
  cases es with
  | nil => exact fun name h => absurd h List.not_mem_nil
  | cons e rest =>
    exact List.forall_mem_append.2 ⟨fun name h => (e.nameOf_names none name h).append_left,
      fun name h => (nameOf_namesAll rest name h).append_right⟩

end

theorem aliasesAll_eq_flatMap (es : List Expr) : aliasesAll es = es.flatMap (·.aliases) := by
  induction es with
  | nil => rfl
  | cons e rest ih => rw [aliasesAll, ih, List.flatMap_cons]

end Sql

section

variable {scope : Scope}

theorem Scope.aliases_of_resolveRef {ref : ColumnRef} {c : Resolved}
    (h : scope.resolveRef ref = .ok c) : c.expr.aliases = [] := by
  obtain ⟨table?, name, hexpr⟩ := expr_of_resolveRef h
  rw [hexpr]
  rfl

theorem Scope.aliases_of_resolve {raw : String} {c : Resolved} (h : scope.resolve raw = .ok c) :
    c.expr.aliases = [] := by
  obtain ⟨ref, _, href⟩ := bind_eq_ok.1 h
  exact aliases_of_resolveRef href

theorem Scope.aliases_of_resolveOn {table raw : String} {c : Resolved}
    (h : scope.resolveOn table raw = .ok c) : c.expr.aliases = [] := by
  obtain ⟨ref, _, href⟩ := bind_eq_ok.1 h
  exact aliases_of_resolveRef href

theorem JoinPlan.aliases_of_ofRequested {joins : List Requested.Join} {plan : JoinPlan}
    (h : ofRequested scope joins = .ok plan) :
    ∀ join ∈ plan.clauses, ∀ e ∈ join.conditions, e.aliases = [] := by
  refine foldlM_invariant
    (fun plan => ∀ join ∈ plan.clauses, ∀ e ∈ join.conditions, e.aliases = [])
    (fun plan next join _ hplan hnext => ?_) (fun join hj => absurd hj List.not_mem_nil) h
  obtain ⟨_, conditions, hconditions, rfl⟩ := add_eq_ok_iff.1 hnext
  refine List.forall_mem_append.2 ⟨hplan, List.forall_mem_singleton.2 ?_⟩
  unfold JoinPlan.conditions at hconditions
  split at hconditions
  · cases hconditions
    exact fun e he => absurd he List.not_mem_nil
  · simp only [bind_eq_ok, pure_eq_ok] at hconditions
    obtain ⟨left, hleft, right, hright, rfl⟩ := hconditions
    refine List.forall_mem_singleton.2 ?_
    rw [Expr.aliases, Scope.aliases_of_resolve hleft, Scope.aliases_of_resolveOn hright]
    rfl
  · split at hconditions
    · cases hconditions
    · split at hconditions
      · cases hconditions
      · cases hconditions
        exact List.forall_mem_singleton.2 rfl

theorem Request.aliases_of_bucket? {r : Request} {dated : Option (Resolved × Bucket)}
    (h : r.bucket? scope = .ok dated) :
    ∀ b ∈ dated.map (·.2), (∀ item ∈ b.select, item.expr.aliases = []) ∧
      (∀ e ∈ b.groupBy, e.aliases = []) ∧ b.orderBy.expr.aliases ⊆ r.periodNames := by
  unfold bucket? at h
  split at h
  · rename_i grain column hgrain hdate
    have hnames : r.periodNames = [Bucket.labelAlias, Bucket.startAlias grain] := by
      rw [periodNames, hgrain, hdate]
    simp only [bind_eq_ok, pure_eq_ok] at h
    obtain ⟨date, hresolved, rfl⟩ := h
    have hcolumn := Scope.aliases_of_resolveOn hresolved
    have hstart : (Bucket.start grain date.expr).aliases = [] := by
      simp [Bucket.start, Expr.aliases, Sql.aliasesAll, hcolumn]
    have hlabel : (Bucket.label grain r.display date.expr).aliases = [] := by
      unfold Bucket.label
      cases Bucket.isPadded grain with
      | true => simp [Expr.aliases, Sql.aliasesAll, hstart]
      | false => simp [Expr.aliases, Sql.aliasesAll, hstart]
    intro b hb
    obtain rfl : Bucket.of grain r.display date.expr = b := by simpa using hb
    rw [hnames]
    refine ⟨?_, ?_, List.subset_cons_self _ _⟩
    · exact List.forall_mem_cons.2 ⟨hlabel, List.forall_mem_singleton.2 hstart⟩
    · exact List.forall_mem_cons.2 ⟨hstart, List.forall_mem_singleton.2 hlabel⟩
  · cases h
    simp

theorem Metric.aliases_of_expr {m : Metric} {e : Expr} (h : m.expr scope = .ok e) :
    e.aliases = [] := by
  unfold expr at h
  split at h
  · split at h
    · cases h
      rfl
    · cases h
  · simp only [bind_eq_ok, pure_eq_ok] at h
    obtain ⟨c, hc, rfl⟩ := h
    exact Scope.aliases_of_resolve hc

theorem Filter.aliases_of_clause {f : Filter} {bound : Nat} {e : Expr} {values : List String}
    (h : f.clause scope bound = .ok (e, values)) : e.aliases = [] := by
  obtain ⟨c, hc, h⟩ := bind_eq_ok.1 h
  have hcolumn := Scope.aliases_of_resolve hc
  split at h
  · simp only [bind_eq_ok, mapError_eq_ok, pure_eq_ok] at h
    obtain ⟨⟨low, high⟩, _, hclause⟩ := h
    obtain ⟨rfl, rfl⟩ := Prod.mk.inj hclause
    simp [Expr.aliases, hcolumn]
  · split at h
    · obtain ⟨rfl, rfl⟩ := Prod.mk.inj (pure_eq_ok.1 h)
      split
      · simp [Expr.aliases, hcolumn]
      · simp [Expr.aliases, hcolumn]
    · cases h

theorem Predicate.aliases_of_ofFilters {filters : List Filter} {p : Predicate}
    (h : ofFilters scope filters = .ok p) : ∀ e ∈ p.expr, e.aliases = [] := by
  refine foldlM_invariant (fun p : Predicate => ∀ e ∈ p.expr, e.aliases = [])
    (fun p next f _ hp hnext => ?_) (fun _ he => absurd he (Option.not_mem_none _)) h
  unfold add at hnext
  split at hnext
  · exact pure_eq_ok.1 hnext ▸ hp
  · simp only [bind_eq_ok, pure_eq_ok] at hnext
    obtain ⟨⟨clause, values⟩, hclause, rfl⟩ := hnext
    have hnew := Filter.aliases_of_clause hclause
    intro e he
    obtain rfl := Option.mem_some.1 he
    cases hexpr : p.expr with
    | none => exact hnew
    | some before =>
      show before.aliases ++ clause.aliases = []
      rw [hp before hexpr, hnew]
      rfl

end

namespace Request

/-- The names that a statement gives to what it selects: of periods, of metrics and of the
stand-in. -/
def aliases (r : Request) : List String :=
  r.periodNames ++ r.metrics.map (·.aliasName) ++ ["placeholder"]

variable {r : Request} {scope : Scope}

/-- What is ranked is ordered by the name of an item, or by an aggregate. -/
theorem aliases_of_rankedOrder {selected : List SelectItem} {order orderBy : List OrderItem}
    {limit : Option Nat} (hselected : ∀ item ∈ selected, ∀ name ∈ item.alias?, name ∈ r.aliases)
    (horder : ∀ o ∈ order, o.expr.aliases ⊆ r.aliases)
    (h : r.rankedOrder scope selected order = .ok (orderBy, limit)) :
    ∀ o ∈ orderBy, o.expr.aliases ⊆ r.aliases := by
  unfold rankedOrder at h
  split at h
  · simp only [bind_eq_ok, pure_eq_ok, Prod.mk.injEq] at h
    obtain ⟨o, ho, rfl, _⟩ := h
    refine List.forall_mem_singleton.2 ?_
    unfold rankingOrder at ho
    split at ho
    · rename_i hany
      cases pure_eq_ok.1 ho
      obtain ⟨item, hitem, halias⟩ := List.any_eq_true.1 hany
      exact List.forall_mem_singleton.2 (hselected item hitem _ (beq_iff_eq.1 halias))
    · simp only [bind_eq_ok, pure_eq_ok] at ho
      obtain ⟨e, he, rfl⟩ := ho
      rw [Metric.aliases_of_expr he]
      exact List.nil_subset _
  · cases h
    exact horder

namespace Stages.Of

variable {snapshot? : Option Snapshot} {st : Stages}

theorem aliases_items (h : st.Of r snapshot?) :
    ∀ item ∈ st.items, ∀ name ∈ item.alias?, name ∈ r.aliases := by
  intro item hitem name hname
  have hmem : some name ∈ st.items.map (·.alias?) := List.mem_map.2 ⟨item, hitem, hname⟩
  rw [aliases]
  obtain hitems | ⟨hitems, _⟩ := alias?_selectItems h.dated h.metrics st.dims
  · rw [items, bucket, hitems] at hmem
    simp only [List.mem_append, List.mem_map, Option.some.injEq, exists_eq_right, reduceCtorEq,
      and_false, exists_false, or_false] at hmem
    simp only [List.mem_append, List.mem_map]
    exact .inl hmem
  · rw [items, bucket, hitems] at hmem
    obtain rfl : name = "placeholder" := by simpa [standIn] using hmem
    exact List.mem_append_right _ List.mem_cons_self

/-- Names of items stand in the order only. -/
theorem aliases_exprs (h : st.Of r snapshot?) :
    ∀ e ∈ (st.statement r).query.exprs, e.aliases ⊆ r.aliases := by
  have hnil : ∀ {e : Expr}, e.aliases = [] → e.aliases ⊆ r.aliases := by
    intro e he
    rw [he]
    exact List.nil_subset _
  have hbucket := aliases_of_bucket? h.dated
  have hdims : ∀ d ∈ st.dims, d.expr.aliases ⊆ r.aliases := by
    intro d hd
    obtain ⟨table?, name, hexpr⟩ := (exprs_of_dimensions h.dims).1 d hd
    exact hnil (by rw [hexpr]; rfl)
  have hmetrics : ∀ item ∈ st.metrics, item.expr.aliases ⊆ r.aliases := by
    refine forall_of_mapM (fun m _ item hm => ?_) h.metrics
    simp only [Metric.select, bind_eq_ok, pure_eq_ok] at hm
    obtain ⟨e, he, rfl⟩ := hm
    exact hnil (Metric.aliases_of_expr he)
  have hitems : ∀ item ∈ st.items, item.expr.aliases ⊆ r.aliases := by
    obtain hitems | ⟨hitems, _⟩ := selectItems_cases st.bucket st.dims st.metrics
    · rw [items, hitems]
      refine List.forall_mem_append.2 ⟨List.forall_mem_append.2 ⟨?_, ?_⟩, hmetrics⟩
      · cases hb : st.bucket with
        | none => exact fun item hi => absurd hi List.not_mem_nil
        | some b => exact fun item hi => hnil ((hbucket b hb).1 item hi)
      · exact List.forall_mem_map.2 hdims
    · rw [items, hitems]
      exact List.forall_mem_singleton.2 (hnil rfl)
  have hjoins : ∀ e ∈ st.plan.clauses.flatMap (·.conditions), e.aliases ⊆ r.aliases := by
    intro e he
    obtain ⟨join, hj, hej⟩ := List.mem_flatMap.1 he
    exact hnil (JoinPlan.aliases_of_ofRequested h.plan join hj e hej)
  have hcondition : ∀ e ∈ st.predicate.expr.toList, e.aliases ⊆ r.aliases := fun e he =>
    hnil (Predicate.aliases_of_ofFilters h.predicate e (Option.mem_toList.1 he))
  have hgroup : ∀ e ∈ st.groupBy, e.aliases ⊆ r.aliases := by
    refine List.forall_mem_append.2 ⟨?_, List.forall_mem_map.2 hdims⟩
    cases hb : st.bucket with
    | none => exact fun e he => absurd he List.not_mem_nil
    | some b => exact fun e he => hnil ((hbucket b hb).2.1 e he)
  have hplain : ∀ o ∈ plainOrder st.bucket st.dims, o.expr.aliases ⊆ r.aliases := by
    unfold plainOrder
    cases hb : st.bucket with
    | some b =>
      refine List.forall_mem_singleton.2 fun name hname => ?_
      exact List.mem_append_left _ (List.mem_append_left _ ((hbucket b hb).2.2 hname))
    | none =>
      cases hd : st.dims with
      | nil => exact fun o ho => absurd ho List.not_mem_nil
      | cons d rest => exact List.forall_mem_singleton.2 (hdims d (hd ▸ List.mem_cons_self))
  have horder := aliases_of_rankedOrder h.aliases_items hplain h.order
  simp only [Select.exprs, statement, List.forall_mem_append, List.forall_mem_map]
  exact ⟨⟨⟨⟨hitems, hjoins⟩, hcondition⟩, hgroup⟩, horder⟩

end Stages.Of

end Request

/-- A metric's name has letters, digits and underscores only. -/
theorem Metric.isWordChar_aliasName (m : Metric) :
    ∀ c ∈ m.aliasName.toList, isWordChar c = true := by
  have hlabel : ∀ c ∈ m.aggregation.label.toList, isWordChar c = true :=
    List.all_eq_true.1 (by cases m.aggregation <;> decide)
  have hall : ∀ c ∈ ['a', 'l', 'l'], isWordChar c = true := List.all_eq_true.1 (by decide)
  have hunderscore : ∀ c ∈ ['_'], isWordChar c = true := List.all_eq_true.1 (by decide)
  have hchars : ∀ d, ∀ c ∈ aliasChars d, isWordChar c = true := by
    intro d
    unfold aliasChars
    split
    · exact hunderscore
    · split
      · exact hall
      · split
        · rename_i hword
          exact List.forall_mem_singleton.2 hword
        · exact fun c hc => absurd hc List.not_mem_nil
  have htext : ∀ c ∈ (aliasText m.column).toList, isWordChar c = true := by
    rw [aliasText, String.toList_ofList]
    intro c hc
    obtain ⟨d, _, hd⟩ := List.mem_flatMap.1 hc
    exact hchars d c hd
  unfold aliasName
  split
  · exact List.all_eq_true.1 (by decide)
  · rw [String.toList_append, String.toList_append]
    exact List.forall_mem_append.2 ⟨List.forall_mem_append.2 ⟨hlabel, hunderscore⟩, htext⟩

/-! ## Statements -/

theorem JoinPlan.alias?_of_ofRequested {scope : Scope} {joins : List Requested.Join}
    {plan : JoinPlan} (h : ofRequested scope joins = .ok plan) :
    ∀ join ∈ plan.clauses, join.table.alias? = none := by
  refine foldlM_invariant (fun plan => ∀ join ∈ plan.clauses, join.table.alias? = none)
    (fun plan next join _ hplan hnext => ?_) (fun join hj => absurd hj List.not_mem_nil) h
  obtain ⟨_, conditions, _, rfl⟩ := add_eq_ok_iff.1 hnext
  refine List.forall_mem_append.2 ⟨hplan, List.forall_mem_singleton.2 ?_⟩
  rfl

namespace Request

variable {r : Request} {s : Snapshot}

theorem isWordChar_aliases (r : Request) :
    ∀ name ∈ r.aliases, ∀ c ∈ name.toList, isWordChar c = true := by
  have hlabel : ∀ c ∈ Bucket.labelAlias.toList, isWordChar c = true :=
    List.all_eq_true.1 (by decide)
  have hstart : ∀ grain, ∀ c ∈ (Bucket.startAlias grain).toList, isWordChar c = true :=
    fun grain => List.all_eq_true.1 (by cases grain <;> decide)
  have hplaceholder : ∀ c ∈ "placeholder".toList, isWordChar c = true :=
    List.all_eq_true.1 (by decide)
  refine List.forall_mem_append.2 ⟨List.forall_mem_append.2 ⟨?_, ?_⟩, ?_⟩
  · unfold periodNames
    split
    · rename_i grain _ _ _
      exact List.forall_mem_cons.2 ⟨hlabel, List.forall_mem_singleton.2 (hstart grain)⟩
    · exact fun name hname => absurd hname List.not_mem_nil
  · exact List.forall_mem_map.2 fun m _ => m.isWordChar_aliasName
  · exact List.forall_mem_singleton.2 hplaceholder

theorem hasTable_of_compile {st : Statement} (h : r.compile (some s) = .ok st) :
    ∀ key ∈ r.tableKeys, s.hasTable key = true := by
  rw [tableKeys_eq]
  refine List.forall_mem_cons.2 ⟨fulfils_of_compile h .root, List.forall_mem_map.2 ?_⟩
  intro join hjoin
  obtain ⟨before, after, hsplit⟩ := List.append_of_mem hjoin
  exact (fulfils_of_compile h .joins before join after hsplit).table

namespace Stages.Of

variable {st : Stages}

theorem spells_exprs (h : st.Of r (some s)) (hkeys : s.KeysExist) :
    ∀ column ∈ Sql.columnsAll (st.statement r).query.exprs,
      ∃ table key, s.Spells r.tableKeys column table key := by
  have hsnapshot := r.snapshot?_scope (some s)
  have hlower : ∀ table ∈ (r.scope (some s)).tables, lowercase table = table := by
    intro table htable
    obtain ⟨name, _, rfl⟩ := List.mem_map.1 (mem_scope_iff.1 htable)
    exact Text.lowercase_lowercase name
  rw [Sql.columnsAll_eq_flatMap]
  intro column hcolumn
  obtain ⟨e, he, hcolumn⟩ := List.mem_flatMap.1 hcolumn
  have hrefers := h.covers_exprs e he column hcolumn
  rw [h.scope_eq] at hrefers
  obtain ⟨table, key, hspells⟩ := hrefers.spells hsnapshot hkeys hlower
  exact ⟨table, key, { hspells with table_mem := mem_scope_iff.1 hspells.table_mem }⟩

theorem casts_exprs (h : st.Of r (some s)) :
    ∀ p ∈ parametersAll (st.statement r).query.exprs, ∀ cast ∈ p.cast, ∃ column table key,
      p.subject? = some (.column column.1 column.2) ∧ s.Spells r.tableKeys column table key ∧
        s.columnType? table key = some cast := by
  obtain ⟨owned, howned, hp⟩ := Predicate.holds_of_ofFilters h.predicate
  rw [h.scope_eq, r.snapshot?_scope] at howned
  rw [h.parametersAll_exprs, hp.parameters]
  intro p hparameter cast hcast
  obtain ⟨slot, hslot, hsubject, hsame⟩ := Slot.exists_of_mem_parameters hparameter
  obtain ⟨raw, c, hc, hcolumn, htype⟩ := Filter.Binds.cast_flatten howned slot hslot
  obtain ⟨ref, _, href⟩ := bind_eq_ok.1 hc
  obtain ⟨column, hexpr, hspells⟩ := Scope.spells_of_resolveRef (r.snapshot?_scope (some s)) href
  have hmem := mem_scope_iff.1 hspells.table_mem
  exact ⟨column, c.table, c.column, by rw [hsubject, hcolumn, hexpr],
    { hspells with table_mem := hmem }, htype cast (hsame ▸ hcast)⟩

/-- The names in a statement are of the catalog, or given to items. -/
theorem names_subset (h : st.Of r (some s)) (hkeys : s.KeysExist)
    (htables : ∀ key ∈ r.tableKeys, s.hasTable key = true)
    (hnames : (st.statement r).query.tableNames = r.tableKeys.map s.tableSpelling) :
    ∀ name ∈ (st.statement r).query.names, name ∈ s.texts ∨ name ∈ r.aliases := by
  have hexprs : ∀ name ∈ Sql.namesAll (st.statement r).query.exprs,
      name ∈ s.texts ∨ name ∈ r.aliases := by
    intro name hname
    obtain ⟨column, hcolumn, hname⟩ | ⟨p, hp, hname⟩ | hname :=
      Sql.nameOf_namesAll _ name hname
    · obtain ⟨table, key, hspells⟩ := h.spells_exprs hkeys column hcolumn
      exact .inl (hspells.mem_texts name hname)
    · obtain ⟨_, table, key, _, _, htype⟩ := h.casts_exprs p hp name hname
      exact .inl (Snapshot.columnType?_mem_texts htype)
    · rw [Sql.aliasesAll_eq_flatMap] at hname
      obtain ⟨e, he, hname⟩ := List.mem_flatMap.1 hname
      exact .inr (h.aliases_exprs e he hname)
  have hitems : ∀ name ∈ (st.statement r).query.items.filterMap (·.alias?),
      name ∈ s.texts ∨ name ∈ r.aliases := by
    intro name hname
    obtain ⟨item, hitem, hname⟩ := List.mem_filterMap.1 hname
    exact .inr (h.aliases_items item hitem name hname)
  have hspelled : ∀ name ∈ (st.statement r).query.tableNames,
      name ∈ s.texts ∨ name ∈ r.aliases := by
    rw [hnames]
    exact List.forall_mem_map.2 fun key hkey =>
      .inl (Snapshot.tableSpelling_mem_texts (htables key hkey))
  obtain ⟨hsource, hjoined⟩ := List.forall_mem_cons.1 hspelled
  have hjoins : ∀ name ∈ (st.statement r).query.joins.flatMap (·.table.names),
      name ∈ s.texts ∨ name ∈ r.aliases := by
    intro name hname
    obtain ⟨join, hjoin, hname⟩ := List.mem_flatMap.1 hname
    rw [Sql.TableRef.names, JoinPlan.alias?_of_ofRequested h.plan join hjoin] at hname
    obtain rfl := List.mem_singleton.1 hname
    exact hjoined _ (List.mem_map.2 ⟨join, hjoin, rfl⟩)
  exact List.forall_mem_append.2 ⟨List.forall_mem_append.2 ⟨List.forall_mem_append.2
    ⟨hexprs, hitems⟩, List.forall_mem_singleton.2 hsource⟩, hjoins⟩

end Stages.Of

/-- Of a statement that is compiled against a catalog whose keys exist: its tables are tables of the
catalog, every column anywhere in it is a column that one of them has, the type that a value is cast
to is the type of the column that it is compared with, and all of these are spelled as the catalog
spells them.  So the text of the statement has no identifier that is not a word of the language, a
text of the catalog or the name of an item, and these have letters, digits and underscores only. -/
theorem catalog_of_compile (hkeys : s.KeysExist) {st : Statement}
    (h : r.compile (some s) = .ok st) :
    (st.query.tableNames = r.tableKeys.map s.tableSpelling ∧
      ∀ key ∈ r.tableKeys, s.hasTable key = true) ∧
    (∀ column ∈ Sql.columnsAll st.query.exprs,
      ∃ table key, s.Spells r.tableKeys column table key) ∧
    (∀ p ∈ parametersAll st.query.exprs, ∀ cast ∈ p.cast, ∃ column table key,
      p.subject? = some (.column column.1 column.2) ∧ s.Spells r.tableKeys column table key ∧
        s.columnType? table key = some cast) ∧
    ∃ ts, lex st.sql = some ts ∧ (∀ chars, .word chars ∈ ts → chars ∈ Sql.keywords) ∧
      ∀ name, .name name ∈ ts → name ∈ s.texts ∨
        name ∈ r.aliases ∧ ∀ c ∈ name.toList, isWordChar c = true := by
  have htables := hasTable_of_compile h
  have hnames := tableNames_of_compile h
  rw [← tableKeys_eq] at hnames
  obtain ⟨stages, hst, rfl⟩ := compile_eq_ok_iff.1 h
  obtain ⟨ts, hlex, hknown⟩ :=
    Select.render_reads .placeholders (stages.statement r).query hst.areWritable_exprs
  refine ⟨⟨hnames, htables⟩, hst.spells_exprs hkeys, hst.casts_exprs, ts, hlex,
    fun chars hchars => hknown _ hchars, fun name hname => ?_⟩
  obtain htext | halias := hst.names_subset hkeys htables hnames name (hknown _ hname)
  · exact .inl htext
  · exact .inr ⟨halias, r.isWordChar_aliases name halias⟩

/-- How many orders above a number each customer has, in a spelling that is not the catalog's. -/
def ordersPerCustomer : Request where
  table := " ORDERS"
  dimensions := ["Customers.NAME"]
  metrics := [{ column := "Orders.Id", aggregation := .count }]
  filters := [{ column := some "ORDERS.id", operator := .gt, value := Json.nat 7 }]
  joins := [{ table := "CUSTOMERS" }]

theorem catalog_of_ordersPerCustomer :
    shopCatalog.KeysExist ∧
    ∃ st, ordersPerCustomer.compile (some shopCatalog) = .ok st ∧
      st.query.tableNames = ["orders", "customers"] ∧
      (∀ column ∈ Sql.columnsAll st.query.exprs,
        ∃ table key, shopCatalog.Spells ["orders", "customers"] column table key) ∧
      ∃ ts, lex st.sql = some ts ∧ ∀ name, .name name ∈ ts →
        name ∈ shopCatalog.texts ∨ name ∈ ["count_Orders_Id", "placeholder"] := by
  have hkeys : shopCatalog.KeysExist := ⟨by decide +kernel, by decide +kernel⟩
  have hsome : (ordersPerCustomer.compile (some shopCatalog)).toOption.isSome = true := by
    decide +kernel
  obtain ⟨st, hst⟩ := Option.isSome_iff_exists.1 hsome
  obtain ⟨⟨htables, _⟩, hcolumns, _, ts, hlex, _, hnames⟩ :=
    catalog_of_compile hkeys (toOption_eq_some.1 hst)
  have hspelled : ordersPerCustomer.tableKeys.map shopCatalog.tableSpelling =
      ["orders", "customers"] := by decide +kernel
  have hlower : ordersPerCustomer.tableKeys = ["orders", "customers"] := by decide +kernel
  have haliases : ordersPerCustomer.aliases = ["count_Orders_Id", "placeholder"] := by
    decide +kernel
  rw [hlower] at hcolumns
  rw [haliases] at hnames
  exact ⟨hkeys, st, toOption_eq_some.1 hst, htables.trans hspelled, hcolumns, ts, hlex,
    fun name hname => (hnames name hname).imp_right And.left⟩

end Request
end Granary
