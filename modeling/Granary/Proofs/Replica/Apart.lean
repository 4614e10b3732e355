import Granary.Proofs.Replica.Exclusion

/-!
# Relations of different connections

The tables of different connections have different names, and so have their indexes.  But all
relations of a warehouse share one set of names, and an index of one connection may ask for the name
of a table of another, or for that of an index that somebody has put on such a table.  Then one of
the two lifecycles finds the name taken if the other was faster.  `Site.Apart` says that there are
no such names, and calls keep it so (`Site.Apart.call`).
-/

namespace Granary.Replica

open Rehearsal (Breakdown Cursor Failure Indexed indexesOf Loader mem_indexesOf Source Stage
  Warehouse)

variable {ι : Type}

/-! ## Lifecycles of different names -/

/-- Lifecycles of valid names, no two of them of one name. -/
structure Errand.Distinct (errands : ι → Errand) : Prop where
  valid : ∀ i, isName (errands i).connection = true
  distinct : ∀ i j, (errands i).connection = (errands j).connection → i = j

theorem Errand.Distinct.not_under {errands : ι → Errand} (h : Errand.Distinct errands) {i j : ι}
    (hij : j ≠ i) {table : String} (htable : Under (errands i).connection table) :
    ¬Under (errands j).connection table := by
  intro hother
  obtain ⟨x, rfl⟩ := under_iff.1 htable
  exact hij (h.distinct j i ((under_tableName_iff (h.valid j) (h.valid i)).1 hother))

/-- The warehouse tables that a lifecycle has for the tables of its source. -/
def Errand.targets (e : Errand) : List String :=
  e.source.tables.flatMap fun x =>
    [tableName e.connection x.name, tableName e.connection x.describedName]

/-- The relations that a lifecycle creates: a table for each source table that has columns, and the
indexes on it.  A refresh creates none. -/
def Errand.creates (e : Errand) : List String :=
  if e.mode = .refresh then []
  else (e.source.tables.filter fun x => !x.columns.isEmpty).flatMap fun x =>
    let table := tableName e.connection x.describedName
    table :: (indexesOf table (x.columns.map Column.ofSource)).map (·.name)

theorem Errand.mem_targets {e : Errand} {name : String} (h : Target e.connection e.source name) :
    name ∈ e.targets := by
  obtain ⟨x, hx, hname⟩ := h
  refine List.mem_flatMap.2 ⟨x, hx, ?_⟩
  rwa [List.mem_cons, List.mem_singleton]

theorem Errand.mem_creates {e : Errand} {name : String} : name ∈ e.creates ↔
    ∃ table columns, Created e.mode e.connection e.source table columns ∧
      (name = table ∨ ∃ i ∈ indexesOf table columns, i.name = name) := by
  unfold creates
  split
  · rename_i hmode
    refine iff_of_false List.not_mem_nil ?_
    rintro ⟨_, _, ⟨hcreates, _⟩, _⟩
    exact hcreates hmode
  · rename_i hmode
    simp only [List.mem_flatMap, List.mem_filter, List.mem_cons, List.mem_map, Bool.not_eq_true']
    constructor
    · rintro ⟨x, ⟨hx, hcolumns⟩, hname⟩
      exact ⟨_, _, ⟨hmode, x, hx, hcolumns, rfl, rfl⟩, hname⟩
    · rintro ⟨_, _, ⟨_, x, hx, hcolumns, rfl, rfl⟩, hname⟩
      exact ⟨x, ⟨hx, hcolumns⟩, hname⟩

/-- A lifecycle asks for no names but those of the relations that it creates. -/
theorem Errand.mem_creates_of_asks {e : Errand} {c : Call Cursor Loader} {name : String}
    (hallowed : Allowed e.mode e.connection e.source c) (h : name ∈ Indexed.asks c) :
    name ∈ e.creates := by
  cases c with
  | beginLoad table columns load =>
    cases load with
    | create => exact mem_creates.2 ⟨table, columns, hallowed, .inl (List.mem_singleton.1 h)⟩
    | replace => cases h
  | finalize table key columns =>
    obtain ⟨i, hi, hname⟩ := List.mem_map.1 h
    exact mem_creates.2 ⟨table, columns, hallowed, .inr ⟨i, hi, hname⟩⟩
  | _ => cases h

namespace Site

/-- What a site has of a name. -/
def shelf (s : Site ι) (name : String) : Shelf :=
  ⟨s.warehouse.table? name, s.indexes.filter (·.table == name)⟩

/-- The names of the relations of a connection: its tables, and the indexes on them. -/
def names (s : Site ι) (connection : String) : List String :=
  s.warehouse.startingWith (stem connection) ++
    (s.indexes.filter (Under connection ·.table)).map (·.name)

/-- No relation that a lifecycle creates has the name of one of another connection: of a relation
that is there, or of a table that is loaded. -/
structure Apart (errands : ι → Errand) (s : Site ι) : Prop where
  names : ∀ i j, i ≠ j → ∀ name ∈ (errands i).creates, name ∉ s.names (errands j).connection
  targets : ∀ i j, i ≠ j → ∀ name ∈ (errands i).creates, name ∉ (errands j).targets

variable {errands : ι → Errand} {s t : Site ι} {connection name : String} {i j : ι}

theorem mem_names : name ∈ s.names connection ↔
    Under connection name ∧ s.warehouse.has name = true ∨
      ∃ x ∈ s.indexes, x.name = name ∧ Under connection x.table := by
  rw [names, List.mem_append, Warehouse.mem_startingWith]
  refine or_congr Iff.rfl ?_
  simp only [List.mem_map, List.mem_filter, decide_eq_true_eq, and_right_comm, and_assoc]

/-- What blocks a name that a lifecycle asks for is under no connection, and there it is as long as
what is under no connection stays. -/
theorem Apart.blocked (hs : Apart errands s)
    (hothers : ∀ name, (∀ j, ¬Under (errands j).connection name) → t.shelf name = s.shelf name)
    (hrelations : t.relations = s.relations) {source source' : Source}
    {failures failures' : List (Failure Breakdown)} (hname : name ∈ (errands i).creates)
    (h : Blocked (errands i).connection (s.databases i source failures) name) :
    Blocked (errands i).connection (t.databases i source' failures') name := by
  have hmeet : ∀ j, name ∈ s.names (errands j).connection → j = i := fun j hj =>
    of_not_not fun hij => hs.names i j (Ne.symm hij) name hname hj
  obtain ⟨hunder, hhas⟩ | ⟨x, hx, hsame, hunder⟩ | hrelation := h
  · have hnone : ∀ j, ¬Under (errands j).connection name := fun j hj =>
      hunder (hmeet j (mem_names.2 (.inl ⟨hj, hhas⟩)) ▸ hj)
    have hshelf : Replica.shelf (t.databases i source' failures') name =
        Replica.shelf (s.databases i source failures) name := hothers name hnone
    exact .inl ⟨hunder, (has_eq_of_shelf hshelf).trans hhas⟩
  · have hnone : ∀ j, ¬Under (errands j).connection x.table := fun j hj =>
      hunder (hmeet j (mem_names.2 (.inr ⟨x, hx, hsame, hj⟩)) ▸ hj)
    have hshelf : Replica.shelf (t.databases i source' failures') x.table =
        Replica.shelf (s.databases i source failures) x.table := hothers x.table hnone
    have hthere := mem_shelf.1 (hshelf ▸ mem_shelf.2 ⟨hx, rfl⟩)
    exact .inr (.inl ⟨x, hthere.1, hsame, hunder⟩)
  · exact .inr (.inr (show name ∈ t.relations from hrelations ▸ hrelation))

section

variable {c : Call Cursor Loader} {failures : List (Failure Breakdown)}
  (hallowed : Allowed (errands i).mode (errands i).connection (errands i).source c)
include hallowed

/-- A call that is allowed leaves the relations of all other connections as they are. -/
theorem under_after [DecidableEq ι] (s : Site ι) (failures : List (Failure Breakdown))
    (hdistinct : Errand.Distinct errands) (hij : j ≠ i) :
    (s.after i (Indexed.handle c (s.databases i (errands i).source failures)).2).warehouse.under
        (errands j).connection = s.warehouse.under (errands j).connection ∧
      (s.after i (Indexed.handle c (s.databases i (errands i).source failures)).2).indexes.filter
        (Under (errands j).connection ·.table) =
          s.indexes.filter (Under (errands j).connection ·.table) := by
  have hfree : ∀ table, Under (errands i).connection table →
      ¬Under (errands j).connection table := fun table => hdistinct.not_under hij
  obtain ⟨table, hunder, hchange⟩ := Stage.change_of_allowed
    (s := (s.databases i (errands i).source failures).stage) hallowed
  refine ⟨?_, Indexed.filter_indexes_handle (s := s.databases i (errands i).source failures)
    (q := (Under (errands j).connection ·)) hallowed
    fun table htable => decide_eq_false (hfree table htable)⟩
  rw [← Indexed.stage_handle] at hchange
  exact congrArg Warehouse.mk (hchange.filter
    (q := fun name => (stem (errands j).connection).toList.isPrefixOf name.toList)
    (Bool.eq_false_iff.2 (hfree table hunder)))

theorem names_after [DecidableEq ι] (hdistinct : Errand.Distinct errands) (hij : j ≠ i) :
    (s.after i (Indexed.handle c (s.databases i (errands i).source failures)).2).names
      (errands j).connection = s.names (errands j).connection := by
  obtain ⟨htables, hindexes⟩ := under_after hallowed s failures hdistinct hij
  rw [names, hindexes, ← Warehouse.startingWith_under, htables, Warehouse.startingWith_under, names]

/-- The relations of a connection are those that were there, tables of its source, and indexes that
its lifecycle creates. -/
theorem mem_names_after [DecidableEq ι] (h : name ∈ (s.after i
      (Indexed.handle c (s.databases i (errands i).source failures)).2).names
        (errands i).connection) :
    name ∈ s.names (errands i).connection ∨ name ∈ (errands i).targets ∨
      ∃ table columns, Created (errands i).mode (errands i).connection (errands i).source table
        columns ∧ ∃ x ∈ indexesOf table columns, x.name = name := by
  obtain ⟨hunder, hhas⟩ | ⟨x, hx, hsame, hunder⟩ := mem_names.1 h
  · have hstart : Kept (errands i).connection (s.databases i (errands i).source failures).stage
        (s.databases i (errands i).source failures).stage := ⟨rfl, rfl, fun _ h => .inl h⟩
    have hkept := (hstart.step hallowed ⟨failures, rfl⟩).2
    obtain hold | htarget := hkept.created name
      ((congrArg (·.warehouse.has name) (Indexed.stage_handle c _)).symm.trans hhas)
    · exact .inl (mem_names.2 (.inl ⟨hunder, hold⟩))
    · exact .inr (.inl (Errand.mem_targets htarget))
  · have heffect := Indexed.effect_handle c (s.databases i (errands i).source failures)
    obtain hold | ⟨table, key, columns, rfl, hmem⟩ := heffect.mem hx
    · exact .inl (mem_names.2 (.inr ⟨x, hold, hsame, hunder⟩))
    · exact .inr (.inr ⟨table, columns, hallowed, x, hmem, hsame⟩)

/-- Whatever is called, no relation gets a name that somebody else asks for. -/
theorem Apart.call [DecidableEq ι] (hdistinct : Errand.Distinct errands) (hs : Apart errands s) :
    Apart errands (s.after i (Indexed.handle c (s.databases i (errands i).source failures)).2) := by
  refine ⟨fun k j hkj name hname hthere => ?_, hs.targets⟩
  by_cases hij : j = i
  · subst hij
    obtain hold | htarget | ⟨table, columns, hcreated, x, hx, hsame⟩ :=
      mem_names_after hallowed hthere
    · exact hs.names k j hkj name hname hold
    · exact hs.targets k j hkj name hname htarget
    · -- A new index has the name neither of a table of another lifecycle nor of an index.
      have hmine : name ∈ (errands j).creates :=
        Errand.mem_creates.2 ⟨table, columns, hcreated, .inr ⟨x, hx, hsame⟩⟩
      obtain ⟨other, columns', hcreated', hname⟩ := Errand.mem_creates.1 hname
      obtain rfl | ⟨y, hy, hsame'⟩ := hname
      · exact hs.targets j k (Ne.symm hkj) name hmine (Errand.mem_targets hcreated'.target)
      · obtain ⟨htable, column, kind, hindex⟩ := mem_indexesOf hx
        obtain ⟨htable', column', kind', hindex'⟩ := mem_indexesOf hy
        obtain ⟨_, _, _, _, rfl, _⟩ := hcreated
        obtain ⟨_, _, _, _, rfl, _⟩ := hcreated'
        exact hkj (hdistinct.distinct k j (connection_of_indexName (hdistinct.valid k)
          (hdistinct.valid j) (hindex'.symm.trans ((hsame'.trans hsame.symm).trans hindex))))
  · rw [names_after hallowed hdistinct hij] at hthere
    exact hs.names k j hkj name hname hthere

end

end Site

end Granary.Replica
