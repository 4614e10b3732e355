import Granary.Proofs.Replica.Attending
import Granary.Proofs.Replica.Loading
import Granary.Proofs.Replica.Opening
import Granary.Proofs.Replica.Serial
import Granary.Proofs.Replica.Shelf

/-!
# A full refresh forgets what was there

What a full refresh makes of the tables of its connection, with their indexes, is a function of its
source (`reloaded`): whatever tables there were are dropped with their indexes, and all that is then
created is read off the source.  The names of indexes are the one thing that does not belong to the
connection: an index whose name is taken by a relation of somebody else is left out silently.  So
it is asked of a state that these names are free (`Fit`), which a full refresh leaves as it was.
-/

namespace Granary.Replica

open Program (Division)
open Program.Division (Charge)
open Rehearsal (Cursor Index Indexed indexesOf Loader Source Stage StoredSource StoredTable
  Warehouse)

/-! ## What a source makes of its tables -/

/-- The indexes that the replica of a source table is to have. -/
def indexesFor (connection : String) (x : StoredSource) : List Index :=
  indexesOf (tableName connection x.name) (columnsOf x)

/-- What a source makes of the name of a table. -/
def shelfOf (connection : String) (source : Source) (name : String) : Shelf :=
  match source.tables.find? (tableName connection ·.name == name) with
  | some x => ⟨replica? connection x, indexesFor connection x⟩
  | none => ⟨none, []⟩

/-- Nothing stands in the way of the tables of the connection and of their indexes. -/
structure Fit (connection : String) (s : Indexed) : Prop where
  lease : s.stage.leases.isHeld connection = false
  failures : s.stage.failures = []
  source : s.stage.source.Plain
  placed : ∀ i ∈ s.indexes, s.stage.warehouse.has i.table = true
  distinct : ((s.stage.source.tables.flatMap (indexesFor connection)).map (·.name)).Nodup
  tables : ∀ x ∈ s.stage.source.tables, ¬Blocked connection s (tableName connection x.name)
  indexes : ∀ x ∈ s.stage.source.tables, ∀ i ∈ indexesFor connection x,
    ¬Blocked connection s i.name

/-- The tables of the connection, with their indexes, are what the source makes of them; all others
are as they were. -/
structure Reloaded (connection : String) (s t : Indexed) : Prop where
  source : t.stage.source = s.stage.source
  under : ∀ name, Under connection name → shelf t name = shelfOf connection s.stage.source name
  others : ∀ name, ¬Under connection name → shelf t name = shelf s name
  fit : Fit connection t

variable {connection : String} {origin s t u : Indexed} {x : StoredSource}

theorem shelfOf_tableName {source : Source} (hconnection : isName connection = true)
    (hnames : (source.tables.map (·.name)).Nodup) (hx : x ∈ source.tables) :
    shelfOf connection source (tableName connection x.name) =
      ⟨replica? connection x, indexesFor connection x⟩ := by
  have htargets : (source.tables.map fun y => tableName connection y.name).Nodup := by
    have hmap := List.Nodup.map
      (fun _ _ hsame => (tableName_inj hconnection hconnection hsame).2) hnames
    rwa [List.map_map] at hmap
  rw [shelfOf, Named.find?_of_nodup htargets hx]

theorem not_under_of_mem_indexesFor (hconnection : isName connection = true) {i : Index}
    (hi : i ∈ indexesFor connection x) : ¬Under connection i.name := by
  obtain ⟨_, column, kind, hname⟩ := Rehearsal.mem_indexesOf hi
  rw [hname]
  exact not_under_indexName hconnection

theorem Fit.eq_of_name (h : Fit connection s) {x y : StoredSource} (hx : x ∈ s.stage.source.tables)
    (hy : y ∈ s.stage.source.tables) {i j : Index} (hi : i ∈ indexesFor connection x)
    (hj : j ∈ indexesFor connection y) (hname : i.name = j.name) : i = j :=
  List.inj_on_of_nodup_map h.distinct (List.mem_flatMap.2 ⟨x, hx, hi⟩)
    (List.mem_flatMap.2 ⟨y, hy, hj⟩) hname

/-! ## Creating the tables -/

/-- What all tasks share while the tables are created: an index whose name is asked for is that of
the table that asks, and no name that is asked for is taken by anything else. -/
structure Undisturbed (connection : String) (origin s : Indexed) : Prop where
  calm : Calm (acquired connection origin.stage) s.stage
  relations : s.relations = origin.relations
  own : ∀ i ∈ s.indexes, ∀ x ∈ origin.stage.source.tables, ∀ j ∈ indexesFor connection x,
    i.name = j.name → i.table = tableName connection x.name
  targets : ∀ i ∈ s.indexes, ∀ x ∈ origin.stage.source.tables, i.name ≠ tableName connection x.name
  free : ∀ x ∈ origin.stage.source.tables, ∀ i ∈ indexesFor connection x,
    s.stage.warehouse.has i.name = false

/-- The warehouse divided by the names of its tables, each with its indexes. -/
def byShelf (connection : String) (origin : Indexed) :
    Division (Call Cursor Loader) Answer Indexed String Shelf where
  step c s answer t := Indexed.handle c s = (answer, t)
  inv := Undisturbed connection origin
  view name s := shelf s name

section

variable (hconnection : isName connection = true)
include hconnection

/-- Changing one table of the connection takes no name that is asked for. -/
theorem Undisturbed.stage {name : String} {stage : Stage} (h : Undisturbed connection origin s)
    (hname : Under connection name) (hcalm : Calm (acquired connection origin.stage) stage)
    (hothers : ∀ other, other ≠ name →
      stage.warehouse.table? other = s.stage.warehouse.table? other) :
    Undisturbed connection origin { s with stage } where
  calm := hcalm
  relations := h.relations
  own := h.own
  targets := h.targets
  free x hx i hi := by
    have hne : i.name ≠ name := fun hsame =>
      not_under_of_mem_indexesFor hconnection hi (hsame ▸ hname)
    have hfree := h.free x hx i hi
    rw [Warehouse.has, hothers i.name hne]
    exact hfree

/-- A call that concerns tables only is answered as it is without indexes. -/
theorem calls_of_local {c : Call Cursor Loader} {answer : Answer c} {name : String}
    {v w : Option StoredTable} {indexes : List Index} (hname : Under connection name)
    (hplain : ∀ s, Undisturbed connection origin s → Indexed.handle c s =
      ((Stage.handle c s.stage).1, { s with stage := (Stage.handle c s.stage).2 }))
    (hlocal : (byTable (acquired connection origin.stage)).Local name c v answer w) :
    (byShelf connection origin).Calls name c ⟨v, indexes⟩ fun given u =>
      u = ⟨w, indexes⟩ ∧ given = answer := by
  refine ⟨fun s _ _ => ⟨_, _, rfl⟩, fun s given t hs hv ht => ?_⟩
  obtain ⟨htable, hindexes⟩ := Shelf.mk.inj hv
  obtain ⟨rfl, rfl⟩ := Prod.mk.inj ((hplain s hs).symm.trans ht)
  obtain ⟨hanswer, hcalm, hview, hothers⟩ := hlocal.effect s.stage _ _ hs.calm htable rfl
  refine ⟨hs.stage hconnection hname hcalm hothers, fun other hne => ?_, ?_, hanswer⟩
  · exact congrArg (Shelf.mk · _) (hothers other hne)
  · exact congrArg₂ Shelf.mk hview hindexes

end

theorem handle_beginLoad (hfit : Fit connection origin) (hx : x ∈ origin.stage.source.tables)
    (columns : List Column) (h : Undisturbed connection origin s) :
    Indexed.handle (.beginLoad (tableName connection x.name) columns .create) s =
      ((Stage.handle (.beginLoad (tableName connection x.name) columns .create) s.stage).1,
        { s with stage := (Stage.handle
          (.beginLoad (tableName connection x.name) columns .create) s.stage).2 }) := by
  have hreserved : s.reserved (tableName connection x.name) = false := by
    rw [Indexed.reserved, Bool.or_eq_false_iff]
    constructor
    · exact List.any_eq_false.2 fun i hi hname => h.targets i hi x hx (beq_iff_eq.1 hname)
    · refine Bool.eq_false_iff.2 fun hrelation => hfit.tables x hx (.inr (.inr ?_))
      rw [h.relations] at hrelation
      exact List.contains_iff_mem.1 hrelation
  simp only [Indexed.handle, hreserved]
  simp

/-- The indexes of a table that is just there are all created. -/
theorem foldl_indexesFor (hfit : Fit connection origin) (hx : x ∈ origin.stage.source.tables)
    (h : Undisturbed connection origin s)
    (hbare : (shelf s (tableName connection x.name)).indexes = []) :
    (indexesFor connection x).foldl Indexed.createIndex s =
      { s with indexes := s.indexes ++ indexesFor connection x } := by
  have hnodup : ((indexesFor connection x).map (·.name)).Nodup := by
    have hsub := (List.singleton_sublist.2 hx).flatMap (indexesFor connection)
    rw [List.flatMap_singleton] at hsub
    exact hfit.distinct.sublist (hsub.map _)
  refine Indexed.foldl_createIndex hnodup fun i hi => ?_
  rw [Indexed.taken, h.free x hx i hi, Bool.false_or, Indexed.reserved, Bool.or_eq_false_iff]
  constructor
  · -- An index that has the name would be one of this table, which has none yet.
    refine List.any_eq_false.2 fun k hk hname => ?_
    have htable := h.own k hk x hx i hi (beq_iff_eq.1 hname)
    have hmem := mem_shelf.2 ⟨hk, htable⟩
    rw [hbare] at hmem
    cases hmem
  · refine Bool.eq_false_iff.2 fun hrelation => hfit.indexes x hx i hi (.inr (.inr ?_))
    rw [h.relations] at hrelation
    exact List.contains_iff_mem.1 hrelation

theorem Undisturbed.indexed (h : Undisturbed connection origin s)
    (hconnection : isName connection = true) (hfit : Fit connection origin)
    (hx : x ∈ origin.stage.source.tables) :
    Undisturbed connection origin { s with indexes := s.indexes ++ indexesFor connection x } where
  calm := h.calm
  relations := h.relations
  own i hi y hy j hj hname := by
    obtain hi | hi := List.mem_append.1 hi
    · exact h.own i hi y hy j hj hname
    · rw [hfit.eq_of_name hx hy hi hj hname]
      exact (Rehearsal.mem_indexesOf hj).1
  targets i hi y hy hname := by
    obtain hi | hi := List.mem_append.1 hi
    · exact h.targets i hi y hy hname
    · refine not_under_of_mem_indexesFor hconnection hi ?_
      rw [hname]
      exact under_tableName connection y.name
  free := h.free

theorem shelf_indexed (s : Indexed) (connection : String) (x : StoredSource) (name : String) :
    (shelf { s with indexes := s.indexes ++ indexesFor connection x } name).indexes =
      (shelf s name).indexes ++
        if name = tableName connection x.name then indexesFor connection x else [] := by
  have htables : ∀ i ∈ indexesFor connection x, i.table = tableName connection x.name :=
    fun i hi => (Rehearsal.mem_indexesOf hi).1
  rw [shelf, shelf, List.filter_append]
  refine congrArg (s.indexes.filter (·.table == name) ++ ·) ?_
  by_cases hname : name = tableName connection x.name
  · rw [if_pos hname, List.filter_eq_self]
    exact fun i hi => beq_iff_eq.2 ((htables i hi).trans hname.symm)
  · rw [if_neg hname, List.filter_eq_nil_iff]
    exact fun i hi hsame => hname ((beq_iff_eq.1 hsame).symm.trans (htables i hi))

/-- Adding the key of a table creates all its indexes. -/
theorem calls_finalize (hconnection : isName connection = true) (hfit : Fit connection origin)
    (hx : x ∈ origin.stage.source.tables) :
    (byShelf connection origin).Calls (tableName connection x.name)
      (.finalize (tableName connection x.name) x.primaryKey (columnsOf x))
      ⟨some (copyOf connection x), []⟩ fun answer u => answer = .ok () ∧
        u = ⟨some { copyOf connection x with primaryKey := x.primaryKey },
          indexesFor connection x⟩ := by
  refine ⟨fun s _ _ => ⟨_, _, rfl⟩, fun s answer t hs hv ht => ?_⟩
  obtain ⟨htable, hindexes⟩ := Shelf.mk.inj hv
  generalize hstage : Stage.handle
    (.finalize (tableName connection x.name) x.primaryKey (columnsOf x)) s.stage = result at *
  obtain ⟨outcome, stage⟩ := result
  obtain ⟨rfl, hcalm, hview, hothers⟩ :=
    (local_finalize x.primaryKey (columnsOf x) (copyOf connection x)).effect s.stage _ _ hs.calm
      htable hstage
  have hunder := under_tableName connection x.name
  -- The key changes no table but this one, so the names of its indexes are still free.
  have hs' : Undisturbed connection origin { s with stage } :=
    hs.stage hconnection hunder hcalm hothers
  have hcreated := foldl_indexesFor hfit hx hs' hindexes
  have hhandle : Indexed.handle
      (.finalize (tableName connection x.name) x.primaryKey (columnsOf x)) s =
        (.ok (), { s with stage, indexes := s.indexes ++ indexesFor connection x }) := by
    simp only [Indexed.handle, hstage]
    exact congrArg (Prod.mk _) hcreated
  obtain ⟨rfl, rfl⟩ := Prod.mk.inj (hhandle.symm.trans ht)
  have hshelf := shelf_indexed { s with stage } connection x
  refine ⟨hs'.indexed hconnection hfit hx, fun other hne => ?_, rfl, ?_⟩
  · refine congrArg₂ Shelf.mk (hothers other hne) ((hshelf other).trans ?_)
    rw [if_neg hne, List.append_nil]
    rfl
  · refine congrArg₂ Shelf.mk hview ((hshelf (tableName connection x.name)).trans ?_)
    rw [if_pos rfl]
    exact congrArg (· ++ indexesFor connection x) hindexes

theorem local_dropCursor {name : String} {v : Option StoredTable} {stage : Stage}
    (cursor : Cursor) : (byTable stage).Local name (.dropCursor cursor) v () v :=
  local_of_quiet fun s _ _ => ⟨s.trace, rfl⟩

theorem local_rollback {name : String} {v : Option StoredTable} {stage : Stage} (loader : Loader) :
    (byTable stage).Local name (.rollback loader) v (.ok ()) v :=
  local_of_quiet fun _ hs _ => ⟨_, attempt_of_calm hs _ _ _ _⟩

/-- While nothing fails, the databases serve the task of each source table. -/
theorem serves_byShelf (hconnection : isName connection = true) (hfit : Fit connection origin)
    (hx : x ∈ origin.stage.source.tables) :
    Serves (byShelf connection origin) connection x (· = .ok x.description) (fun _ => False)
      ⟨none, []⟩ ⟨some (copyOf connection x), []⟩
      ⟨some { copyOf connection x with primaryKey := x.primaryKey }, indexesFor connection x⟩
      ⟨none, []⟩ := by
  have hunder := under_tableName connection x.name
  exact {
    describe := calls_of_local hconnection hunder (fun _ _ => rfl)
      (local_describeSource (hfit.source.describe hx))
    told := fun d hd => Except.ok.inj hd
    openCursor := fun columns chunk =>
      (calls_of_local hconnection hunder (fun _ _ => rfl)
        (local_openCursor (hfit.source.rowsOf hx))).mono fun _ _ h => ⟨h.1, .inl h.2⟩
    nextChunk := fun cursor _ =>
      (calls_of_local hconnection hunder (fun _ _ => rfl) (local_nextChunk cursor)).mono
        fun _ _ h => ⟨h.1, congrArg Prod.fst h.2, .inl (congrArg Prod.snd h.2)⟩
    closeCursor := fun cursor _ =>
      (calls_of_local hconnection hunder (fun _ _ => rfl) (local_closeCursor cursor)).mono
        fun _ _ h => ⟨h.1, .inl h.2⟩
    dropCursor := fun cursor _ =>
      (calls_of_local hconnection hunder (fun _ _ => rfl) (local_dropCursor cursor)).mono
        fun _ _ h => h.1
    beginLoad := fun columns =>
      (calls_of_local hconnection hunder (fun _ hs => handle_beginLoad hfit hx columns hs)
        (local_beginLoad columns)).mono fun _ _ h => ⟨h.1, .inl h.2⟩
    insertBatch := fun loader rows _ =>
      (calls_of_local hconnection hunder (fun _ _ => rfl) (local_insertBatch loader rows)).mono
        fun _ _ h => ⟨h.1, .inl h.2⟩
    commit := (calls_of_local hconnection hunder (fun _ _ => rfl)
      (local_commit (columnsOf x) x.rows)).mono fun _ _ h => .inl ⟨h.2, h.1⟩
    rollback := fun loader _ =>
      (calls_of_local hconnection hunder (fun _ _ => rfl) (local_rollback loader)).mono
        fun _ _ h => h.1
    finalize := (calls_finalize hconnection hfit hx).mono fun _ _ h => .inl h }

/-! ## Dropping the tables that were there -/

/-- Tables of the connection have been dropped with their indexes, all but some, and everything else
is as it was. -/
structure Emptying (connection : String) (s : Indexed) (names : List String) (u : Indexed) :
    Prop where
  calm : Calm (acquired connection s.stage) u.stage
  relations : u.relations = s.relations
  listed : ∀ name ∈ names, name ∈ s.stage.warehouse.startingWith (stem connection)
  left : ∀ name, Under connection name → u.stage.warehouse.has name = true → name ∈ names
  indexes : ∀ i ∈ u.indexes, i ∈ s.indexes ∧ (Under connection i.table → i.table ∈ names)
  others : ∀ name, ¬Under connection name → shelf u name = shelf s name

variable {names : List String} {name : String}

theorem Emptying.quiet (h : Emptying connection s names u) (trace : List Rehearsal.Event) :
    Emptying connection s names { u with stage := { u.stage with trace } } where
  calm := ⟨h.calm.source, h.calm.failures, h.calm.leases, h.calm.ordered⟩
  relations := h.relations
  listed := h.listed
  left := h.left
  indexes := h.indexes
  others := h.others

theorem emptying_start (hfit : Fit connection s) :
    Emptying connection s (s.stage.warehouse.startingWith (stem connection))
      { s with stage := acquired connection s.stage } where
  calm := ⟨rfl, hfit.failures, rfl, id⟩
  relations := rfl
  listed _ h := h
  left _ hname h := Warehouse.mem_startingWith.2 ⟨hname, h⟩
  indexes i hi := ⟨hi, fun hunder => Warehouse.mem_startingWith.2 ⟨hunder, hfit.placed i hi⟩⟩
  others _ _ := rfl

theorem Emptying.drop (h : Emptying connection s (name :: names) u) (trace : List Rehearsal.Event) :
    Emptying connection s names { u with
      stage := { u.stage with warehouse := u.stage.warehouse.drop name, trace }
      indexes := u.indexes.filter (·.table != name) } := by
  have hlisted := List.forall_mem_cons.1 h.listed
  have hname : Under connection name := (List.mem_filter.1 hlisted.1).2
  have hchange : Warehouse.Change name u.stage.warehouse (u.stage.warehouse.drop name) := .drop
  refine ⟨⟨h.calm.source, h.calm.failures, h.calm.leases, ?_⟩, h.relations, hlisted.2,
    fun other hother hhas => ?_, fun i hi => ?_, fun other hother => ?_⟩
  · exact fun ho => hchange.ordered (h.calm.ordered ho)
  · have hne : other ≠ name := by
      rintro rfl
      rw [Warehouse.has_drop_self] at hhas
      cases hhas
    rw [Warehouse.has, hchange.table? hne] at hhas
    exact (List.mem_cons.1 (h.left other hother hhas)).resolve_left hne
  · obtain ⟨hi, hne⟩ := List.mem_filter.1 hi
    obtain ⟨hold, hunder⟩ := h.indexes i hi
    exact ⟨hold, fun hi => (List.mem_cons.1 (hunder hi)).resolve_left (bne_iff_ne.1 hne)⟩
  · have hne : other ≠ name := fun hsame => hother (hsame ▸ hname)
    rw [← h.others other hother]
    refine congrArg₂ Shelf.mk (hchange.table? hne) ?_
    rw [List.filter_filter]
    refine List.filter_congr fun i _ => ?_
    by_cases hi : i.table = other
    · simp [hi, hne]
    · simp [hi]

theorem opens_emptying (hfit : Fit connection s) :
    Opens (fun c u answer t => Indexed.handle c u = (answer, t)) connection
      { s with stage := acquired connection s.stage } (Emptying connection s) (fun _ => False)
      (s.stage.source.tables.map (·.name)) where
  list := by
    refine ⟨⟨_, _, rfl⟩, fun outcome t ht => ?_⟩
    have hstart := emptying_start hfit
    have hcall := attempt_of_calm hstart.calm ⟨.listTables (stem connection), 0⟩
      "warehouse.list_tables" (stem connection)
      (Stage.answer fun v => .ok (v.warehouse.startingWith (stem connection)))
    simp only [Indexed.handle, Stage.handle, hcall] at ht
    cases ht
    exact hstart.quiet _
  drop name rest u hu := by
    refine ⟨⟨_, _, rfl⟩, fun outcome t ht => ?_⟩
    have hcall := attempt_of_calm hu.calm ⟨.dropTable name, 0⟩ "warehouse.drop_table" name
      (Stage.change (·.drop name))
    simp only [Indexed.handle, Stage.handle, hcall] at ht
    cases ht
    exact hu.drop _
  source u hu := by
    refine ⟨⟨_, _, rfl⟩, fun outcome t ht => ?_⟩
    have hcall := attempt_of_calm hu.calm ⟨.listSource, 0⟩ "source.list_tables" ""
      (Stage.answer fun v => .ok v.source.list)
    simp only [Indexed.handle, Stage.handle, hcall] at ht
    cases ht
    refine ⟨?_, hu.quiet _⟩
    have hlisted : u.stage.source.listed = none := by
      rw [hu.calm.source]
      exact hfit.source.listed
    rw [Rehearsal.Source.list, hlisted, Option.getD_none, hu.calm.source]
    rfl

theorem Emptying.shelf (h : Emptying connection s [] u) (hname : Under connection name) :
    shelf u name = ⟨none, []⟩ := by
  refine congrArg₂ Shelf.mk ?_ ?_
  · exact Option.not_isSome_iff_eq_none.1 fun hhas => List.not_mem_nil (h.left name hname hhas)
  · refine List.filter_eq_nil_iff.2 fun i hi hsame => ?_
    exact List.not_mem_nil ((h.indexes i hi).2 (beq_iff_eq.1 hsame ▸ hname))

theorem Emptying.undisturbed (h : Emptying connection s [] u)
    (hconnection : isName connection = true) (hfit : Fit connection s) :
    Undisturbed connection s u where
  calm := h.calm
  relations := h.relations
  own i hi x hx j hj hname := by
    obtain ⟨hold, hunder⟩ := h.indexes i hi
    exact absurd (.inr (.inl ⟨i, hold, hname, fun hi => List.not_mem_nil (hunder hi)⟩))
      (hfit.indexes x hx j hj)
  targets i hi x hx hname := by
    obtain ⟨hold, hunder⟩ := h.indexes i hi
    exact hfit.tables x hx (.inr (.inl ⟨i, hold, hname, fun hi => List.not_mem_nil (hunder hi)⟩))
  free x hx i hi := by
    have hunder := not_under_of_mem_indexesFor hconnection hi
    refine Bool.eq_false_iff.2 fun hhas => hfit.indexes x hx i hi (.inl ⟨hunder, ?_⟩)
    exact (congrArg Option.isSome (congrArg Shelf.table (h.others _ hunder))).symm.trans hhas

/-! ## A full refresh -/

/-- The task of a source table while nothing fails. -/
def creating (connection : String) (x : StoredSource) :
    Charge String Shelf Error (Option TableReport) where
  owner := tableName connection x.name
  halt := Found x ⟨none, []⟩ ⟨some (copyOf connection x), []⟩
    ⟨some { copyOf connection x with primaryKey := x.primaryKey }, indexesFor connection x⟩
    ⟨none, []⟩
  post := Worked connection x (· = .ok x.description) (fun _ => False) ⟨none, []⟩
    ⟨some { copyOf connection x with primaryKey := x.primaryKey }, indexesFor connection x⟩
    ⟨none, []⟩

theorem creating_succeeds {e : Error} {v : Shelf} : ¬(creating connection x).post (.error e) v := by
  rintro (⟨_, _, hdescribed, _⟩ | ⟨_, _, _, _, hfailure, _⟩)
  · cases hdescribed
  · exact hfailure

theorem shelf_of_creating {report : Option TableReport} {v : Shelf}
    (h : (creating connection x).post (.ok report) v) :
    v = ⟨replica? connection x, indexesFor connection x⟩ := by
  obtain ⟨_, rfl⟩ := h
  by_cases hempty : x.columns.isEmpty = true
  · have hnone : indexesFor connection x = [] := by
      rw [indexesFor, columnsOf, List.isEmpty_iff.1 hempty]
      rfl
    rw [if_pos hempty, replica?, if_pos hempty, hnone]
  · rw [if_neg hempty, replica?_of_columns (Bool.eq_false_iff.2 hempty)]

theorem isSome_of_mem_shelfOf {source : Source} {i : Index}
    (h : i ∈ (shelfOf connection source name).indexes) :
    (shelfOf connection source name).table.isSome = true := by
  unfold shelfOf at h ⊢
  cases hfind : source.tables.find? (tableName connection ·.name == name) with
  | none =>
    rw [hfind] at h
    cases h
  | some x =>
    rw [hfind] at h
    have hmem : i ∈ indexesFor connection x := h
    have hcolumns : x.columns.isEmpty = false := by
      cases hx : x.columns with
      | nil =>
        rw [indexesFor, columnsOf, hx] at hmem
        cases hmem
      | cons _ _ => rfl
    exact congrArg Option.isSome (replica?_of_columns hcolumns)

/-- What makes a state fit for the connection is not touched by a full refresh. -/
theorem Fit.of_reloaded (hfit : Fit connection s)
    (hunder : ∀ name, Under connection name → shelf t name = shelfOf connection s.stage.source name)
    (hothers : ∀ name, ¬Under connection name → shelf t name = shelf s name)
    (hsource : t.stage.source = s.stage.source) (hleases : t.stage.leases = s.stage.leases)
    (hfailures : t.stage.failures = []) (hrelations : t.relations = s.relations) :
    Fit connection t where
  lease := hleases ▸ hfit.lease
  failures := hfailures
  source := hsource ▸ hfit.source
  placed i hi := by
    -- Both shelves go together: the indexes of a name, and the table they are on.
    have hmem := mem_shelf.2 ⟨hi, rfl⟩
    by_cases hname : Under connection i.table
    · rw [hunder i.table hname] at hmem
      have htable := isSome_of_mem_shelfOf hmem
      rwa [← hunder i.table hname] at htable
    · rw [hothers i.table hname] at hmem
      have htable : (shelf s i.table).table.isSome = true := hfit.placed i (mem_shelf.1 hmem).1
      rwa [← hothers i.table hname] at htable
  distinct := hsource ▸ hfit.distinct
  tables x hx h := hfit.tables x (hsource ▸ hx) (h.of_others hothers hrelations)
  indexes x hx i hi h := hfit.indexes x (hsource ▸ hx) i hi (h.of_others hothers hrelations)

/-- Once all tasks have ended and the lease has been given back, the connection is reloaded. -/
theorem reloaded_of_concluded (hconnection : isName connection = true) (hfit : Fit connection s)
    (hu : Emptying connection s [] u)
    (hmet : ∀ x ∈ s.stage.source.tables, ∃ report,
      (creating connection x).post (.ok report) (shelf t (tableName connection x.name)))
    (hinv : Undisturbed connection s t)
    (hothers : ∀ name, name ∉ (s.stage.source.tables.map (creating connection)).map (·.owner) →
      shelf t name = shelf u name) :
    Reloaded connection s
      { t with stage := { t.stage with leases := t.stage.leases.drop ⟨connection⟩ } } := by
  have hunder : ∀ name, Under connection name →
      shelf t name = shelfOf connection s.stage.source name := by
    intro name hname
    -- A name of the connection is that of a source table, or nothing is left of it.
    by_cases htarget : ∃ x ∈ s.stage.source.tables, tableName connection x.name = name
    · obtain ⟨x, hx, rfl⟩ := htarget
      obtain ⟨report, hreport⟩ := hmet x hx
      rw [shelf_of_creating hreport, shelfOf_tableName hconnection hfit.source.names hx]
    · have hnone : s.stage.source.tables.find? (tableName connection ·.name == name) = none := by
        refine List.find?_eq_none.2 fun x hx hsame => htarget ⟨x, hx, ?_⟩
        rwa [beq_iff_eq] at hsame
      have hfree : name ∉ (s.stage.source.tables.map (creating connection)).map (·.owner) := by
        rw [List.map_map, List.mem_map]
        exact htarget
      rw [hothers name hfree, hu.shelf hname, shelfOf, hnone]
  have hkept : ∀ name, ¬Under connection name → shelf t name = shelf s name := by
    intro name hname
    have hfree : name ∉ (s.stage.source.tables.map (creating connection)).map (·.owner) := by
      rw [List.map_map, List.mem_map]
      rintro ⟨x, _, rfl⟩
      exact hname (under_tableName connection x.name)
    exact (hothers name hfree).trans (hu.others name hname)
  have hleases : t.stage.leases.drop ⟨connection⟩ = s.stage.leases := by
    rw [hinv.calm.leases]
    exact drop_acquired hfit.lease
  exact ⟨hinv.calm.source, hunder, hkept,
    hfit.of_reloaded hunder hkept hinv.calm.source hleases hinv.calm.failures hinv.relations⟩

theorem bound_reloaded {mode : Mode} {pace : Pace} (hmode : mode ≠ .refresh)
    (hconnection : checkName connection = .ok ()) (hfit : Fit connection s)
    (hrun : mode = .run → s.stage.warehouse.startingWith (stem connection) = [])
    (hfetches : ∀ x ∈ s.stage.source.tables, x.rows.length < pace.fetches) :
    Lifecycle.Bound (byShelf connection s) mode pace connection
      (fun outcome t => (∃ report, outcome = .ok report) ∧ Reloaded connection s t)
      (Lifecycle.start connection, s) := by
  have hname := checkName_eq_ok_iff.1 hconnection
  have hacquire : Indexed.handle (.acquire connection) s =
      (.ok ⟨connection⟩, { s with stage := acquired connection s.stage }) := by
    simp only [Indexed.handle, handle_acquire hfit.lease]
  rw [Lifecycle.start, hconnection]
  refine ⟨⟨_, _, rfl⟩, fun guard t ht => ?_, fun e t ht => ?_⟩
  · cases hacquire.symm.trans ht
    -- A first run is given a warehouse with no table to be dropped, so there is no conflict.
    have hopens := (opens_emptying hfit).tasks hmode pace fun hmode name rest u hu => by
      have hlisted := hu.listed name List.mem_cons_self
      rw [hrun hmode] at hlisted
      cases hlisted
    refine hopens.mono fun outcome u hu => ?_
    cases outcome with
    | error e => exact hu.elim
    | ok ts =>
      obtain ⟨rfl, hu⟩ := hu
      refine ⟨s.stage.source.tables.map (creating connection), ?_, hu.undisturbed hname hfit,
        ?_, ?_⟩
      · have hnodup := nodup_owners hname hfit.source.names
        rw [List.map_map] at hnodup ⊢
        exact hnodup
      · rw [List.map_map, List.forall₂_map_left_iff, List.forall₂_map_right_iff, List.forall₂_same]
        intro x hx
        have hview : (byShelf connection s).view (creating connection x).owner u = ⟨none, []⟩ :=
          hu.shelf (under_tableName connection x.name)
        rw [Charge.Held, hview]
        exact tends_loadTask (serves_byShelf hname hfit hx) (hfit.source.described x hx)
          (hfetches x hx)
      · intro outcome t hconcluded hinv hothers
        obtain ⟨results, rfl, hmet⟩ | ⟨_, _, _, _, _, _, _, _, hfailed, _⟩ := hconcluded.of_map
        · refine ⟨⟨_, rfl⟩, fun v hv => ?_⟩
          cases hv
          exact ⟨⟨_, rfl⟩, reloaded_of_concluded hname hfit hu
            (fun x hx => Division.exists_of_forall₂ hmet hx) hinv hothers⟩
        · exact absurd hfailed creating_succeeds
  · cases hacquire.symm.trans ht

/-- When nothing fails, a full refresh leaves under the prefix of its connection what its source
makes of it, whatever was there before: the tables that a first run creates where there is none,
with their columns, rows, keys and indexes, and nothing else.  Everything outside the prefix is as
it was.  The state is fit for the next full refresh, which then changes nothing.  So it goes in
every order of the tasks, however many of them run side by side, and one after another. -/
theorem reloaded {mode : Mode} {pace : Pace} (hmode : mode ≠ .refresh)
    (hconnection : checkName connection = .ok ()) (hfit : Fit connection s)
    (hrun : mode = .run → s.stage.warehouse.startingWith (stem connection) = [])
    (hfetches : ∀ x ∈ s.stage.source.tables, x.rows.length < pace.fetches) :
    (∀ limit, Inevitable
      (Lifecycle.Step mode pace connection (max limit 1)
        fun c s answer t => Indexed.handle c s = (answer, t))
      (fun y => (∃ report, y.1 = .ended (.ok report)) ∧ Reloaded connection s y.2)
      (Lifecycle.start connection, s)) ∧
    ∃ report t, (lifecycle mode pace connection).run.run Indexed.handle s =
      (some (.ok report), t) ∧ Reloaded connection s t := by
  have hbound := bound_reloaded hmode hconnection hfit hrun hfetches
  refine ⟨fun limit => ?_, ?_⟩
  · have hlimit : 0 < max limit 1 := Nat.lt_of_lt_of_le Nat.zero_lt_one (Nat.le_max_right _ _)
    refine (hbound.inevitable hlimit).trans fun y hy => .now ?_
    obtain ⟨outcome, hend, ⟨report, rfl⟩, hreloaded⟩ := hy
    exact ⟨⟨report, hend⟩, hreloaded⟩
  · obtain ⟨outcome, t, hrun, ⟨report, rfl⟩, hreloaded⟩ :=
      (Lifecycle.leads_of_inevitable (hbound.inevitable Nat.zero_lt_one)).run
    exact ⟨report, t, hrun, hreloaded⟩

/-- A shop with some users, where tables of an earlier run and of another shop are there. -/
def staleShop : Indexed where
  stage := {
    source := { tables := [
      { name := "users", columns := [⟨"id", "int4", false, {}, 1⟩], primaryKey := ["id"],
        rows := [[some "1"], [some "2"]] }] }
    warehouse := { tables := [
      { name := "shop-2__orders", rows := [[some "7"]] }, { name := "shop__old" },
      { name := "shop__users", rows := [[some "1"]] }] } }
  indexes := [⟨"idx_shop-2__orders_id_num", "shop-2__orders", "id"⟩,
    ⟨"idx_shop__users_id_num", "shop__old", "id"⟩]

theorem reloaded_staleShop :
    (checkName "shop" = .ok () ∧ Fit "shop" staleShop) ∧
    ∃ report t, (lifecycle .fullRefresh ⟨1, 1, 3⟩ "shop").run.run Indexed.handle staleShop =
        (some (.ok report), t) ∧
      (shelf t "shop__users").indexes = [⟨"idx_shop__users_id_num", "shop__users", "id"⟩] ∧
      shelf t "shop__old" = ⟨none, []⟩ ∧
      shelf t "shop-2__orders" = shelf staleShop "shop-2__orders" := by
  have hconnection : checkName "shop" = .ok () := checkName_eq_ok_iff.2 (by decide +kernel)
  have hfit : Fit "shop" staleShop := {
    lease := rfl
    failures := rfl
    source := ⟨rfl, by decide, by decide⟩
    placed := by decide +kernel
    distinct := by decide +kernel
    tables := by decide +kernel
    indexes := by decide +kernel }
  have hrun : Mode.fullRefresh = .run →
      staleShop.stage.warehouse.startingWith (stem "shop") = [] := fun h => nomatch h
  have hfetches : ∀ x ∈ staleShop.stage.source.tables, x.rows.length < Pace.fetches ⟨1, 1, 3⟩ := by
    decide
  obtain ⟨_, report, t, hend, ht⟩ := reloaded (by decide) hconnection hfit hrun hfetches
  refine ⟨⟨hconnection, hfit⟩, report, t, hend, ?_, ?_, ?_⟩
  · rw [ht.under "shop__users" (by decide +kernel)]
    decide +kernel
  · rw [ht.under "shop__old" (by decide +kernel)]
    decide +kernel
  · exact ht.others "shop-2__orders" (by decide +kernel)

/-- A shop with no users yet, and a warehouse with some tables. -/
def quietShop (tables : List StoredTable) : Indexed where
  stage := {
    source := { tables := [
      { name := "users", columns := [⟨"id", "int4", false, {}, 1⟩], primaryKey := ["id"],
        rows := [] }] }
    warehouse := { tables } }

/-- How a full refresh of the shop ends. -/
def reloadEnd (tables : List StoredTable) : Option (Except Error Report) × Indexed :=
  (lifecycle .fullRefresh ⟨1, 1, 1⟩ "shop").run.run Indexed.handle (quietShop tables)

theorem ok_of_toOption {ε α : Type} {outcome : Option (Except ε α)} {a : α}
    (h : outcome.bind Except.toOption = some a) : outcome = some (.ok a) := by
  obtain _ | e | b := outcome
  · cases h
  · cases h
  · cases h
    rfl

/-- Where the name of an index is taken by a table that is not of the connection, a full refresh
leaves its table without the index. -/
theorem index_left_out : ¬∀ (tables tables' : List StoredTable) (report report' : Report)
    (t t' : Indexed), reloadEnd tables = (some (.ok report), t) →
    reloadEnd tables' = (some (.ok report'), t') →
    ∀ name, Under "shop" name → shelf t name = shelf t' name := by
  intro h
  have hends : ∀ tables ∈ [[], [{ name := "idx_shop__users_id_num" }]], (reloadEnd tables).1 =
      some (.ok ⟨"shop", .fullRefresh,
        (quietShop []).stage.source.tables.filterMap (loaded? "shop")⟩) :=
    fun tables htables => ok_of_toOption (by revert tables; decide +kernel)
  have hsame := h [] [{ name := "idx_shop__users_id_num" }] _ _ _ _
    (Prod.ext (hends _ (by decide)) rfl) (Prod.ext (hends _ (by decide)) rfl) "shop__users"
    (by decide +kernel)
  revert hsame
  decide +kernel

end Granary.Replica
