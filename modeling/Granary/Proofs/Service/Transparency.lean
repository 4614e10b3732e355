import Granary.Proofs.Compile.Catalog
import Granary.Proofs.Compile.RootTable
import Granary.Proofs.Runs
import Granary.Schema.Cache
import Granary.Service

/-!
# The cache cannot be noticed

A request is compiled against a snapshot that is kept, against the whole catalog, or, if it has no
joins, against its one table.  While catalogs stay as they are, what is kept under the id of a
datasource is the snapshot of its whole catalog (`Truthful`), and a request that looks at its root
table only compiles alike against all three.  So whatever the cache has kept, dropped or let expire,
every request comes to what it comes to against the whole catalog (`Turn.intended`), but for the
letter case of the name of a table that is not there.
-/

namespace Granary.Service

open Outcome
open Program (run_bind_error run_bind_ok)
open Text (lowercase trim)

/-- Catalogs that stay as they are and can always be looked at. -/
structure Catalogs where
  columns : Profile → List Schema.ColumnRecord
  keys : Profile → List Schema.KeyRecord
  references : Profile → List Schema.ReferenceRecord
  baseTables : Profile → List String
  hasTable : Profile → String → Bool
  /-- A table with columns exists. -/
  hasTable_of_column : ∀ p table, ∀ r ∈ columns p, lowercase r.table = lowercase table →
    hasTable p table = true

namespace Catalogs

/-- The columns of one table, whatever the letter case of its name. -/
def columnsOf (b : Catalogs) (p : Profile) (table : String) : List Schema.ColumnRecord :=
  (b.columns p).filter fun r => lowercase r.table == lowercase table

def keysOf (b : Catalogs) (p : Profile) (table : String) : List Schema.KeyRecord :=
  (b.keys p).filter fun k => lowercase k.table == lowercase table

def whole (b : Catalogs) (p : Profile) : Snapshot :=
  Schema.snapshotOf (b.columns p) (b.keys p) (b.references p)

def one (b : Catalogs) (p : Profile) (table : String) : Snapshot :=
  Schema.snapshotOf (b.columnsOf p table) (b.keysOf p table) []

theorem table?_one (b : Catalogs) (p : Profile) (table : String) :
    (b.one p table).table? table = (b.whole p).table? table :=
  (Snapshot.table?_snapshotOf (b.columns p) _ _ _ _ table).symm

theorem hasTable_of_whole (b : Catalogs) {p : Profile} {table : String}
    (h : (b.whole p).hasTable table = true) : b.hasTable p table = true := by
  by_contra hno
  have hrows : ∀ r ∈ b.columns p, lowercase r.table ≠ lowercase table :=
    fun r hr hsame => hno (b.hasTable_of_column p table r hr hsame)
  have hnone := Snapshot.table?_snapshotOf_eq_none (b.keys p) (b.references p) hrows
  rw [Snapshot.hasTable, whole, hnone] at h
  cases h

end Catalogs

/-- A request on a datasource, and what its connection and its statement come to. -/
structure Turn where
  id : String
  request : Request
  connect : Profile → Except Error Unit
  execute : Profile → String → List String → Except Error (List Json)

/-- A statement that was executed, with the values of its parameters. -/
abbrev Executed := Profile × String × List String

/-- The cache, how often the clock has been read, and the statements executed so far. -/
structure Desk where
  cache : Schema.Cache
  readings : Nat := 0
  executed : List Executed := []

/-- Answers the calls of a turn; the clock may show anything at any reading. -/
def Turn.handle (turn : Turn) (b : Catalogs) (clock : Nat → Nat) :
    (c : Call Profile) → Desk → Answer c × Desk
  | .remembered key, w =>
    (w.cache.get (clock w.readings) key, { w with readings := w.readings + 1 })
  | .keep key snapshot, w =>
    ((), { w with cache := w.cache.insert (clock w.readings) key snapshot,
                  readings := w.readings + 1 })
  | .forget key, w => ((), { w with cache := w.cache.invalidate key })
  | .connect p, w => ((turn.connect p).map fun () => p, w)
  | .listBaseTables p, w => (.ok (b.baseTables p), w)
  | .tableExists p table, w => (.ok (b.hasTable p table), w)
  | .fetchColumns p none, w => (.ok (b.columns p), w)
  | .fetchColumns p (some table), w => (.ok (b.columnsOf p table), w)
  | .fetchPrimaryKeys p none, w => (.ok (b.keys p), w)
  | .fetchPrimaryKeys p (some table), w => (.ok (b.keysOf p table), w)
  | .fetchForeignKeys p, w => (.ok (b.references p), w)
  | .execute p sql params, w =>
    (turn.execute p sql params, { w with executed := w.executed ++ [(p, sql, params)] })

/-- What became of a turn, and the statements that it executed. -/
abbrev Served := Option (Except Error Response) × List Executed

def serve (s : Service) (b : Catalogs) (clock : Nat → Nat) : List Turn → Desk → List Served
  | [], _ => []
  | turn :: rest, w =>
    let (out, w) := (s.execute turn.id turn.request).run.run (turn.handle b clock)
      { w with executed := [] }
    (out, w.executed) :: serve s b clock rest w

/-! ## Alike -/

/-- The same, but for the letter case of the name of a table that is not there. -/
inductive Alike {α : Type} : Except Error α → Except Error α → Prop where
  | same (x : Except Error α) : Alike x x
  | unknownTable {name name' : String} (h : lowercase name = lowercase name') :
    Alike (.error (.unknownTable name)) (.error (.unknownTable name'))

namespace Alike

variable {α β : Type} {x y z : Except Error α}

theorem symm (h : Alike x y) : Alike y x := by
  cases h with
  | same => exact .same x
  | unknownTable h => exact .unknownTable h.symm

theorem trans (h : Alike x y) (h' : Alike y z) : Alike x z := by
  cases h with
  | same => exact h'
  | unknownTable h =>
    cases h' with
    | same => exact .unknownTable h
    | unknownTable h' => exact .unknownTable (h.trans h')

end Alike

/-- Both turns came to an end, with results alike, and executed the same statements. -/
def Served.Alike (a b : Served) : Prop :=
  ∃ x y, a.1 = some x ∧ b.1 = some y ∧ Service.Alike x y ∧ a.2 = b.2

/-! ## What a turn comes to -/

/-- What a turn comes to once its request has been compiled. -/
def Turn.finish (turn : Turn) (p : Profile) :
    Except Error Statement → Except Error Response × List Executed
  | .error e => (.error e, [])
  | .ok st => ((turn.execute p st.sql st.params).map fun rows =>
      ⟨true, "query executed", rows, st.shown⟩, [(p, st.sql, st.params)])

def Turn.intendedOn (turn : Turn) (b : Catalogs) (p : Profile) :
    Except Error Response × List Executed :=
  match turn.connect p with
  | .error e => (.error e, [])
  | .ok () => turn.finish p (turn.request.compile (some (b.whole p)))

/-- What a turn comes to against the whole catalog of its datasource. -/
def Turn.intended (turn : Turn) (s : Service) (b : Catalogs) :
    Except Error Response × List Executed :=
  match checked turn.request, s.store.resolve turn.id with
  | .error e, _ => (.error e, [])
  | .ok (), .error e => (.error e, [])
  | .ok (), .ok p => turn.intendedOn b p

/-- What is kept under the id of a datasource is the snapshot of its whole catalog. -/
def Truthful (s : Service) (b : Catalogs) (cache : Schema.Cache) : Prop :=
  ∀ entry ∈ cache.entries, ∀ p, s.store.resolve entry.1 = .ok p → entry.2.snapshot = b.whole p

section

variable {s : Service} {b : Catalogs} {cache : Schema.Cache} {key : String} {p : Profile}

theorem Truthful.get (h : Truthful s b cache) (hp : s.store.resolve key = .ok p) {now : Nat}
    {snapshot : Snapshot} (hget : cache.get now key = some snapshot) : snapshot = b.whole p := by
  obtain ⟨inserted, hentry⟩ := Schema.Cache.mem_of_get_eq_some hget
  exact h _ hentry p hp

theorem Truthful.insert (h : Truthful s b cache) (hp : s.store.resolve key = .ok p) (now : Nat) :
    Truthful s b (cache.insert now key (b.whole p)) := by
  intro entry hentry q hq
  obtain hold | rfl := Schema.Cache.mem_insert hentry
  · exact h entry hold q hq
  · rw [Except.ok.inj (hp.symm.trans hq)]

end

/-! ## Looking at a catalog -/

section

variable {turn : Turn} {b : Catalogs} {clock : Nat → Nat} {p : Profile} {w : Desk}

theorem run_loadCatalog : (loadCatalog p).run.run (turn.handle b clock) w =
    (some (.ok (b.whole p)), w) := rfl

theorem run_loadTable (table : String) : (loadTable p table).run.run (turn.handle b clock) w =
    (some (if (b.whole p).hasTable table then .ok (b.one p table)
      else .error (.unknownTable table)), w) := by
  have hhas : (b.one p table).hasTable table = (b.whole p).hasTable table := by
    rw [Snapshot.hasTable, b.table?_one, Snapshot.hasTable]
  have hcolumns : (Attempt.fetchColumns p (some table)).asSchemaFailure.run.run
      (turn.handle b clock) w = (some (.ok (b.columnsOf p table)), w) := rfl
  have hkeys : (Attempt.fetchPrimaryKeys p (some table)).asSchemaFailure.run.run
      (turn.handle b clock) w = (some (.ok (b.keysOf p table)), w) := rfl
  rw [loadTable, run_bind_ok hcolumns, run_bind_ok hkeys]
  rw [← hhas]
  show (ExceptT.run (if (b.one p table).hasTable table then pure (b.one p table)
    else throw (.unknownTable table) : Attempt Profile Snapshot)).run (turn.handle b clock) w = _
  split <;> rfl

theorem run_loadKnownTable (table : String) :
    (loadKnownTable p table).run.run (turn.handle b clock) w =
      (some (if (b.whole p).hasTable table then .ok (b.one p table)
        else .error (.unknownTable table)), w) := by
  have hexists : (Attempt.tableExists p table).asSchemaFailure.run.run (turn.handle b clock) w =
      (some (.ok (b.hasTable p table)), w) := rfl
  rw [loadKnownTable, run_bind_ok hexists]
  cases hhas : b.hasTable p table with
  | true => exact run_loadTable table
  | false =>
    have hwhole : (b.whole p).hasTable table = false := by
      by_contra hwhole
      rw [b.hasTable_of_whole (eq_true_of_ne_false hwhole)] at hhas
      cases hhas
    rw [hwhole]
    rfl

end

/-! ## Compiling -/

/-- What a request may be given to compile with: the whole catalog, or without joins its one table
if there is one. -/
inductive Seen (b : Catalogs) (p : Profile) (r : Request) : Except Error Snapshot → Prop where
  | whole : Seen b p r (.ok (b.whole p))
  | one (hjoins : r.joins = []) (hhas : (b.whole p).hasTable (trim r.table) = true) :
    Seen b p r (.ok (b.one p (trim r.table)))
  | none (hjoins : r.joins = []) (hhas : (b.whole p).hasTable (trim r.table) = false) :
    Seen b p r (.error (.unknownTable (trim r.table)))

section

variable {turn : Turn} {s : Service} {b : Catalogs} {clock : Nat → Nat} {key : String}
  {p : Profile} {r : Request} {w : Desk} {x : Except Error Snapshot}

/-- A table is found under the name that a request gives it as well as under its key. -/
theorem table?_root (snapshot : Snapshot) (r : Request) :
    snapshot.table? r.root = snapshot.table? (trim r.table) := by
  rw [Snapshot.table?, r.lowercase_root, Request.root, Snapshot.table?]

theorem compile_of_hasTable_eq_false {snapshot : Snapshot} (hchecked : checked r = .ok ())
    (h : snapshot.hasTable r.root = false) :
    r.compile (some snapshot) = .error (.unknownTable r.root) := by
  have hvalid : r.validate.mapError Error.validation = .ok () := hchecked
  have htable : JoinPlan.checkTable ⟨r.root, [], some snapshot⟩ r.root =
      .error (.unknownTable r.root) := by
    simp [JoinPlan.checkTable, h]
  simp only [Request.compile, hvalid, htable]
  rfl

theorem Seen.compile (hchecked : checked r = .ok ()) (h : Seen b p r x) :
    Alike (x >>= fun snapshot => r.compile (some snapshot)) (r.compile (some (b.whole p))) := by
  cases h with
  | whole => exact .same _
  | one hjoins hhas =>
    have hroot : (b.one p (trim r.table)).table? r.root = (b.whole p).table? r.root := by
      rw [table?_root, b.table?_one, table?_root]
    have hcompile := Request.compile_of_table? hjoins hroot
    show Alike (r.compile (some (b.one p (trim r.table)))) _
    rw [hcompile]
    exact .same _
  | none hjoins hhas =>
    have hroot : (b.whole p).hasTable r.root = false := by
      rw [Snapshot.hasTable, table?_root]
      exact hhas
    rw [compile_of_hasTable_eq_false hchecked hroot]
    exact .unknownTable (by rw [r.lowercase_root, Request.root])

theorem run_loadAndKeep : (loadAndKeep key p).run.run (turn.handle b clock) w =
    (some (.ok (b.whole p)),
      { w with cache := w.cache.insert (clock w.readings) key (b.whole p),
               readings := w.readings + 1 }) := by
  rw [loadAndKeep, run_bind_ok run_loadCatalog]
  rfl

variable (turn clock r) in
/-- Whatever is kept, a request is given what it may be given, and what is kept stays truthful. -/
theorem run_snapshotFor (h : Truthful s b w.cache) (hp : s.store.resolve key = .ok p) :
    ∃ x w', (snapshotFor key p r).run.run (turn.handle b clock) w = (some x, w') ∧
      Seen b p r x ∧ w'.executed = w.executed ∧ Truthful s b w'.cache := by
  have hremembered : (Attempt.remembered key).run.run (turn.handle b clock) w =
      (some (.ok (w.cache.get (clock w.readings) key)),
        { w with readings := w.readings + 1 }) := rfl
  rw [snapshotFor, run_bind_ok hremembered]
  cases hget : w.cache.get (clock w.readings) key with
  | some snapshot =>
    rw [h.get hp hget]
    exact ⟨_, _, rfl, .whole, rfl, h⟩
  | none =>
    cases hjoins : r.joins with
    | nil =>
      refine ⟨_, _, run_loadKnownTable (trim r.table), ?_, rfl, h⟩
      split
      · exact .one hjoins ‹_›
      · exact .none hjoins (eq_false_of_ne_true ‹_›)
    | cons join rest => exact ⟨_, _, run_loadAndKeep, .whole, rfl, h.insert hp _⟩

variable (turn clock) in
theorem run_compileOn (h : Truthful s b w.cache) (hp : s.store.resolve key = .ok p)
    (hchecked : checked r = .ok ()) :
    ∃ x w', (compileOn key p r).run.run (turn.handle b clock) w = (some x, w') ∧
      Alike x (r.compile (some (b.whole p))) ∧ w'.executed = w.executed ∧
      Truthful s b w'.cache := by
  obtain ⟨x, w', hrun, hseen, hexecuted, htruthful⟩ :=
    run_snapshotFor turn clock r h hp
  refine ⟨_, w', ?_, hseen.compile hchecked, hexecuted, htruthful⟩
  cases x with
  | error e => exact run_bind_error hrun
  | ok snapshot =>
    rw [compileOn, run_bind_ok hrun]
    show (ExceptT.run (liftM (r.compile (some snapshot)) : Attempt Profile Statement)).run _ _ =
      (some (r.compile (some snapshot)), w')
    cases r.compile (some snapshot) <;> rfl

end

/-! ## Turns -/

/-- A part of a turn comes to something like what is intended, executes exactly the intended
statements, and what is kept stays truthful. -/
def Fulfils (s : Service) (b : Catalogs) (turn : Turn) (clock : Nat → Nat)
    (part : Attempt Profile Response) (intended : Except Error Response × List Executed)
    (w : Desk) : Prop :=
  ∃ x w', part.run.run (turn.handle b clock) w = (some x, w') ∧ Alike x intended.1 ∧
    w'.executed = w.executed ++ intended.2 ∧ Truthful s b w'.cache

section

variable {turn : Turn} {s : Service} {b : Catalogs} {clock : Nat → Nat} {key : String}
  {p : Profile} {w w' : Desk} {α : Type} {part : Attempt Profile α}
  {rest : α → Attempt Profile Response}

/-- A part that succeeds without executing a statement leaves the rest to be done. -/
theorem fulfils_bind {intended : Except Error Response × List Executed} {a : α}
    (hpart : part.run.run (turn.handle b clock) w = (some (.ok a), w'))
    (hexecuted : w'.executed = w.executed) (hrest : Fulfils s b turn clock (rest a) intended w') :
    Fulfils s b turn clock (part >>= rest) intended w := by
  obtain ⟨x, u, hrun, halike, hu, htruthful⟩ := hrest
  exact ⟨x, u, (run_bind_ok hpart).trans hrun, halike, hexecuted ▸ hu, htruthful⟩

/-- A part that fails as is intended, before any statement was executed. -/
theorem fulfils_bind_error {intended : Except Error Response} {e : Error}
    (hpart : part.run.run (turn.handle b clock) w = (some (.error e), w'))
    (halike : Alike (.error e) intended) (hexecuted : w'.executed = w.executed)
    (htruthful : Truthful s b w'.cache) :
    Fulfils s b turn clock (part >>= rest) (intended, []) w :=
  ⟨.error e, w', run_bind_error hpart, halike, by rw [hexecuted, List.append_nil], htruthful⟩

/-- The last part of a turn. -/
def answered (p : Profile) (statement : Statement) : Attempt Profile Response := do
  let rows ← Attempt.execute p statement.sql statement.params
  return ⟨true, "query executed", rows, statement.shown⟩

theorem fulfils_answered (h : Truthful s b w.cache) (statement : Statement) :
    Fulfils s b turn clock (answered p statement) (turn.finish p (.ok statement)) w := by
  have hexecute : (Attempt.execute p statement.sql statement.params).run.run
      (turn.handle b clock) w = (some (turn.execute p statement.sql statement.params),
        { w with executed := w.executed ++ [(p, statement.sql, statement.params)] }) := rfl
  rw [Turn.finish, answered]
  cases hrows : turn.execute p statement.sql statement.params with
  | error e =>
    rw [hrows] at hexecute
    exact ⟨_, _, run_bind_error hexecute, .same _, rfl, h⟩
  | ok rows =>
    rw [hrows] at hexecute
    exact ⟨_, _, run_bind_ok hexecute, .same _, rfl, h⟩

theorem fulfils_executeOn (h : Truthful s b w.cache) (hp : s.store.resolve key = .ok p)
    (hchecked : checked turn.request = .ok ()) :
    Fulfils s b turn clock (executeOn key p turn.request) (turn.intendedOn b p) w := by
  have hconnect : (Attempt.connect p).run.run (turn.handle b clock) w =
      (some ((turn.connect p).map fun () => p), w) := rfl
  rw [Turn.intendedOn, executeOn]
  cases hopen : turn.connect p with
  | error e =>
    rw [hopen] at hconnect
    exact fulfils_bind_error hconnect (.same _) rfl h
  | ok =>
    rw [hopen] at hconnect
    refine fulfils_bind hconnect rfl ?_
    obtain ⟨x, w', hrun, halike, hexecuted, htruthful⟩ :=
      run_compileOn turn clock h hp hchecked
    generalize turn.request.compile (some (b.whole p)) = target at halike
    cases halike with
    | unknownTable hname =>
      exact fulfils_bind_error hrun (.unknownTable hname) hexecuted htruthful
    | same =>
      cases x with
      | error e => exact fulfils_bind_error hrun (.same _) hexecuted htruthful
      | ok statement => exact fulfils_bind hrun hexecuted (fulfils_answered htruthful statement)

variable (turn clock) in
/-- Whatever is kept, a turn comes to what it comes to against the whole catalog. -/
theorem fulfils_execute (h : Truthful s b w.cache) :
    Fulfils s b turn clock (s.execute turn.id turn.request) (turn.intended s b) w := by
  have hcheck : (liftM (checked turn.request) : Attempt Profile Unit).run.run
      (turn.handle b clock) w = (some (checked turn.request), w) := by
    cases checked turn.request <;> rfl
  have hresolve : (liftM (s.store.resolve turn.id) : Attempt Profile Profile).run.run
      (turn.handle b clock) w = (some (s.store.resolve turn.id), w) := by
    cases s.store.resolve turn.id <;> rfl
  rw [Turn.intended, Service.execute]
  cases hchecked : checked turn.request with
  | error e =>
    rw [hchecked] at hcheck
    exact fulfils_bind_error hcheck (.same _) rfl h
  | ok =>
    rw [hchecked] at hcheck
    refine fulfils_bind hcheck rfl ?_
    cases hp : s.store.resolve turn.id with
    | error e =>
      rw [hp] at hresolve
      exact fulfils_bind_error hresolve (.same _) rfl h
    | ok p =>
      rw [hp] at hresolve
      exact fulfils_bind hresolve rfl (fulfils_executeOn h hp hchecked)

/-- Whatever is kept at either desk, by induction over the turns. -/
theorem alike_of_truthful {clock' : Nat → Nat} (turns : List Turn) (h : Truthful s b w.cache)
    (h' : Truthful s b w'.cache) :
    List.Forall₂ Served.Alike (serve s b clock turns w) (serve s b clock' turns w') := by
  induction turns generalizing w w' with
  | nil => exact .nil
  | cons turn rest ih =>
    obtain ⟨x, u, hrun, halike, hexecuted, htruthful⟩ :=
      fulfils_execute turn clock (w := { w with executed := [] }) h
    obtain ⟨x', u', hrun', halike', hexecuted', htruthful'⟩ :=
      fulfils_execute turn clock' (w := { w' with executed := [] }) h'
    rw [serve, hrun, serve, hrun']
    have hsame : u.executed = u'.executed := hexecuted.trans hexecuted'.symm
    exact .cons ⟨x, x', rfl, rfl, halike.trans halike'.symm, hsame⟩ (ih htruthful htruthful')

end

/-- However a cache is set up and whatever the clock shows, turns come to the same as without it,
and what is loaded of one table is as good as the whole catalog. -/
theorem serve_alike (s : Service) (b : Catalogs) (enabled : Bool) (timeToLive room : Nat)
    (clock clock' : Nat → Nat) (turns : List Turn) :
    List.Forall₂ Served.Alike
      (serve s b clock turns { cache := { enabled, timeToLive, room } })
      (serve s b clock' turns { cache := { enabled := false, timeToLive, room } }) ∧
    ∀ (turn : Turn) (p : Profile) (r : Request) (w : Desk) (full fresh : Snapshot),
      r.joins = [] →
      ((loadCatalog p).run.run (turn.handle b clock) w).1 = some (.ok full) →
      ((loadKnownTable p (trim r.table)).run.run (turn.handle b clock) w).1 = some (.ok fresh) →
      r.compile (some full) = r.compile (some fresh) := by
  constructor
  · have hempty : ∀ enabled, Truthful s b { enabled, timeToLive, room } :=
      fun _ entry hentry => absurd hentry List.not_mem_nil
    exact alike_of_truthful turns (hempty enabled) (hempty false)
  · intro turn p r w full fresh hjoins hfull hfresh
    rw [run_loadCatalog] at hfull
    rw [run_loadKnownTable] at hfresh
    obtain rfl := Except.ok.inj (Option.some.inj hfull)
    have hfound := Option.some.inj hfresh
    split at hfound
    · obtain rfl := Except.ok.inj hfound
      have hroot : (b.whole p).table? r.root = (b.one p (trim r.table)).table? r.root := by
        rw [table?_root, ← b.table?_one, table?_root]
      exact Request.compile_of_table? hjoins hroot
    · cases hfound

/-! A shop with two tables: its whole catalog is kept by the first turn and found by the second, and
the third asks for a table that is not there. -/

def shopService : Service where
  store := { records := [
    ("shop", ⟨"shop", "", "postgres", "db", 5432, "shop", "reader", "", none⟩)] }

def shopCatalog : Catalogs where
  columns _ := [⟨"Clients", "Name", "text", "text", false, 1, none, none, none⟩,
    ⟨"Orders", "Total", "numeric", "numeric", false, 1, none, none, none⟩]
  keys _ := []
  references _ := []
  baseTables _ := ["Clients", "Orders"]
  hasTable _ _ := true
  hasTable_of_column _ _ _ _ _ := rfl

def totals (table : String) (joins : List Requested.Join) : Request :=
  { table := table, dimensions := ["total"], joins := joins }

def shopTurn (request : Request) : Turn where
  id := "shop"
  request := request
  connect _ := .ok ()
  execute _ _ _ := .ok []

def shopTurns : List Turn :=
  [shopTurn (totals "orders" [{ table := "clients", kind := .cross }]),
    shopTurn (totals " ORDERS " []), shopTurn (totals "refunds" [])]

theorem serve_alike_shop :
    List.Forall₂ Served.Alike
      (serve shopService shopCatalog id shopTurns { cache := ⟨true, 5, 1, []⟩ })
      (serve shopService shopCatalog id shopTurns { cache := ⟨false, 5, 1, []⟩ }) ∧
    (totals " ORDERS " []).joins = [] ∧
    ((loadCatalog default).run.run ((shopTurn (totals " ORDERS " [])).handle shopCatalog id)
      { cache := {} }).1 = some (.ok (shopCatalog.whole default)) ∧
    ((loadKnownTable default (trim (totals " ORDERS " []).table)).run.run
      ((shopTurn (totals " ORDERS " [])).handle shopCatalog id) { cache := {} }).1 =
        some (.ok (shopCatalog.one default "ORDERS")) ∧
    (totals " ORDERS " []).compile (some (shopCatalog.whole default)) =
      (totals " ORDERS " []).compile (some (shopCatalog.one default "ORDERS")) := by
  have hfull : ((loadCatalog default).run.run
      ((shopTurn (totals " ORDERS " [])).handle shopCatalog id) { cache := {} }).1 =
        some (.ok (shopCatalog.whole default)) := by
    rw [run_loadCatalog]
  have hfresh : ((loadKnownTable default (trim (totals " ORDERS " []).table)).run.run
      ((shopTurn (totals " ORDERS " [])).handle shopCatalog id) { cache := {} }).1 =
        some (.ok (shopCatalog.one default "ORDERS")) := by
    have htrim : trim (totals " ORDERS " []).table = "ORDERS" := by decide
    have hhas : (shopCatalog.whole default).hasTable "ORDERS" = true := by decide
    rw [htrim, run_loadKnownTable, if_pos hhas]
  have halike := serve_alike shopService shopCatalog true 5 1 id id shopTurns
  have hcompile := halike.2 _ _ _ _ _ _ rfl hfull hfresh
  exact ⟨halike.1, rfl, hfull, hfresh, hcompile⟩

end Granary.Service
