import Granary.Proofs.Rehearsal.Indexes
import Granary.Proofs.Replica.Verdict

/-!
# Replacing the rows of one table

A refresh asks whether the warehouse has a table, describes the source table and replaces the rows.
The calls for that are those of one table (`Call.refills`): they are answered from the source and
from that table, and all they can change is its rows.

`Refreshes` lists the ends of the task of a source table: there is nothing to refresh, the rows are
replaced, or one of its calls has failed and the rows are those of before.  Which one it is does not
depend on any call but its own, so the task comes to the same end by itself where no other call
fails (`solo`).
-/

namespace Granary

/-- The table with other rows. -/
def Rehearsal.StoredTable.refill (t : Rehearsal.StoredTable) (rows : List Replica.Row) :
    Rehearsal.StoredTable :=
  { t with rows, refreshed := t.refreshed + 1, claimedRows := none }

namespace Replica

open Program (Division)
open Program.Division (Charge)
open Rehearsal (Breakdown Cursor Failure Indexed Loader Stage StoredSource StoredTable Warehouse)

/-! ## The calls of one table -/

/-- Whether a call is one of those that replace the rows of a warehouse table by those of a source
table. -/
def Call.refills (target source : String) : Call Cursor Loader → Bool
  | .tableExists table => table == target
  | .describeSource table => table == source
  | .openCursor table _ _ => table == source
  | .nextChunk cursor => cursor.table == source
  | .closeCursor cursor => cursor.table == source
  | .dropCursor cursor => cursor.table == source
  | .beginLoad table _ mode => table == target && mode == .replace
  | .insertBatch loader _ => loader.table == target
  | .commit loader => loader.table == target
  | .rollback loader => loader.table == target
  | _ => false

/-- The failures that are planned for some of the calls, and for no others. -/
def limited (own : Call Cursor Loader → Bool)
    (fate : Call Cursor Loader → List (Failure Breakdown)) (c : Call Cursor Loader) :
    List (Failure Breakdown) :=
  if own c then fate c else []

/-- An error with which one of these calls is to fail. -/
def Planned (fate : Call Cursor Loader → List (Failure Breakdown)) (own : Call Cursor Loader → Bool)
    (e : Error) : Prop :=
  ∃ c, own c = true ∧ ∃ f ∈ fate c, f.pattern.error = e

variable {fate : Call Cursor Loader → List (Failure Breakdown)} {pace : Pace}
  {connection target source : String} {s t : Indexed} {x : StoredSource}

theorem Call.alone_of_refills {c : Call Cursor Loader} (hc : c.refills target source = true) :
    c.Alone target := by
  cases c with
  | beginLoad table columns mode => exact beq_iff_eq.1 (Bool.and_eq_true_iff.1 hc).1
  | tableExists table => exact beq_iff_eq.1 hc
  | commit loader => exact beq_iff_eq.1 hc
  | describeSource | openCursor | nextChunk | closeCursor | dropCursor | insertBatch | rollback =>
    exact trivial
  | _ => cases hc

/-- These calls do not touch indexes or other relations. -/
theorem fated_of_refills {c : Call Cursor Loader} (hc : c.refills target source = true)
    (s : Indexed) : Indexed.fated fate c s = ((Stage.fated fate c s.stage).1,
      { s with stage := (Stage.fated fate c s.stage).2 }) := by
  cases c with
  | beginLoad table columns mode =>
    obtain rfl : mode = .replace := beq_iff_eq.1 (Bool.and_eq_true_iff.1 hc).2
    simp only [Indexed.fated, Indexed.handle, Stage.fated, reduceCtorEq, false_and, if_false]
  | dropTable | finalize => cases hc
  | _ => rfl

theorem fated_limited {c : Call Cursor Loader} (hc : c.refills target source = true) (s : Stage) :
    Stage.fated (limited (Call.refills target source) fate) c s = Stage.fated fate c s := by
  rw [Stage.fated, limited, if_pos hc, Stage.fated]

theorem fated_acquire (hlease : s.stage.leases.isHeld connection = false) :
    Indexed.fated fate (.acquire connection) s = (.ok ⟨connection⟩, { s with
      stage := { acquired connection s.stage with failures := fate (.acquire connection) } }) := by
  have hacquire := handle_acquire (s := { s.stage with failures := fate (.acquire connection) })
    hlease
  simp only [Indexed.fated, Indexed.handle, hacquire]
  rfl

/-- Listing the source comes to the same whatever else there is. -/
theorem answer_listSource {u : Indexed} {answer : Except Error (List String)}
    (h : Indexed.fated fate .listSource s = (answer, t))
    (hsource : s.stage.source = u.stage.source) :
    (Indexed.fated fate .listSource u).1 = answer := by
  refine Eq.trans ?_ (congrArg Prod.fst h)
  show (Stage.attempt { u.stage with failures := _ } _ _ _ _).1 =
    (Stage.attempt { s.stage with failures := _ } _ _ _ _).1
  unfold Stage.attempt
  dsimp only
  cases Rehearsal.Failure.check _ (fate .listSource) with
  | mk due failures =>
    cases due with
    | none => exact congrArg (fun source => Except.ok (Rehearsal.Source.list source)) hsource.symm
    | some breakdown => rfl

/-- Listing the source changes nothing, and tells what the source has if it does not fail. -/
theorem fated_listSource {answer : Except Error (List String)}
    (h : Indexed.fated fate .listSource s = (answer, t)) :
    t.stage.source = s.stage.source ∧ t.stage.warehouse = s.stage.warehouse ∧
      t.indexes = s.indexes ∧ t.relations = s.relations ∧
      ∀ names, answer = .ok names → names = s.stage.source.list := by
  have hcall : Stage.fated fate .listSource s.stage = (answer, t.stage) :=
    congrArg (fun result : Except Error (List String) × Indexed => (result.1, result.2.stage)) h
  obtain ⟨hsource, hwarehouse, htold⟩ := Stage.effect_of_handle hcall
  exact ⟨hsource, hwarehouse, congrArg (·.2.indexes) h.symm, congrArg (·.2.relations) h.symm, htold⟩

/-- The warehouse divided by the names of its tables, where calls fail as planned, and neither an
index nor another relation comes or goes. -/
def byRefill (fate : Call Cursor Loader → List (Failure Breakdown)) (origin : Indexed) :
    Division (Call Cursor Loader) Answer Indexed String (Option StoredTable) where
  step c s answer t := Indexed.fated fate c s = (answer, t)
  inv t := t.stage.source = origin.stage.source ∧ t.indexes = origin.indexes ∧
    t.relations = origin.relations
  view name t := t.stage.warehouse.table? name

/-- The same division, where only the calls that refill one table are answered. -/
abbrev byRefillOf (fate : Call Cursor Loader → List (Failure Breakdown)) (origin : Indexed)
    (target source : String) :
    Division (Call Cursor Loader) Answer Indexed String (Option StoredTable) :=
  (byRefill fate origin).gated (Call.refills target source · = true)

section

variable {v : Option StoredTable}

/-- A call for the table, by what it is answered and what becomes of the table.  If it fails, then
as it is planned for it. -/
theorem calls_of_refills {c : Call Cursor Loader} {next : Answer c → Option StoredTable → Prop}
    (hc : c.refills target source = true)
    (hnext : (∀ f ∈ fate c, Planned fate (Call.refills target source) f.pattern.error) →
      ∀ u answer w, u.source = s.stage.source → u.warehouse.table? target = v →
        Stage.fated fate c u = (answer, w) → next answer (w.warehouse.table? target)) :
    (byRefillOf fate s target source).Calls target c v next := by
  refine ⟨fun u _ _ => ⟨_, _, hc, rfl⟩, fun u answer w hu hv hw => ?_⟩
  obtain ⟨hsource, hindexes, hrelations⟩ := hu
  obtain ⟨hanswer, hstage⟩ := Prod.mk.inj (hw.2.symm.trans (fated_of_refills hc u))
  subst hanswer hstage
  have hcall : Stage.handle c { u.stage with failures := fate c } =
    ((Stage.fated fate c u.stage).1, (Stage.fated fate c u.stage).2) := rfl
  obtain ⟨hkept, heffect, _⟩ := Stage.effect_of_handle hcall
  have hchange : Warehouse.Change target u.stage.warehouse _ :=
    (Call.alone_of_refills hc).change heffect
  exact ⟨⟨hkept.trans hsource, hindexes, hrelations⟩, fun j hj => hchange.table? hj,
    hnext (fun f hf => ⟨c, hc, f, hf, rfl⟩) u.stage _ _ hsource hv rfl⟩

/-- A call that leaves the warehouse alone. -/
theorem quiet_of_refills {c : Call Cursor Loader} {post : Answer c → Prop}
    (hc : c.refills target source = true)
    (hpost : (∀ f ∈ fate c, Planned fate (Call.refills target source) f.pattern.error) →
      ∀ u answer w, u.source = s.stage.source → u.warehouse.table? target = v →
        Stage.fated fate c u = (answer, w) → w.warehouse = u.warehouse ∧ post answer) :
    (byRefillOf fate s target source).Calls target c v fun answer w => w = v ∧ post answer := by
  refine calls_of_refills hc fun hplanned u answer w hu hv hw => ?_
  obtain ⟨hsame, hanswer⟩ := hpost hplanned u answer w hu hv hw
  rw [hsame]
  exact ⟨hv, hanswer⟩

/-- A call whose answer says nothing. -/
theorem mute_of_refills {c : Call Cursor Loader} (hc : c.refills target source = true)
    (hsame : ∀ u answer w, Stage.fated fate c u = (answer, w) → w.warehouse = u.warehouse) :
    (byRefillOf fate s target source).Calls target c v fun _ w => w = v :=
  calls_of_refills hc fun _ u answer w _ hv hw => (hsame u answer w hw).symm ▸ hv

end

/-! ## The task of a table -/

/-- The warehouse table of a source table. -/
def replica (connection : String) (s : Indexed) (x : StoredSource) : Option StoredTable :=
  s.stage.warehouse.table? (tableName connection x.name)

/-- The calls of the task of a source table. -/
abbrev ownCall (connection : String) (x : StoredSource) : Call Cursor Loader → Bool :=
  Call.refills (tableName connection x.name) x.name

/-- The ends of the task of a source table: what it reports, and its table then. -/
inductive Refreshes (fate : Call Cursor Loader → List (Failure Breakdown)) (connection : String)
    (s : Indexed) (x : StoredSource) : Option TableReport → Option StoredTable → Prop where
  /-- There is no table, or it has no columns. -/
  | skipped (h : replica connection s x = none ∨ x.columns.isEmpty = true) :
    Refreshes fate connection s x none (replica connection s x)
  /-- The table has exactly the rows of the source. -/
  | refreshed {old : StoredTable} (hold : replica connection s x = some old)
      (hcolumns : x.columns.isEmpty = false) :
    Refreshes fate connection s x (some (.copied x.description (tableName connection x.name)
      (columnsOf x) x.rows.length .refreshed)) (some (old.refill x.rows))
  | unchecked {e : Error}
      (h : (Indexed.fated fate (.tableExists (tableName connection x.name)) s).1 = .error e) :
    Refreshes fate connection s x (some (.failed x.name (tableName connection x.name) e))
      (replica connection s x)
  | undescribed {e : Error} {old : StoredTable} (hold : replica connection s x = some old)
      (h : (Indexed.fated fate (.describeSource x.name) s).1 = .error e) :
    Refreshes fate connection s x
      (some (.failed x.name (tableName connection x.name) (sourceFailure e))) (some old)
  | uncopied {e : Error} {old : StoredTable} (hold : replica connection s x = some old)
      (hcolumns : x.columns.isEmpty = false) (h : Planned fate (ownCall connection x) e) :
    Refreshes fate connection s x
      (some (.failed x.name (tableName connection x.name)
        (copyFailure (tableName connection x.name) e))) (some old)

section

variable {v : Option StoredTable}

/-- A call of a task is answered as it is before the refresh, as long as the table is as it was. -/
theorem fst_fated_of_refills {c : Call Cursor Loader} {u w : Stage} {answer : Answer c}
    (hc : c.refills target source = true) (hu : u.source = s.stage.source)
    (htable : u.warehouse.table? target = s.stage.warehouse.table? target)
    (h : Stage.fated fate c u = (answer, w)) : (Indexed.fated fate c s).1 = answer := by
  have halike : Stage.Alike target u s.stage := ⟨hu, htable⟩
  rw [fated_of_refills hc, ← (Stage.fated_alike (Call.alone_of_refills hc) halike).1, h]

theorem loads_refill (hplain : s.stage.source.Plain) (hx : x ∈ s.stage.source.tables)
    {old : StoredTable} (hold : replica connection s x = some old) :
    Loads (byRefillOf fate s (tableName connection x.name) x.name) (tableName connection x.name) x
      .replace (fun answer => (Indexed.fated fate (.describeSource x.name) s).1 = answer ∧
        Fares (Planned fate (ownCall connection x)) x.description answer)
      (Planned fate (ownCall connection x)) (some old) (some (old.refill x.rows)) where
  describe := quiet_of_refills (beq_self_eq_true _) fun hplanned u answer w hu hv hw => by
    obtain ⟨hsame, hfares⟩ := fares_describeSource (s := u) (hu ▸ hplain) (hu ▸ hx) hplanned hw
    have hcall : ownCall connection x (.describeSource x.name) = true := beq_self_eq_true _
    have hanswer : (Indexed.fated fate (.describeSource x.name) s).1 = answer :=
      fst_fated_of_refills hcall hu (hv.trans hold.symm) hw
    exact ⟨hsame, hanswer, hfares⟩
  told d hd := by
    obtain ⟨_, hok | ⟨e, _, he⟩⟩ := hd
    · exact Except.ok.inj hok
    · cases he
  openCursor columns chunk := quiet_of_refills (beq_self_eq_true _)
    fun hplanned u answer w hu _ hw =>
      fares_openCursor (s := u) (hu ▸ hplain) (hu ▸ hx) hplanned hw
  nextChunk cursor hcursor := quiet_of_refills (beq_iff_eq.2 hcursor)
    fun hplanned u answer w _ _ hw => fares_nextChunk hplanned hw
  closeCursor cursor hcursor := quiet_of_refills (beq_iff_eq.2 hcursor)
    fun hplanned u answer w _ _ hw => fares_of_attempt hplanned hw fun _ _ _ => rfl
  dropCursor cursor hcursor := mute_of_refills (beq_iff_eq.2 hcursor) fun u answer w hw =>
    (Stage.effect_of_handle (c := .dropCursor cursor) hw).2.1
  beginLoad columns := quiet_of_refills (by simp [Call.refills])
    fun hplanned u answer w _ _ hw =>
      fares_of_attempt hplanned hw fun _ _ _ => if_neg (by simp)
  insertBatch loader rows hloader := quiet_of_refills (beq_iff_eq.2 hloader)
    fun hplanned u answer w _ _ hw => fares_insertBatch hplanned hw
  commit := calls_of_refills (beq_self_eq_true _) fun hplanned u answer w _ hv hw => by
    obtain ⟨hsame, e, he, rfl⟩ | ⟨hcommit, rfl⟩ := Stage.Faulty.change (s := u) hplanned hw
    · exact .inr ⟨e, he, rfl, hsame ▸ hv⟩
    · refine .inl ⟨rfl, ?_⟩
      have hname : old.name = tableName connection x.name := Warehouse.name_of_table? hv
      rw [hcommit, Warehouse.commit, hv, Option.getD_some, Warehouse.table?_put, if_pos hname]
      rfl
  rollback loader hloader := mute_of_refills (beq_iff_eq.2 hloader) fun u answer w hw =>
    (Stage.effect_of_handle (c := .rollback loader) hw).2.1

/-- Whether the warehouse has the table is answered from the table, or is not answered. -/
theorem tends_tableExists :
    (byRefillOf fate s (tableName connection x.name) x.name).Tends (tableName connection x.name)
      (fun _ => True)
      (fun outcome w => w = replica connection s x ∧
        (Indexed.fated fate (.tableExists (tableName connection x.name)) s).1 = outcome ∧
        ∀ there, outcome = .ok there → there = (replica connection s x).isSome)
      (Attempt.tableExists (tableName connection x.name) : Attempt Cursor Loader Bool).run
      (replica connection s x) := by
  have hcall : (Call.tableExists (tableName connection x.name) : Call Cursor Loader).refills
      (tableName connection x.name) x.name = true := beq_self_eq_true _
  refine ⟨trivial, (calls_of_refills (v := replica connection s x) hcall
    fun hplanned u answer w hu hv hw => ?_).mono fun _ _ h => ⟨trivial, h⟩⟩
  obtain ⟨hsame, hfares⟩ := fares_of_attempt (s := u) hplanned hw fun v _ hwarehouse => by
    rw [hwarehouse]
  refine ⟨by rw [hsame, hv], fst_fated_of_refills hcall hu hv hw, fun there hthere => ?_⟩
  obtain rfl | ⟨e, _, rfl⟩ := hfares
  · cases hthere
    exact congrArg Option.isSome hv
  · cases hthere

/-- The report of a table whose rows have been replaced, or have not. -/
def reported (connection : String) (x : StoredSource) :
    Except Error (Option TableReport) → Option TableReport
  | .ok report => report
  | .error e => some (.failed x.name (tableName connection x.name) e)

/-- Replacing the rows of a table that is there and has been described with columns. -/
theorem tends_replacing {described : Except Error SourceTable → Prop} {old : StoredTable}
    (h : Loads (byRefillOf fate s (tableName connection x.name) x.name)
      (tableName connection x.name) x .replace described (Planned fate (ownCall connection x))
      (some old) (some (old.refill x.rows)))
    (hold : replica connection s x = some old) (hcolumns : x.columns.isEmpty = false)
    (hfetches : x.rows.length < pace.fetches) :
    (byRefillOf fate s (tableName connection x.name) x.name).Tends (tableName connection x.name)
      (fun _ => True) (fun outcome w => Refreshes fate connection s x
        (reported connection x outcome) w)
      (do
        let rows ← copyTable pace x.name (tableName connection x.name) (columnsOf x) .replace
        return some (.copied x.description (tableName connection x.name) (columnsOf x) rows
          .refreshed) : Attempt Cursor Loader (Option TableReport)).run (some old) := by
  have hcopy := (tends_copyTable h hfetches).mono (fun _ _ => trivial) fun _ _ hpost => hpost
  refine tends_bind hcopy (fun e w hw => ?_) fun rows w hw => ?_
  · obtain ⟨rfl, cause, hcause, rfl⟩ := hw
    exact .uncopied hold hcolumns hcause
  · obtain ⟨rfl, rfl⟩ := hw
    exact ⟨trivial, .refreshed hold hcolumns⟩

theorem tends_replaceRows (hplain : s.stage.source.Plain) (hx : x ∈ s.stage.source.tables)
    (hfetches : x.rows.length < pace.fetches) :
    (byRefillOf fate s (tableName connection x.name) x.name).Tends (tableName connection x.name)
      (fun _ => True) (fun outcome w => Refreshes fate connection s x
        (reported connection x outcome) w)
      (replaceRows pace connection x.name).run (replica connection s x) := by
  have hdescribed : x.description.name = x.name := by
    rw [StoredSource.description, StoredSource.describedName, hplain.described x hx,
      Option.getD_none]
  have hcolumns : x.description.columns = x.columns := rfl
  refine tends_bind tends_tableExists (fun e w hw => ?_) fun there w hw => ?_
  · obtain ⟨rfl, hfails, _⟩ := hw
    exact .unchecked hfails
  · obtain ⟨rfl, _, hthere⟩ := hw
    obtain rfl := hthere there rfl
    cases hold : replica connection s x with
    | none => exact ⟨trivial, hold ▸ .skipped (.inl hold)⟩
    | some old =>
      have hloads : Loads (byRefillOf fate s _ _) _ x .replace _ _ _ _ :=
        loads_refill hplain hx hold
      refine tends_bind (tends_describe hloads trivial) (fun e w hw => ?_) fun d w hw => ?_
      · obtain ⟨rfl, answer, ⟨hanswer, _⟩, he⟩ := hw
        cases answer with
        | ok d => cases he
        | error cause =>
          cases he
          exact .undescribed hold hanswer
      · obtain ⟨rfl, answer, hanswer, hd⟩ := hw
        cases answer with
        | error cause => cases hd
        | ok d =>
          cases hd
          obtain rfl := hloads.told _ hanswer
          rw [hcolumns, hdescribed]
          by_cases hempty : x.columns.isEmpty = true
          · rw [if_pos hempty]
            exact ⟨trivial, hold ▸ .skipped (.inr hempty)⟩
          · rw [if_neg hempty]
            exact tends_replacing hloads hold (Bool.eq_false_iff.2 hempty) hfetches

theorem tends_refreshTask (hplain : s.stage.source.Plain) (hx : x ∈ s.stage.source.tables)
    (hfetches : x.rows.length < pace.fetches) :
    (byRefillOf fate s (tableName connection x.name) x.name).Tends (tableName connection x.name)
      (fun _ => True) (Refreshes fate connection s x) (refreshTask pace connection x.name)
      (replica connection s x) := by
  refine (tends_replaceRows hplain hx hfetches).bind fun outcome w _ hw => ?_
  cases outcome with
  | ok report => exact ⟨trivial, hw⟩
  | error e => exact ⟨trivial, hw⟩

/-- The task of a source table by itself, where no call but its own fails. -/
def solo (fate : Call Cursor Loader → List (Failure Breakdown)) (pace : Pace) (connection : String)
    (s : Indexed) (x : StoredSource) : Option (Option TableReport) × Indexed :=
  (refreshTask pace connection x.name).run (Indexed.fated (limited (ownCall connection x) fate)) s

/-- What is known of the task of a source table. -/
def refreshing (fate : Call Cursor Loader → List (Failure Breakdown)) (pace : Pace)
    (connection : String) (s : Indexed) (x : StoredSource) :
    Charge String (Option StoredTable) Error (Option TableReport) where
  owner := tableName connection x.name
  halt _ := True
  post outcome v := ∃ report, outcome = .ok report ∧ Refreshes fate connection s x report v ∧
    (solo fate pace connection s x).1 = some report ∧
    replica connection (solo fate pace connection s x).2 x = v

/-- Among the calls of its task alone, a call is answered as it is in company, and leaves the table
as it does there. -/
theorem solo_of_refills {c : Call Cursor Loader} {answer : Answer c} {u u' w : Indexed}
    (hc : ownCall connection x c = true) (hu : u.stage.source = s.stage.source)
    (hw : Indexed.fated fate c u = (answer, w))
    (halike : u'.stage.source = s.stage.source ∧ replica connection u' x = replica connection u x) :
    (Indexed.fated (limited (ownCall connection x) fate) c u').1 = answer ∧
      (Indexed.fated (limited (ownCall connection x) fate) c u').2.stage.source = s.stage.source ∧
      replica connection (Indexed.fated (limited (ownCall connection x) fate) c u').2 x =
        replica connection w x := by
  rw [fated_of_refills hc] at hw
  obtain ⟨rfl, rfl⟩ := Prod.mk.inj hw
  have hsource : (Stage.fated fate c u.stage).2.source = u.stage.source :=
    (Stage.effect_of_handle rfl).1
  obtain ⟨hanswer, hafter⟩ : (Stage.fated fate c u'.stage).1 = (Stage.fated fate c u.stage).1 ∧
      Stage.Alike (tableName connection x.name) _ _ :=
    Stage.fated_alike (Call.alone_of_refills hc) ⟨halike.1.trans hu.symm, halike.2⟩
  rw [fated_of_refills hc, fated_limited hc]
  exact ⟨hanswer, hafter.source.trans (hsource.trans hu), hafter.table⟩

/-- In the company of other tasks, and where other calls fail as well, a task comes to the end to
which it comes by itself. -/
theorem tends_refreshing (hplain : s.stage.source.Plain) (hx : x ∈ s.stage.source.tables)
    (hfetches : x.rows.length < pace.fetches) :
    (byRefill fate s).Tends (tableName connection x.name) (refreshing fate pace connection s x).halt
      (refreshing fate pace connection s x).post
      (ExceptT.lift (refreshTask pace connection x.name)).run (replica connection s x) := by
  have htask : (byRefillOf fate s _ _).Tends _ _ (Refreshes fate connection s x)
      (refreshTask pace connection x.name) _ := tends_refreshTask hplain hx hfetches
  have helsewhere := htask.elsewhere
    (fun v (u : Indexed) => u.stage.source = s.stage.source ∧ replica connection u x = v)
    (fun c u answer w u' hc hu hw halike => solo_of_refills hc hu.1 hw halike)
    ⟨rfl, rfl, rfl⟩ rfl ⟨rfl, rfl⟩
  refine helsewhere.bind fun report v _ hv => ⟨trivial, report, rfl, hv.1, ?_⟩
  obtain ⟨_, t, hrun, _, ht⟩ := hv
  rw [solo, hrun]
  exact ⟨rfl, ht⟩

end

end Replica
end Granary
