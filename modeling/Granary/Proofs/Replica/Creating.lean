import Granary.Postgres.Warehouse
import Granary.Proofs.Postgres.Command
import Granary.Proofs.Replica.Asking
import Granary.Proofs.Replica.Confinement
import Granary.Proofs.Replica.Filling
import Granary.Proofs.Replica.Verdict
import Mathlib.Data.List.Nodup

/-!
# Tables that cannot be created

A replicated table is created with the columns of its source table and with those that record when
a row was written.  A database refuses to create a table that has two columns of one name
(`refusing`), so it matters whether a source table has a column of the name of an added one, as it
does if the source is a warehouse itself.

The names are read off the batch that begins the load (`declared`).  A task whose batch is not
refused makes the same calls as on databases that refuse nothing (`run_loadTask`), and one whose
batch is refused ends with the refusal, so each task comes to its outcome by itself and the first
refusal decides.
-/

namespace Granary

namespace Program

variable {Ask : Type} {Answer : Ask → Type} {α σ : Type}

/-- A program that makes allowed calls only runs alike wherever those are answered alike. -/
theorem Safe.run_congr {allowed : Ask → Prop} {answers : (c : Ask) → Answer c → Prop}
    {wanted : α → Prop} {handle handle' : (c : Ask) → σ → Answer c × σ} (inv : σ → Prop)
    (hcall : ∀ c s, allowed c → inv s →
      handle' c s = handle c s ∧ answers c (handle c s).1 ∧ inv (handle c s).2)
    {p : Program Ask Answer α} (hp : p.Safe allowed answers wanted) {s : σ} (hs : inv s) :
    p.run handle' s = p.run handle s := by
  induction p generalizing s with
  | done a => rfl
  | ask c next ih =>
    obtain ⟨hsame, hanswer, hnext⟩ := hcall c s hp.1 hs
    rw [run, run, hsame]
    exact ih _ (hp.2 _ hanswer) hnext
  | spent => rfl

end Program

/-! ## The columns that a batch declares -/

namespace Postgres

open Replica (Column auditColumns)

/-- The names of the columns with which a statement creates a table, if it does. -/
def Statement.declared : Statement → List String
  | .edit table (.create definition) =>
    match Command.ofTokens
        (.word "CREATE" :: .word "TABLE" :: .name table :: .symbol '(' :: definition) with
    | some (.createTable _ columns) => columns.map (·.name)
    | _ => []
  | _ => []

/-- The names of the columns with which the statements of a batch create tables. -/
def declared (batch : String) : List String :=
  ((Statement.readAll? batch).getD []).flatMap Statement.declared

theorem declared_beginCreate (table : String) (columns : List Column) :
    declared (Statements.beginCreate table columns) = columns.map (·.name) ++ auditColumns := by
  have hread : Command.ofTokens (.word "CREATE" :: .word "TABLE" :: .name table :: .symbol '(' ::
      Statements.definitionTokens columns) = some (.createTable table
        (columns.map Command.defined ++ auditColumns.map Command.audited)) := by
    have htext := Command.read_createTable table columns
    rwa [Command.read, Statements.lex_createTable, Option.bind_some] at htext
  have hstatement :
      Statement.declared (.edit table (.create (Statements.definitionTokens columns))) =
        columns.map (·.name) ++ auditColumns := by
    rw [Statement.declared, hread]
    show List.map _ (_ ++ _) = _
    rw [List.map_append, List.map_map, List.map_map]
    rfl
  rw [declared, Statements.readAll?_beginCreate, Option.getD_some, List.flatMap_cons,
    List.flatMap_singleton, hstatement]
  rfl

/-- The columns of a table and those that are added are told apart by their names. -/
theorem nodup_declared_iff (table : String) {columns : List Column}
    (h : (columns.map (·.name)).Nodup) :
    (declared (Statements.beginCreate table columns)).Nodup ↔
      ∀ c ∈ columns, c.name ∉ auditColumns := by
  have haudit : auditColumns.Nodup := by decide
  rw [declared_beginCreate, List.nodup_append', and_iff_right h, and_iff_right haudit,
    List.disjoint_left, List.forall_mem_map]

end Postgres

/-! ## Databases that refuse -/

namespace Replica

open Postgres (declared declared_beginCreate nodup_declared_iff)
open Postgres.Statements (beginCreate)
open Program (Division)
open Rehearsal (Breakdown Cursor Failure Loader Stage StoredSource StoredTable)

variable {pace : Pace} {connection table : String} {columns : List Column} {s t : Stage}
  {x : StoredSource}

/-- What the warehouse says where PostgreSQL refuses to create a table. -/
def refusal (table : String) : Error := Postgres.Attempt.faultOf (.beginLoad table) .refused

/-- A load whose batch is refused does not begin, and its client is not used again. -/
theorem run_beginLoad_refused {π γ σ : Type}
    {handle : (c : Postgres.Call π γ) → σ → Postgres.Answer c × σ} {u v w : σ} {client : γ}
    (d : Postgres.Database π) (hclient : handle (.checkOut d.pool) u = (.ok client, v))
    (hrefused : handle (.batch client (beginCreate table columns)) v = (.error .refused, w)) :
    (d.beginLoad table columns .create).run.run handle u =
      (some (.error (refusal table)), (handle (.discard client) w).2) := by
  show Program.run handle (.ask (.checkOut d.pool) _) u = _
  rw [Program.run, hclient]
  show Program.run handle (.ask (.batch client (beginCreate table columns)) _) v = _
  rw [Program.run, hrefused]
  rfl

/-- The plan that a load cannot begin where its batch declares two columns of one name, and that
nothing else fails. -/
def refusing : Call Cursor Loader → List (Failure Breakdown)
  | .beginLoad table columns .create =>
    if (declared (beginCreate table columns)).Nodup then []
    else [{ pattern := { point := "warehouse.begin_load", error := refusal table } }]
  | _ => []

theorem operational_refusing (c : Call Cursor Loader) :
    ∀ f ∈ refusing c, f.pattern.error.Operational := by
  intro f hf
  unfold refusing at hf
  split at hf
  · split at hf
    · cases hf
    · obtain rfl := List.mem_singleton.1 hf
      rintro _ _ ⟨⟩
  · cases hf

theorem refusing_of_nodup (h : (declared (beginCreate table columns)).Nodup) :
    refusing (.beginLoad table columns .create) = [] := by
  rw [refusing, if_pos h]

theorem fated_of_not_nodup (h : ¬ (declared (beginCreate table columns)).Nodup) (s : Stage) :
    ∃ t, Stage.fated refusing (.beginLoad table columns .create) s =
      (.error (refusal table), t) := by
  have hplan : refusing (.beginLoad table columns .create) =
      [{ pattern := { point := "warehouse.begin_load", error := refusal table } }] := by
    rw [refusing, if_neg h]
  rw [Stage.fated, hplan]
  exact ⟨_, rfl⟩

theorem failures_of_handle {c : Call Cursor Loader} (h : s.failures = []) :
    (Stage.handle c s).2.failures = [] := by
  obtain ⟨source, warehouse, leases, failures, trace⟩ := s
  obtain rfl : failures = [] := h
  cases c with
  | acquire connection =>
    rw [Stage.handle]
    split <;> rfl
  | _ => rfl

/-! ## Calls that are not refused -/

/-- A call that is not refused. -/
def Call.Granted (c : Call Cursor Loader) : Prop := refusing c = []

theorem Call.Moves.granted {c : Call Cursor Loader} (h : c.Moves) : c.Granted := by
  cases c with
  | beginLoad table columns mode => exact h.elim
  | _ => rfl

section

variable {answers : (c : Call Cursor Loader) → Answer c → Prop}

/-- An attempt whose calls are not refused. -/
abbrev Attempt.Granted {α : Type} (answers : (c : Call Cursor Loader) → Answer c → Prop)
    (wanted : α → Prop) (p : Attempt Cursor Loader α) : Prop :=
  p.Heeds True Call.Granted answers wanted

theorem granted_copyTable (pace : Pace) (name : String)
    (h : (declared (beginCreate table columns)).Nodup) :
    (copyTable pace name table columns .create : Attempt Cursor Loader Nat).Granted answers
      fun _ => True := by
  refine ⟨refusing_of_nodup h, fun answer _ => ?_⟩
  cases answer with
  | error e => exact fun _ _ => trivial
  | ok loader =>
    have hpump : (pump pace name columns loader).Heeds True Call.Granted answers fun _ => True :=
      (moves_pump_spending lasting_true trivial pace name columns).mono
        (fun _ => Call.Moves.granted) fun _ _ => trivial
    refine Program.Heeds.bind hpump fun result _ => ?_
    obtain ⟨next, outcome⟩ := result
    cases outcome with
    | error e => exact ⟨rfl, fun _ _ _ _ => trivial⟩
    | ok n => exact ⟨rfl, fun _ _ _ _ => trivial⟩

end

/-- A source table has a column of the name of one that is added to its replica. -/
def Taken (x : StoredSource) : Prop := ∃ c ∈ x.columns, c.name ∈ auditColumns

instance : DecidablePred Taken := fun x =>
  inferInstanceAs (Decidable (∃ c ∈ x.columns, c.name ∈ auditColumns))

theorem name_ofSource (c : SourceColumn) : (Column.ofSource c).name = c.name := by
  unfold Column.ofSource
  split <;> rfl

theorem names_columnsOf (x : StoredSource) :
    (columnsOf x).map (·.name) = x.columns.map (·.name) := by
  rw [columnsOf, List.map_map]
  exact List.map_congr_left fun c _ => name_ofSource c

/-- The batch that creates the replica of a table declares a name twice if the table has it already,
and only then. -/
theorem nodup_declared_columnsOf_iff (table : String) (h : (x.columns.map (·.name)).Nodup) :
    (declared (beginCreate table (columnsOf x))).Nodup ↔ ¬ Taken x := by
  have hnames : ((columnsOf x).map (·.name)).Nodup := by rwa [names_columnsOf]
  rw [nodup_declared_iff table hnames, columnsOf, List.forall_mem_map, Taken]
  simp only [name_ofSource, not_exists, not_and]

/-- The task of a table whose columns are told apart from the added ones. -/
theorem granted_loadTask (pace : Pace) (connection : String)
    (hdescribe : s.source.describe x.name = .ok x.description)
    (hnodup : (x.columns.map (·.name)).Nodup) (hfree : ¬ Taken x) :
    (loadTask pace connection x.name : Attempt Cursor Loader _).Granted (Answered s.source)
      fun _ => True := by
  have hdescribed : (describe x.name : Attempt Cursor Loader SourceTable).Granted
      (Answered s.source) fun d => d.columns = x.columns := by
    refine Attempt.heeds_failingAs ⟨rfl, fun answer hanswer d hd => ?_⟩
    obtain rfl : x.description = d := Except.ok.inj (hdescribe.symm.trans (hanswer d hd))
    rfl
  refine hdescribed.bind fun d hd => ?_
  by_cases hempty : d.columns.isEmpty = true
  · rw [if_pos hempty]
    exact Attempt.heeds_pure trivial
  · rw [if_neg hempty]
    have hcolumns : (declared (beginCreate (tableName connection d.name)
        (d.columns.map Column.ofSource))).Nodup := by
      rw [hd]
      exact (nodup_declared_columnsOf_iff _ hnodup).2 hfree
    refine Attempt.Heeds.bind (granted_copyTable pace _ hcolumns) fun rows _ => ?_
    have hfinalize : (Attempt.finalize (tableName connection d.name) d.primaryKey
        (d.columns.map Column.ofSource) : Attempt Cursor Loader Unit).Granted (Answered s.source)
          fun _ => True := ⟨rfl, fun _ _ _ _ => trivial⟩
    exact (Attempt.heeds_failingAs hfinalize).bind fun _ _ => Attempt.heeds_pure trivial

/-! ## What a task comes to -/

/-- Where nothing of its own is refused, a task does not notice that other things are. -/
theorem run_loadTask (pace : Pace) (connection : String) (hs : s.failures = [])
    (hdescribe : s.source.describe x.name = .ok x.description)
    (hnodup : (x.columns.map (·.name)).Nodup) (hfree : ¬ Taken x) :
    (loadTask pace connection x.name : Attempt Cursor Loader _).run.run (Stage.fated refusing) s =
      (loadTask pace connection x.name : Attempt Cursor Loader _).run.run Stage.handle s := by
  have hsafe := (granted_loadTask pace connection hdescribe hnodup hfree).safe
  refine hsafe.run_congr (fun u => u.failures = [] ∧ u.source = s.source) (fun c u hc hu => ?_)
    ⟨hs, rfl⟩
  obtain ⟨hcalm, hsource⟩ := hu
  have hgranted : refusing c = [] := hc
  have hsame : Stage.fated refusing c u = Stage.handle c u := by
    rw [Stage.fated, hgranted, ← hcalm]
  obtain ⟨hafter, -, htold⟩ := Stage.effect_of_handle (c := c) (s := u) rfl
  exact ⟨hsame, hsource ▸ answered_of_told htold, failures_of_handle hcalm, hafter.trans hsource⟩

theorem verdict_of_free (hplain : s.source.Plain) (hx : x ∈ s.source.tables)
    (hfetches : x.rows.length < pace.fetches) (hnodup : (x.columns.map (·.name)).Nodup)
    (hfree : ¬ Taken x) :
    verdict refusing pace connection s x = some (.ok (loaded? connection x)) := by
  have hperforms : (byTable { source := s.source }).Performs (tableName connection x.name)
      (loadTask pace connection x.name).run none (.ok (loaded? connection x))
      (replica? connection x) :=
    performs_loadTask connection (hplain.described x hx) (hplain.describe hx) (hplain.rowsOf hx)
      hfetches
  obtain ⟨k, hk⟩ := hperforms
  obtain ⟨t, hrun, -⟩ := hk.run (fun _ _ _ _ => Iff.rfl) (s := { source := s.source })
    ⟨rfl, rfl, rfl, id⟩ rfl
  rw [verdict, run_loadTask (s := { source := s.source }) pace connection rfl (hplain.describe hx)
    hnodup hfree, hrun]

/-- A copy that cannot begin ends at once. -/
theorem run_copyTable_of_refused {handle : (c : Call Cursor Loader) → Stage → Answer c × Stage}
    (pace : Pace) (name : String) {mode : LoadMode} {e : Error}
    (h : handle (.beginLoad table columns mode) s = (.error e, t)) :
    (copyTable pace name table columns mode : Attempt Cursor Loader Nat).run.run handle s =
      (some (.error (copyFailure table e)), t) := by
  show Program.run handle (.ask (.beginLoad table columns mode) _) s = _
  rw [Program.run, h]
  rfl

theorem verdict_of_taken (hplain : s.source.Plain) (hx : x ∈ s.source.tables)
    (hnodup : (x.columns.map (·.name)).Nodup) (htaken : Taken x) :
    verdict refusing pace connection s x = some (.error (.bulkCopyFailure
      (tableName connection x.name) (refusal (tableName connection x.name)))) := by
  have hname : x.description.name = x.name := by
    rw [StoredSource.description, StoredSource.describedName, hplain.described x hx,
      Option.getD_none]
  obtain ⟨u, hdescribed⟩ : ∃ u, (describe x.name : Attempt Cursor Loader SourceTable).run.run
      (Stage.fated refusing) { source := s.source } = (some (.ok x.description), u) := by
    refine ⟨_, Prod.ext ?_ rfl⟩
    exact congrArg (fun answer : Except Error SourceTable => some (answer.mapError sourceFailure))
      (hplain.describe hx)
  have hcolumns : ¬ x.description.columns.isEmpty = true := by
    obtain ⟨c, hc, -⟩ := htaken
    exact fun hempty => List.ne_nil_of_mem hc (List.isEmpty_iff.1 hempty)
  obtain ⟨t, hrefused⟩ := fated_of_not_nodup
    (fun h => (nodup_declared_columnsOf_iff (tableName connection x.name) hnodup).1 h htaken) u
  have hcopy := run_copyTable_of_refused pace x.name hrefused
  have hrun : (loadTask pace connection x.name : Attempt Cursor Loader _).run.run
      (Stage.fated refusing) { source := s.source } = (some (.error (copyFailure
        (tableName connection x.name) (refusal (tableName connection x.name)))), t) := by
    refine (Program.run_bind_ok hdescribed).trans ?_
    rw [if_neg hcolumns, hname]
    exact Program.run_bind_error hcopy
  rw [verdict, hrun]
  rfl

/-! ## A first run -/

/-- A first run with nothing in its way but what its tables are like. -/
structure FirstRun (pace : Pace) (connection : String) (s : Stage) : Prop where
  name : checkName connection = .ok ()
  lease : s.leases.isHeld connection = false
  bare : s.warehouse.startingWith (stem connection) = []
  plain : s.source.Plain
  fetches : ∀ x ∈ s.source.tables, x.rows.length < pace.fetches
  /-- No table has two columns of one name. -/
  distinct : ∀ x ∈ s.source.tables, (x.columns.map (·.name)).Nodup

/-- Where a table with two columns of one name is refused, a first run comes to an end as wanted: in
every order of its tasks, and when they are run one after another. -/
def RunEnds (pace : Pace) (connection : String) (s : Stage)
    (final : Except Error Report → Stage → Prop) : Prop :=
  (∀ limit, Inevitable (Lifecycle.Step .run pace connection (max limit 1)
    fun c s answer t => Stage.fated refusing c s = (answer, t)) (Lifecycle.Ended final)
      (Lifecycle.start connection, s)) ∧
  ∃ outcome t, (lifecycle .run pace connection).run.run (Stage.fated refusing) s =
    (some outcome, t) ∧ final outcome t

/-- Nothing is refused before the tables. -/
theorem tasks_refusing (pace : Pace) (hbare : s.warehouse.startingWith (stem connection) = []) :
    ∃ ts, ((tasks .run pace connection).run.run (Stage.fated refusing) s).1 = some (.ok ts) := by
  obtain ⟨u, hu⟩ : ∃ u, (Attempt.listTables (stem connection) : Attempt Cursor Loader _).run.run
      (Stage.fated refusing) s = (some (.ok []), u) := by
    rw [← hbare]
    exact ⟨_, rfl⟩
  obtain ⟨t, ht⟩ : ∃ t, (sourceTables : Attempt Cursor Loader _).run.run
      (Stage.fated refusing) u = (some (.ok u.source.list), t) := ⟨_, rfl⟩
  have hrun : (tasks .run pace connection).run.run (Stage.fated refusing) s = (some (.ok
      (u.source.list.map fun name => (loadTask pace connection name).run)), t) :=
    (Program.run_bind_ok hu).trans ((Program.run_bind_ok ht).trans rfl)
  exact ⟨_, congrArg Prod.fst hrun⟩

namespace FirstRun

theorem bound (h : FirstRun pace connection s) {final : Except Error Report → Stage → Prop}
    (hfinal : ∀ outcome t, (byFate refusing s).Concluded
      (s.source.tables.map (deciding refusing pace connection s)) t outcome →
        final ((outcome.map (·.flatMap Option.toList)).map fun reports =>
          ⟨connection, .run, reports⟩) t) : RunEnds pace connection s final := by
  have hopening := tasks_refusing (s := acquired connection s) pace h.bare
  exact (bound_concluded h.name h.lease (by decide) h.plain h.fetches operational_refusing hopening
    hfinal).ends rfl

theorem verdict_of_free (h : FirstRun pace connection s) (hx : x ∈ s.source.tables)
    (hfree : ¬ Taken x) :
    verdict refusing pace connection s x = some (.ok (loaded? connection x)) :=
  Replica.verdict_of_free h.plain hx (h.fetches x hx) (h.distinct x hx) hfree

/-- If no table has a column of the name of an added one, all are replicated. -/
theorem ends_of_free (h : FirstRun pace connection s) (hfree : ∀ x ∈ s.source.tables, ¬ Taken x) :
    RunEnds pace connection s fun outcome t => outcome = .ok (runReport connection s.source) ∧
      ∀ x ∈ s.source.tables,
        t.warehouse.table? (tableName connection x.name) = replica? connection x := by
  have hverdicts := fun x hx => h.verdict_of_free hx (hfree x hx)
  refine h.bound fun outcome t hconcluded => ?_
  obtain ⟨results, rfl, hmet⟩ | ⟨before, y, after, e, results, hsplit, rfl, -, hfailed, -⟩ :=
    hconcluded.of_map
  · have hresults : results = s.source.tables.map (loaded? connection) := by
      refine eq_map_of_forall₂ (((List.forall₂_and_left _ _).2 ⟨hverdicts, hmet⟩).imp ?_)
      rintro x result ⟨hx, -, hresult⟩
      exact (Except.ok.inj (Option.some.inj (hx.symm.trans hresult))).symm
    refine ⟨?_, fun x hx => ?_⟩
    · rw [hresults]
      show Except.ok (Report.mk connection .run (List.flatMap Option.toList _)) = _
      rw [runReport, List.filterMap_eq_flatMap_toList, List.flatMap_map]
    · obtain ⟨result, hresult⟩ := Division.exists_of_forall₂ hmet hx
      exact replica_of_deciding hresult
  · have hy : y ∈ s.source.tables := hsplit ▸ by simp
    cases (hverdicts y hy).symm.trans hfailed.2

/-- The first table that has a column of the name of an added one ends the run. -/
theorem ends_of_taken (h : FirstRun pace connection s) {before after : List StoredSource}
    (htables : s.source.tables = before ++ x :: after) (hbefore : ∀ y ∈ before, ¬ Taken y)
    (htaken : Taken x) :
    RunEnds pace connection s fun outcome t => outcome = .error (.bulkCopyFailure
      (tableName connection x.name) (refusal (tableName connection x.name))) ∧
        Stopped connection s before t := by
  have hmem : ∀ y ∈ before ++ [x], y ∈ s.source.tables := fun y hy => by
    rw [htables]
    exact (List.append_sublist_append_left before).2 (by simp) |>.subset hy
  have hfirst : ∀ y ∈ before, ∀ e, verdict refusing pace connection s y ≠ some (.error e) := by
    intro y hy e he
    have hok := h.verdict_of_free (hmem y (List.mem_append_left _ hy)) (hbefore y hy)
    cases hok.symm.trans he
  have hx : x ∈ s.source.tables := hmem x (by simp)
  have hlast : verdict refusing pace connection s x = some (.error _) :=
    verdict_of_taken h.plain hx (h.distinct x hx) htaken
  refine h.bound fun outcome t hconcluded => ?_
  obtain ⟨rfl, -, hstopped⟩ := stopped_of_concluded htables hfirst hlast hconcluded
  exact ⟨rfl, hstopped⟩

end FirstRun

/-- Of a table whose columns have names of their own, the batch that creates the replica declares
each name once exactly if none of them is the name of an added one.  Where all tables are so, a
first run replicates them; elsewhere it ends with the first that is not, and only those before it
are sure to be there. -/
theorem creates_iff_not_taken (x : StoredSource) (hx : (x.columns.map (·.name)).Nodup) :
    (∀ table : String, (declared (beginCreate table (columnsOf x))).Nodup ↔ ¬ Taken x) ∧
    ∀ (pace : Pace) (connection : String) (s : Stage), FirstRun pace connection s →
      ((∀ y ∈ s.source.tables, ¬ Taken y) →
        RunEnds pace connection s fun outcome t =>
          outcome = .ok (runReport connection s.source) ∧
          ∀ y ∈ s.source.tables,
            t.warehouse.table? (tableName connection y.name) = replica? connection y) ∧
      ∀ before after : List StoredSource,
        s.source.tables = before ++ x :: after → (∀ y ∈ before, ¬ Taken y) → Taken x →
        RunEnds pace connection s fun outcome t =>
          outcome = .error (.bulkCopyFailure (tableName connection x.name)
            (refusal (tableName connection x.name))) ∧
          Stopped connection s before t := by
  refine ⟨fun table => nodup_declared_columnsOf_iff table hx, fun pace connection s hfirst =>
    ⟨hfirst.ends_of_free, fun before after htables hbefore htaken => ?_⟩⟩
  exact hfirst.ends_of_taken htables hbefore htaken

/-- A source with a table that was itself replicated. -/
def copiedShop : Stage where
  source := { tables := [
    { name := "orders", columns := [⟨"id", "int4", false, {}, 1⟩], primaryKey := ["id"],
      rows := [[some "1"]] },
    { name := "shop__users", columns := [⟨"id", "int4", false, {}, 1⟩,
        ⟨"_etl_created_at", "timestamp", true, {}, 2⟩,
        ⟨"_etl_updated_at", "timestamp", true, {}, 3⟩],
      primaryKey := ["id"], rows := [] }] }

/-- The users bring the added columns with them and end the run; the orders before them are
replicated. -/
theorem users_end_copiedShop :
    FirstRun ⟨1, 1, 3⟩ "copy" copiedShop ∧ Taken copiedShop.source.tables[1] ∧
    (∃ t, (lifecycle .run ⟨1, 1, 3⟩ "copy").run.run (Stage.fated refusing) copiedShop =
        (some (.error (.bulkCopyFailure "copy__shop__users" (refusal "copy__shop__users"))), t) ∧
      Stopped "copy" copiedShop [copiedShop.source.tables[0]] t) ∧
    (declared (beginCreate "copy__orders" (columnsOf copiedShop.source.tables[0]))).Nodup := by
  have hfirst : FirstRun ⟨1, 1, 3⟩ "copy" copiedShop :=
    { name := checkName_eq_ok_iff.2 (by decide +kernel)
      lease := rfl
      bare := rfl
      plain := ⟨rfl, by decide, by decide⟩
      fetches := by decide
      distinct := by decide }
  have htaken : Taken copiedShop.source.tables[1] := by decide
  have horders : ¬ Taken copiedShop.source.tables[0] := by decide
  obtain ⟨hdeclared, -⟩ := creates_iff_not_taken copiedShop.source.tables[0] (by decide)
  obtain ⟨-, hruns⟩ := creates_iff_not_taken copiedShop.source.tables[1] (by decide)
  obtain ⟨-, outcome, t, hrun, rfl, hstopped⟩ := (hruns ⟨1, 1, 3⟩ "copy" copiedShop hfirst).2
    [copiedShop.source.tables[0]] [] rfl (List.forall_mem_singleton.2 horders) htaken
  exact ⟨hfirst, htaken, ⟨t, hrun, hstopped⟩, (hdeclared "copy__orders").2 horders⟩

/-- Three columns with names of their own, of which the replica is declared to have two twice. -/
theorem users_declared_twice :
    (copiedShop.source.tables[1].columns.map (·.name)).Nodup ∧
    ¬ (declared (beginCreate "copy__shop__users"
      (columnsOf copiedShop.source.tables[1]))).Nodup := by
  refine ⟨by decide, ?_⟩
  rw [declared_beginCreate, names_columnsOf]
  decide

end Replica

end Granary
