import Granary.Proofs.Rehearsal.Databases
import Granary.Proofs.Replica.Asking
import Granary.Proofs.Replica.Stats

/-!
# Lifecycles keep to their own tables

Whatever fails, and in whatever order the tables are worked on, a lifecycle drops, loads and
finishes tables of its own connection only, since it asks for nothing else (`Allowed`).  By the
names of the tables these are apart from those of every other connection, so all the others stay as
they are, and the names also tell where each table came from.
-/

namespace Granary.Replica

open Program (Runs Safe)
open Rehearsal (Cursor Loader Source Stage StoredTable Warehouse)

/-- The warehouse tables that a connection has for the tables of a source. -/
def Target (connection : String) (source : Source) (table : String) : Prop :=
  ∃ t ∈ source.tables, table = tableName connection t.name ∨
    table = tableName connection t.describedName

theorem Target.under {connection table : String} {source : Source}
    (h : Target connection source table) : Under connection table := by
  obtain ⟨t, _, rfl | rfl⟩ := h
  · exact under_tableName connection _
  · exact under_tableName connection _

/-- The tables that a lifecycle creates, with their columns: those of the source tables that have
columns, under the names they are described by.  A refresh creates none. -/
def Created (mode : Mode) (connection : String) (source : Source) (table : String)
    (columns : List Column) : Prop :=
  mode ≠ .refresh ∧ ∃ t ∈ source.tables, t.columns.isEmpty = false ∧
    table = tableName connection t.describedName ∧ columns = t.columns.map Column.ofSource

theorem Created.target {mode : Mode} {connection table : String} {source : Source}
    {columns : List Column} (h : Created mode connection source table columns) :
    Target connection source table := by
  obtain ⟨_, t, ht, _, htable, _⟩ := h
  exact ⟨t, ht, .inr htable⟩

/-- The calls that a lifecycle may make: only tables of its connection are dropped, only targets are
loaded, and only what it creates is begun anew and finished. -/
def Allowed (mode : Mode) (connection : String) (source : Source) : Call Cursor Loader → Prop
  | .dropTable table => Under connection table
  | .beginLoad table columns .create => Created mode connection source table columns
  | .beginLoad table _ .replace => Target connection source table
  | .commit loader => Target connection source loader.table
  | .finalize table _ columns => Created mode connection source table columns
  | _ => True

theorem Allowed.under {mode : Mode} {connection table : String} {source : Source}
    {columns : List Column} {load : LoadMode}
    (h : Allowed mode connection source (.beginLoad table columns load)) :
    Under connection table := by
  cases load with
  | create => exact (Created.target h).under
  | replace => exact Target.under h

/-- What a lifecycle relies on in the answers to its calls. -/
def Answered (source : Source) : (c : Call Cursor Loader) → Answer c → Prop
  | .listTables stem, answer => ∀ names, answer = .ok names →
    ∀ name ∈ names, stem.toList.isPrefixOf name.toList = true
  | .describeSource table, answer => ∀ d, answer = .ok d → source.describe table = .ok d
  | .beginLoad table _ _, answer => ∀ loader : Loader, answer = .ok loader → loader.table = table
  | .insertBatch loader _, answer => answer.1.table = loader.table
  | _, _ => True

/-- Work that keeps to the tables of a connection, and ends with what is wanted. -/
def Work.Confined {α : Type} (mode : Mode) (connection : String) (source : Source)
    (wanted : α → Prop) (p : Work Cursor Loader α) : Prop :=
  p.Safe (Allowed mode connection source) (Answered source) wanted

def Attempt.Confined {α : Type} (mode : Mode) (connection : String) (source : Source)
    (wanted : α → Prop) (x : Attempt Cursor Loader α) : Prop :=
  Work.Confined mode connection source (fun outcome => ∀ a, outcome = .ok a → wanted a) x.run

variable {α β : Type} {mode : Mode} {connection : String} {source : Source}

namespace Attempt

variable {wanted : α → Prop}

theorem confined_bind {wanted' : β → Prop} {x : Attempt Cursor Loader α}
    {f : α → Attempt Cursor Loader β} (hx : x.Confined mode connection source wanted)
    (hf : ∀ a, wanted a → (f a).Confined mode connection source wanted') :
    (x >>= f).Confined mode connection source wanted' := by
  refine Safe.bind hx fun outcome ha => ?_
  cases outcome with
  | error e => exact fun _ h => nomatch h
  | ok a => exact hf a (ha a rfl)

theorem confined_pure {a : α} (h : wanted a) :
    (pure a : Attempt Cursor Loader α).Confined mode connection source wanted := by
  intro b hb
  cases hb
  exact h

theorem confined_throw (e : Error) :
    (throw e : Attempt Cursor Loader α).Confined mode connection source wanted :=
  fun _ hb => nomatch hb

theorem confined_failingAs {x : Attempt Cursor Loader α} {f : Error → Error}
    (hx : x.Confined mode connection source wanted) :
    (Attempt.failingAs f x).Confined mode connection source wanted := by
  refine Safe.bind hx fun outcome ha => ?_
  cases outcome with
  | error e => exact fun _ h => nomatch h
  | ok a => exact ha

end Attempt

/-! ## Copying a table -/

theorem Call.Moves.allowed {c : Call Cursor Loader} (h : c.Moves) :
    Allowed mode connection source c := by
  cases c with
  | openCursor | nextChunk | closeCursor | dropCursor | insertBatch => trivial
  | _ => exact h.elim

section

variable {table : String} {loader : Loader}

/-- Writing leaves a loader at its table. -/
theorem lasting_table : Lasting (Answered source) fun loader => loader.table = table :=
  fun _ _ _ hloader hanswer => hanswer.trans hloader

theorem confined_pump (hloader : loader.table = table) (pace : Pace) (name : String)
    (columns : List Column) :
    Work.Confined mode connection source (fun result => result.1.table = table)
      (pump pace name columns loader) := by
  have hmoves : Work.Moves True (Answered source) (fun loader => loader.table = table)
      (pump pace name columns loader) := moves_pump_spending lasting_table hloader pace name columns
  exact (hmoves.mono (fun _ => Call.Moves.allowed) fun _ h => h).safe

theorem confined_copyTable {columns : List Column} {load : LoadMode}
    (htarget : Target connection source table)
    (hbegin : Allowed mode connection source (.beginLoad table columns load)) (pace : Pace)
    (name : String) :
    (copyTable pace name table columns load : Attempt Cursor Loader Nat).Confined mode connection
      source fun _ => True := by
  refine ⟨hbegin, fun answer hanswer => ?_⟩
  cases answer with
  | error e => exact fun _ h => nomatch h
  | ok loader =>
    have hloader : loader.table = table := hanswer loader rfl
    refine Safe.bind (confined_pump hloader pace name columns) fun result hresult => ?_
    obtain ⟨next, outcome⟩ := result
    cases outcome with
    | error e => exact ⟨trivial, fun _ _ _ _ => trivial⟩
    | ok n =>
      have hnext : Target connection source next.table :=
        (show next.table = table from hresult).symm ▸ htarget
      exact ⟨hnext, fun _ _ _ _ => trivial⟩

end

/-! ## The tasks of a lifecycle -/

/-- A description comes from a table of the source that has the name. -/
theorem exists_of_describe {name : String} {d : SourceTable} (h : source.describe name = .ok d) :
    ∃ t ∈ source.tables, t.name = name ∧ d = t.description := by
  unfold Source.describe at h
  split at h
  · rename_i t hfind
    cases h
    exact ⟨t, List.mem_of_find?_eq_some hfind, by simpa using List.find?_some hfind, rfl⟩
  · cases h

theorem confined_describe (name : String) :
    (describe name : Attempt Cursor Loader SourceTable).Confined mode connection source
      fun d => source.describe name = .ok d :=
  Attempt.confined_failingAs ⟨trivial, fun _ hanswer d hd => hanswer d hd⟩

theorem confined_sourceTables :
    (sourceTables : Attempt Cursor Loader (List String)).Confined mode connection source
      fun _ => True :=
  Attempt.confined_failingAs ⟨trivial, fun _ _ _ _ => trivial⟩

theorem confined_loadTask (hmode : mode ≠ .refresh) (pace : Pace) (name : String) :
    (loadTask pace connection name : Attempt Cursor Loader (Option TableReport)).Confined mode
      connection source fun _ => True := by
  refine Attempt.confined_bind (confined_describe name) fun d hd => ?_
  obtain ⟨t, ht, _, rfl⟩ := exists_of_describe hd
  by_cases hempty : t.columns.isEmpty = true
  · rw [if_pos (show t.description.columns.isEmpty = true from hempty)]
    exact Attempt.confined_pure trivial
  · rw [if_neg (show ¬t.description.columns.isEmpty = true from hempty)]
    have hcreated : Created mode connection source (tableName connection t.describedName)
        (t.columns.map Column.ofSource) :=
      ⟨hmode, t, ht, Bool.eq_false_iff.2 hempty, rfl, rfl⟩
    have hbegin : Allowed mode connection source (.beginLoad (tableName connection t.describedName)
        (t.columns.map Column.ofSource) .create) := hcreated
    have hcopy := confined_copyTable hcreated.target hbegin pace t.describedName
    refine Attempt.confined_bind hcopy fun rows _ => ?_
    have hfinalize : (Attempt.finalize (tableName connection t.describedName) t.primaryKey
        (t.columns.map Column.ofSource) : Attempt Cursor Loader Unit).Confined mode connection
          source fun _ => True := ⟨hcreated, fun _ _ _ _ => trivial⟩
    exact Attempt.confined_bind (Attempt.confined_failingAs hfinalize)
      fun _ _ => Attempt.confined_pure trivial

theorem confined_replaceRows (pace : Pace) (name : String) :
    (replaceRows pace connection name : Attempt Cursor Loader (Option TableReport)).Confined mode
      connection source fun _ => True := by
  have hexists : (Attempt.tableExists (tableName connection name) :
      Attempt Cursor Loader Bool).Confined mode connection source fun _ => True :=
    ⟨trivial, fun _ _ _ _ => trivial⟩
  refine Attempt.confined_bind hexists fun found _ => ?_
  cases found with
  | false => exact Attempt.confined_pure trivial
  | true =>
    refine Attempt.confined_bind (confined_describe name) fun d hd => ?_
    obtain ⟨t, ht, rfl, _⟩ := exists_of_describe hd
    have htarget : Target connection source (tableName connection t.name) := ⟨t, ht, .inl rfl⟩
    by_cases hempty : d.columns.isEmpty = true
    · rw [if_pos hempty]
      exact Attempt.confined_pure trivial
    · rw [if_neg hempty]
      have hbegin : Allowed mode connection source (.beginLoad (tableName connection t.name)
          (d.columns.map Column.ofSource) .replace) := htarget
      exact Attempt.confined_bind (confined_copyTable htarget hbegin pace _)
        fun _ _ => Attempt.confined_pure trivial

theorem confined_refreshTask (pace : Pace) (name : String) :
    Work.Confined mode connection source (fun _ => True) (refreshTask pace connection name) := by
  refine Safe.bind (confined_replaceRows pace name) fun outcome _ => ?_
  cases outcome with
  | error e => trivial
  | ok report => trivial

theorem confined_dropAll {tables : List String} (h : ∀ table ∈ tables, Under connection table) :
    (dropAll tables : Attempt Cursor Loader Unit).Confined mode connection source
      fun _ => True := by
  induction tables with
  | nil => exact Attempt.confined_pure trivial
  | cons table rest ih =>
    rw [List.forall_mem_cons] at h
    have hdrop : (Attempt.dropTable table : Attempt Cursor Loader Unit).Confined mode connection
        source fun _ => True := ⟨h.1, fun _ _ _ _ => trivial⟩
    exact Attempt.confined_bind hdrop fun _ _ => ih h.2

theorem confined_listTables :
    (Attempt.listTables (stem connection) : Attempt Cursor Loader (List String)).Confined mode
      connection source fun tables => ∀ table ∈ tables, Under connection table :=
  ⟨trivial, fun _ hanswer names hnames => hanswer names hnames⟩

theorem confined_tasks (pace : Pace) :
    (tasks mode pace connection : Attempt Cursor Loader (List (Task Cursor Loader))).Confined mode
      connection source
      fun ts => ∀ task ∈ ts, Work.Confined mode connection source (fun _ => True) task := by
  have hload : mode ≠ .refresh → ∀ names : List String, ∀ task ∈ names.map fun name =>
      (loadTask pace connection name : Attempt Cursor Loader (Option TableReport)).run,
      Work.Confined mode connection source (fun _ => True) task := fun hmode names =>
    List.forall_mem_map.2 fun name _ =>
      Safe.mono (fun _ _ => trivial) (confined_loadTask hmode pace name)
  cases mode with
  | run =>
    refine Attempt.confined_bind confined_listTables fun existing _ => ?_
    by_cases hempty : existing.isEmpty = true
    · simp only [hempty]
      exact Attempt.confined_bind confined_sourceTables
        fun names _ => Attempt.confined_pure (hload (by decide) names)
    · simp only [hempty]
      have hthrow : (throw (.connectionNameConflict connection) :
          Attempt Cursor Loader PUnit).Confined .run connection source fun _ => False :=
        Attempt.confined_throw _
      exact Attempt.confined_bind hthrow fun _ h => h.elim
  | refresh =>
    refine Attempt.confined_bind confined_sourceTables fun names _ => Attempt.confined_pure ?_
    refine List.forall_mem_map.2 fun name _ => ?_
    exact Safe.bind (confined_refreshTask pace name) fun _ _ => trivial
  | fullRefresh =>
    refine Attempt.confined_bind confined_listTables fun existing hexisting => ?_
    refine Attempt.confined_bind (confined_dropAll hexisting) fun _ _ => ?_
    exact Attempt.confined_bind confined_sourceTables
      fun names _ => Attempt.confined_pure (hload (by decide) names)

/-- Tasks that are confined one by one are confined one after another. -/
theorem confined_inOrder {ts : List (Task Cursor Loader)}
    (h : ∀ task ∈ ts, Work.Confined mode connection source (fun _ => True) task) :
    (inOrder (ts.map .mk) : Attempt Cursor Loader (List TableReport)).Confined mode connection
      source fun _ => True := by
  induction ts with
  | nil => exact Attempt.confined_pure trivial
  | cons task rest ih =>
    rw [List.forall_mem_cons] at h
    have htask : Attempt.Confined mode connection source (fun _ => True) (.mk task) :=
      Safe.mono (fun _ _ _ _ => trivial) h.1
    refine Attempt.confined_bind htask fun first _ => ?_
    exact Attempt.confined_bind (ih h.2) fun _ _ => Attempt.confined_pure trivial

theorem confined_lifecycle (pace : Pace) :
    (lifecycle mode pace connection : Attempt Cursor Loader Report).Confined mode connection source
      fun _ => True := by
  have hname : (liftM (checkName connection) : Attempt Cursor Loader Unit).Confined mode connection
      source fun _ => True := fun _ _ => trivial
  have htables : (tables mode pace connection : Attempt Cursor Loader _).Confined mode connection
      source fun _ => True := by
    rw [tables_eq]
    exact Attempt.confined_bind (confined_tasks pace) fun ts hts => confined_inOrder hts
  have hholding : (Attempt.holding connection (tables mode pace connection) :
      Attempt Cursor Loader _).Confined mode connection source fun _ => True := by
    refine ⟨trivial, fun answer _ => ?_⟩
    cases answer with
    | error e => exact fun _ _ => trivial
    | ok guard =>
      exact Safe.bind htables fun outcome _ => ⟨trivial, fun _ _ _ _ => trivial⟩
  refine Attempt.confined_bind hname fun _ _ => ?_
  exact Attempt.confined_bind hholding fun _ _ => Attempt.confined_pure trivial

/-! ## What lifecycles leave -/

/-- Tables of other connections are as they were, and every new table is a target. -/
structure Kept (connection : String) (s t : Stage) : Prop where
  source : t.source = s.source
  others : t.warehouse.tables.filter (fun x => !(stem connection).toList.isPrefixOf x.name.toList) =
    s.warehouse.tables.filter fun x => !(stem connection).toList.isPrefixOf x.name.toList
  created : ∀ name, t.warehouse.has name = true →
    s.warehouse.has name = true ∨ Target connection s.source name

/-- Changing a table of the connection keeps the others; if it is put there, it must be a target. -/
theorem Kept.change {s t u : Stage} {name : String} (ht : Kept connection s t)
    (hunder : Under connection name) (hsource : u.source = t.source)
    (hchange : Warehouse.Change name t.warehouse u.warehouse)
    (hcreated : u.warehouse.has name = true →
      t.warehouse.has name = true ∨ Target connection s.source name) : Kept connection s u := by
  refine ⟨hsource.trans ht.source, ?_, fun other hother => ?_⟩
  · have hq : (!(stem connection).toList.isPrefixOf name.toList) = false := by
      rw [show (stem connection).toList.isPrefixOf name.toList = true from hunder]
      rfl
    have hfilter := hchange.filter
      (q := fun name => !(stem connection).toList.isPrefixOf name.toList) hq
    exact hfilter.trans ht.others
  · by_cases hsame : other = name
    · subst hsame
      obtain hold | htarget := hcreated hother
      · exact ht.created _ hold
      · exact .inr htarget
    · rw [Warehouse.has, hchange.table? hsame] at hother
      exact ht.created other hother

/-- A lifecycle may rely on what it is told. -/
theorem answered_of_told {s : Stage} {c : Call Cursor Loader} {answer : Answer c}
    (h : s.Told c answer) : Answered s.source c answer := by
  cases c with
  | listTables stem =>
    intro names hnames name hname
    rw [h names hnames] at hname
    exact (List.mem_filter.1 hname).2
  | describeSource table => exact h
  | beginLoad table columns mode =>
    intro loader hloader
    rw [h loader hloader]
  | insertBatch loader rows => exact h
  | _ => trivial

/-- What an allowed call keeps, and what it is answered. -/
theorem Kept.step {s t u : Stage} {c : Call Cursor Loader} {answer : Answer c}
    (ht : Kept connection s t) (hc : Allowed mode connection s.source c)
    (h : Stage.Unreliable c t answer u) : Answered s.source c answer ∧ Kept connection s u := by
  obtain ⟨hsource, heffect, htold⟩ := h.effect
  refine ⟨ht.source ▸ answered_of_told htold, ?_⟩
  have hsame : u.warehouse = t.warehouse → Kept connection s u := by
    intro hw
    refine ⟨hsource.trans ht.source, ?_, ?_⟩
    · rw [hw]
      exact ht.others
    · rw [hw]
      exact ht.created
  cases c with
  | dropTable table =>
    obtain hw | hw := (show u.warehouse = _ ∨ u.warehouse = _ from heffect)
    · exact hsame hw
    · refine ht.change hc hsource (hw ▸ .drop) fun hhas => ?_
      rw [hw, Warehouse.has_drop_self] at hhas
      cases hhas
  | commit loader =>
    have htarget : Target connection s.source loader.table := hc
    obtain hw | hw := (show u.warehouse = _ ∨ u.warehouse = _ from heffect)
    · exact hsame hw
    · exact ht.change htarget.under hsource (hw ▸ Warehouse.change_commit ..) fun _ => .inr htarget
  | finalize table key columns =>
    have htarget : Target connection s.source table := Created.target hc
    obtain hw | hw := (show u.warehouse = _ ∨ u.warehouse = _ from heffect)
    · exact hsame hw
    · exact ht.change htarget.under hsource (hw ▸ Warehouse.change_setPrimaryKey ..)
        fun _ => .inr htarget
  | _ => exact hsame heffect

/-- A lifecycle of the connection leads from one state of the databases to another: it has ended or
is broken off, with its tables one after another or side by side, and any calls may have failed. -/
inductive Leads (connection : String) (s t : Stage) : Prop where
  | sequential {mode : Mode} {pace : Pace} {out : Option (Except Error Report)}
      (h : Runs Stage.Unreliable (lifecycle mode pace connection).run s out t)
  | concurrent {mode : Mode} {pace : Pace} {limit : Nat} {state : Lifecycle.State Cursor Loader}
      (h : Lifecycle.Reached mode pace connection limit Stage.Unreliable s (state, t))

theorem Leads.kept {s t : Stage} (h : Leads connection s t) : Kept connection s t := by
  have hstart : Kept connection s s := ⟨rfl, rfl, fun _ h => .inl h⟩
  have hstep : ∀ mode (c : Call Cursor Loader) u (answer : Answer c) v,
      Allowed mode connection s.source c → Kept connection s u → Stage.Unreliable c u answer v →
        Answered s.source c answer ∧ Kept connection s v :=
    fun _ _ _ _ _ hc hu h => hu.step hc h
  cases h with
  | @sequential mode pace out h =>
    exact h.invariant (Kept connection s) (hstep mode) (confined_lifecycle pace) hstart
  | @concurrent mode pace limit state h =>
    exact h.invariant (Kept connection s) trivial (fun _ => trivial) (confined_tasks pace)
      (hstep mode) hstart

/-- The names that `checkName` accepts keep the tables of connections apart: a table is under the
stem of its own connection only, and the first separator of its name parts the connection from the
source table.  So a lifecycle leaves the tables of other connections exactly as they were, and the
statistics name the connection and the source table of every table, those that the lifecycle has
created among them. -/
theorem connections_apart {c d : String} (hc : checkName c = .ok ()) (hd : checkName d = .ok ()) :
    (∀ x, Under c (tableName d x) ↔ c = d) ∧
    (∀ x y, tableName c x = tableName d y → c = d ∧ x = y) ∧
    (∀ x, Text.cut separator (tableName d x) = some (d, x)) ∧
    ∀ s t, Leads c s t →
      (c ≠ d → ∀ x, t.warehouse.table? (tableName d x) = s.warehouse.table? (tableName d x)) ∧
      ∀ u stats, Runs Stage.Unreliable (warehouseStats : Attempt Cursor Loader Stats).run t
          (some (.ok stats)) u →
        (∀ x, t.warehouse.has (tableName d x) = true →
          (∃ e ∈ stats.tables, e.table = tableName d x) ∧
          ∀ e ∈ stats.tables, e.table = tableName d x → e.connection = d ∧ e.sourceTable = x) ∧
        ∀ name, t.warehouse.has name = true → s.warehouse.has name = false →
          ∃ table ∈ s.source.tables, ∃ x, (x = table.name ∨ x = table.describedName) ∧
            name = tableName c x ∧ (∃ e ∈ stats.tables, e.table = name) ∧
            ∀ e ∈ stats.tables, e.table = name → e.connection = c ∧ e.sourceTable = x := by
  rw [checkName_eq_ok_iff] at hc hd
  refine ⟨fun x => under_tableName_iff hc hd, fun x y => tableName_inj hc hd, cut_tableName hd,
    fun s t hleads => ⟨fun hne x => ?_, fun u stats hstats => ?_⟩⟩
  · have hq : (!(stem c).toList.isPrefixOf (tableName d x).toList) = true := by
      rw [Bool.not_eq_true', Bool.eq_false_iff]
      exact fun hunder => hne ((under_tableName_iff hc hd).1 hunder)
    exact Warehouse.table?_of_filter
      (q := fun name => !(stem c).toList.isPrefixOf name.toList) hq hleads.kept.others
  · have hentries := Stats.tables_of_runs hstats
    have hattributed : ∀ owner x, isName owner = true →
        t.warehouse.has (tableName owner x) = true →
        (∃ e ∈ stats.tables, e.table = tableName owner x) ∧
          ∀ e ∈ stats.tables, e.table = tableName owner x →
            e.connection = owner ∧ e.sourceTable = x := by
      intro owner x howner hhas
      rw [hentries]
      exact ⟨exists_entry howner hhas, fun e he htable => entry_of_table howner he htable⟩
    refine ⟨fun x hhas => hattributed d x hd hhas, fun name hhas hnew => ?_⟩
    obtain hold | ⟨table, hmem, hname⟩ := hleads.kept.created name hhas
    · rw [hold] at hnew
      cases hnew
    · obtain rfl | rfl := hname
      · exact ⟨table, hmem, _, .inl rfl, rfl, hattributed c _ hc hhas⟩
      · exact ⟨table, hmem, _, .inr rfl, rfl, hattributed c _ hc hhas⟩

/-- A shop with one table, and a warehouse that has tables of this shop and of another. -/
def twoShops : Stage where
  source := { tables := [
    { name := "orders", columns := [⟨"id", "int4", false, {}, 1⟩], primaryKey := ["id"],
      rows := [[some "1"], [some "2"]] }] }
  warehouse := { tables := [
    { name := "shop-2__orders", rows := [[some "7"]] }, { name := "shop__old" }] }

/-- What a full refresh of the shop leaves. -/
def reloadedShops : Stage :=
  ((lifecycle .fullRefresh ⟨10, 10, 10⟩ "shop").run.run Stage.handle twoShops).2

theorem reload_of_shop_keeps_other :
    checkName "shop" = .ok () ∧ checkName "shop-2" = .ok () ∧
    (reloadedShops.warehouse.table? "shop-2__orders").map (·.rows) = some [[some "7"]] ∧
    Text.cut separator (tableName "shop-2" "__x") = some ("shop-2", "__x") ∧
    ∃ stats u, (warehouseStats : Attempt Cursor Loader Stats).run.run Stage.handle reloadedShops =
        (some (.ok stats), u) ∧
      (∃ e ∈ stats.tables, e.table = "shop-2__orders" ∧ e.connection = "shop-2" ∧
        e.sourceTable = "orders") ∧
      ∃ e ∈ stats.tables, e.table = "shop__orders" ∧ e.connection = "shop" ∧
        e.sourceTable = "orders" := by
  have hshop : checkName "shop" = .ok () := checkName_eq_ok_iff.2 (by decide +kernel)
  have hother : checkName "shop-2" = .ok () := checkName_eq_ok_iff.2 (by decide +kernel)
  obtain ⟨_, _, hcut, hlifecycle⟩ := connections_apart hshop hother
  have hleads : Leads "shop" twoShops reloadedShops :=
    .sequential (Runs.of_run (fun c s => ⟨s.failures, rfl⟩) _ twoShops)
  obtain ⟨hkept, hstatistics⟩ := hlifecycle _ _ hleads
  have hrows := hkept (by decide) "orders"
  have hname : tableName "shop-2" "orders" = "shop-2__orders" := by decide +kernel
  rw [hname] at hrows
  refine ⟨hshop, hother, ?_, hcut "__x", ?_⟩
  · rw [hrows]
    decide +kernel
  · have hends : (((warehouseStats : Attempt Cursor Loader Stats).run.run Stage.handle
        reloadedShops).1.bind Except.toOption).isSome = true := by decide +kernel
    have hruns : Runs Stage.Unreliable (warehouseStats : Attempt Cursor Loader Stats).run
        reloadedShops ((warehouseStats : Attempt Cursor Loader Stats).run.run Stage.handle
          reloadedShops).1 _ := .of_run (fun c s => ⟨s.failures, rfl⟩) _ _
    generalize (warehouseStats : Attempt Cursor Loader Stats).run.run Stage.handle reloadedShops =
      result at hends hruns ⊢
    obtain ⟨_ | e | stats, u⟩ := result
    · cases hends
    · cases hends
    obtain ⟨hold, hnew⟩ := hstatistics u stats hruns
    obtain ⟨⟨e, he, htable⟩, hentry⟩ := hold "orders" (by decide +kernel)
    obtain ⟨x, hx, name, hsource, _, ⟨e', he', htable'⟩, hentry'⟩ :=
      hnew "shop__orders" (by decide +kernel) (by decide +kernel)
    obtain rfl := List.mem_singleton.1 hx
    have horders : name = "orders" := hsource.elim id id
    exact ⟨stats, u, rfl, ⟨e, he, htable.trans hname, hentry e he htable⟩,
      e', he', htable', horders ▸ hentry' e' he' htable'⟩

end Granary.Replica
