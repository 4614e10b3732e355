import Granary.Proofs.Outcome
import Granary.Proofs.Postgres.Server
import Granary.Proofs.Replica.Copying

/-!
# One load

A load has two clients out of their pools.  One writes the warehouse table in a transaction that
nobody else sees before it commits, the other reads the source table through a cursor.  `Stage` says
how any client is found wherever the load may be broken off, and `Sound` what has become of the
tables: either they are as before and no commit has succeeded (`Intact`), or a commit has, and the
table has all rows of the source table (`Committed`).  Each call of the load is gone through once,
from where it starts to where it ends.
-/

namespace Granary.Postgres

open Program (Keeps Runs)
open Replica (Column LoadMode Pace Row)
open Sql (Token)

/-- What is copied where. -/
structure Load (π : Type) where
  source : Database π
  warehouse : Database π
  /-- The source table. -/
  name : String
  /-- The warehouse table. -/
  table : String
  columns : List Column
  mode : LoadMode

namespace Load

variable {π γ : Type}

/-- All that is asked of PostgreSQL to copy the table. -/
def program (load : Load π) (pace : Pace) : Work π γ (Except Error Nat) :=
  (Engine.run load.source load.warehouse
    (Replica.copyTable pace load.name load.table load.columns load.mode)).run

/-! ## Texts -/

def setup (load : Load π) : String :=
  match load.mode with
  | .create => Statements.beginCreate load.table load.columns
  | .replace => Statements.beginReplace load.table

def reading (load : Load π) : String :=
  Statements.openCursor load.source.schema load.name load.columns

def commit (load : Load π) : String :=
  match load.mode with
  | .create => Statements.commit
  | .replace => Statements.commitReplace load.table

/-- The texts that open a transaction. -/
def Opens (load : Load π) (sql : String) : Prop := sql = load.setup ∨ sql = load.reading

/-- The texts that end one. -/
def Ends (load : Load π) (sql : String) : Prop :=
  sql = load.commit ∨ sql = Statements.rollback ∨ sql = Statements.closeCursor

/-- What reads the source table. -/
def query (load : Load π) : List Token :=
  Statements.selectTokens load.source.schema load.name load.columns

def setupStatements (load : Load π) : List Statement :=
  match load.mode with
  | .create => [.begin false, .edit load.table (.create (Statements.definitionTokens load.columns))]
  | .replace => [.begin false, .edit load.table (.setTriggers false), .edit load.table .truncate]

def commitStatements (load : Load π) : List Statement :=
  match load.mode with
  | .create => [.commit]
  | .replace => [.edit load.table (.setTriggers true), .commit]

variable (load : Load π)

theorem readAll?_setup : Statement.readAll? load.setup = some load.setupStatements := by
  unfold setup setupStatements
  cases load.mode with
  | create => exact Statements.readAll?_beginCreate load.table load.columns
  | replace => exact Statements.readAll?_beginReplace load.table

theorem readAll?_reading : Statement.readAll? load.reading =
    some [.begin true, .declare Statements.cursorName load.query] :=
  Statements.readAll?_openCursor load.name load.columns load.source.schema

theorem readAll?_commit : Statement.readAll? load.commit = some load.commitStatements := by
  unfold commit commitStatements
  cases load.mode with
  | create => exact Statements.readAll?_commit
  | replace => exact Statements.readAll?_commitReplace load.table

/-- A text that commits the load says nothing else than that. -/
theorem ne_commit {sql : String} {statements : List Statement}
    (h : Statement.readAll? sql = some statements) (hne : statements ≠ load.commitStatements) :
    sql ≠ load.commit := by
  rintro rfl
  rw [readAll?_commit] at h
  exact hne (Option.some.inj h).symm

theorem setup_ne_commit : load.setup ≠ load.commit := by
  refine load.ne_commit load.readAll?_setup ?_
  unfold setupStatements commitStatements
  cases load.mode <;> simp

theorem reading_ne_commit : load.reading ≠ load.commit := by
  refine load.ne_commit load.readAll?_reading ?_
  unfold commitStatements
  cases load.mode <;> simp

theorem rollback_ne_commit : Statements.rollback ≠ load.commit := by
  refine load.ne_commit Statements.readAll?_rollback ?_
  unfold commitStatements
  cases load.mode <;> simp

theorem closeCursor_ne_commit : Statements.closeCursor ≠ load.commit := by
  refine load.ne_commit Statements.readAll?_closeCursor ?_
  unfold commitStatements
  cases load.mode <;> simp

/-! ## Tables and sessions -/

/-- A row that is written. -/
def record (row : Row) : Record := (load.columns.map (·.name)).zip row

/-- The table with some rows, in place of what it was before. -/
def content (enabled : Bool) (rows : List Row) : Option Content → Content
  | none => ⟨Statements.definitionTokens load.columns, rows.map load.record, []⟩
  | some old => ⟨old.definition, rows.map load.record, old.triggers.map fun _ => enabled⟩

/-- The tables once the load has committed. -/
def loaded (tables : Tables) (rows : List Row) : Tables :=
  Function.update tables load.table (some (load.content true rows (tables load.table)))

/-- The session of the load with some rows written. -/
def writing (tables : Tables) (rows : List Row) : Session :=
  { txn := .writing (Function.update tables load.table
      (some (load.content false rows (tables load.table)))) }

/-- The session of the cursor with some rows left. -/
def cursing (rest : List (List Cell)) : Session :=
  { txn := .reading, cursor := some (Statements.cursorName, rest) }

/-- A loader of the load. -/
def loader (c : γ) : Loader γ := ⟨c, load.table, load.columns, load.mode⟩

variable {load} {server : Server} {tables : Tables}

theorem triggers_off (rows : List Row) (old : Option Content) :
    (load.content false rows old).triggers.any id = false := by
  cases old with
  | none => rfl
  | some old => simp [content]

/-- A transaction of the load begins with the table emptied, or new. -/
theorem runAll_setup {scene : Scene}
    (h : server.runAll load.setupStatements ⟨tables, {}⟩ = some scene) :
    (load.mode = .create → tables load.table = none) ∧
      scene = ⟨tables, load.writing tables []⟩ := by
  unfold setupStatements at h
  unfold writing
  cases hmode : load.mode with
  | create =>
    rw [hmode] at h
    cases hold : tables load.table with
    | none =>
      simp [Server.runAll, Server.run, Server.change, Server.edit, hold] at h
      simp [← h, content]
    | some old => simp [Server.runAll, Server.run, Server.change, Server.edit, hold] at h
  | replace =>
    rw [hmode] at h
    cases hold : tables load.table with
    | none => simp [Server.runAll, Server.run, Server.change, Server.edit, hold] at h
    | some old =>
      simp [Server.runAll, Server.run, Server.change, Server.edit, hold] at h
      simp [← h, content]

/-- Rows of the width of the columns are written behind the others. -/
theorem run_insert (hcolumns : load.columns ≠ []) {rows batch : List Row}
    (hwidth : ∀ row ∈ batch, row.length = load.columns.length) :
    server.run batch.flatten
      (.edit load.table (.insert (load.columns.map (·.name))
        (List.range' 1 (batch.length * load.columns.length))))
      ⟨tables, load.writing tables rows⟩ =
      some (⟨tables, load.writing tables (rows ++ batch)⟩, { affected := batch.length }) := by
  have hnames : load.columns.map (·.name) ≠ [] := by simpa using hcolumns
  have hbatch : ∀ row ∈ batch, row.length = (load.columns.map (·.name)).length := by
    simpa using hwidth
  have hrecords := records?_flatten hnames hbatch
  rw [length_flatten_of_width hwidth] at hrecords
  have hoff : (load.content false rows (tables load.table)).triggers.any id = false :=
    triggers_off rows (tables load.table)
  have hrows : { load.content false rows (tables load.table) with
      rows := (load.content false rows (tables load.table)).rows ++
        batch.map (load.columns.map (·.name)).zip } =
      load.content false (rows ++ batch) (tables load.table) := by
    cases tables load.table <;> simp [content, record]
  simp [Server.run, Server.change, Server.edit, writing, hrecords, hoff, hrows]

theorem runAll_commit (hnew : load.mode = .create → tables load.table = none) (rows : List Row) :
    server.runAll load.commitStatements ⟨tables, load.writing tables rows⟩ =
      some ⟨load.loaded tables rows, {}⟩ := by
  unfold commitStatements writing loaded
  cases hmode : load.mode with
  | create => simp [Server.runAll, Server.run, content, hnew hmode]
  | replace =>
    cases tables load.table <;>
      simp [Server.runAll, Server.run, Server.change, Server.edit, content]

theorem runAll_reading :
    server.runAll [.begin true, .declare Statements.cursorName load.query] ⟨tables, {}⟩ =
      some ⟨tables, cursing (server.rows load.query)⟩ := by
  simp [Server.runAll, Server.run, cursing]

theorem run_fetch (rest : List (List Cell)) (count : Nat) :
    server.run [] (.fetch count Statements.cursorName) ⟨tables, cursing rest⟩ =
      some (⟨tables, cursing (rest.drop count)⟩,
        { rows := rest.take count, affected := (rest.take count).length }) := by
  simp [Server.run, Server.withCursor, cursing]

theorem runAll_closeCursor (rest : List (List Cell)) :
    server.runAll [.close Statements.cursorName, .commit] ⟨tables, cursing rest⟩ =
      some ⟨tables, {}⟩ := by
  simp [Server.runAll, Server.run, Server.withCursor, cursing]

/-! ## Calls -/

/-- Checks a client out, opens a transaction on it and guards it. -/
def opening {α : Type} (pool : π) (sql : String) (fault : ClientFault → Error) (f : γ → α) :
    Attempt π γ α :=
  .mk <| .ask (.checkOut pool) fun
    | .error fault => .done (.error (.execution fault))
    | .ok client => .ask (.batch client sql) fun
      | .error e => .ask (.discard client) fun () => .done (.error (fault e))
      | .ok () => .ask (.guard client) fun () => .done (.ok (f client))

theorem beginLoad_eq (load : Load π) :
    load.warehouse.beginLoad load.table load.columns load.mode =
      opening load.warehouse.pool load.setup (Attempt.faultOf (.beginLoad load.table))
        load.loader (γ := γ) := by
  refine congrArg ExceptT.mk (congrArg (Program.ask _) (funext fun client => ?_))
  cases client with
  | error e => rfl
  | ok c =>
    refine congrArg (Program.ask (Call.batch c load.setup)) (funext fun started => ?_)
    cases started <;> rfl

theorem openCursor_eq (load : Load π) (chunk : Nat) :
    load.source.openCursor load.name load.columns chunk =
      opening load.source.pool load.reading (Attempt.faultOf (.openCursor load.name))
        (fun c : γ => ⟨c, load.name, chunk, false⟩) := by
  refine congrArg ExceptT.mk (congrArg (Program.ask _) (funext fun client => ?_))
  cases client with
  | error e => rfl
  | ok c =>
    refine congrArg (Program.ask (Call.batch c load.reading)) (funext fun started => ?_)
    cases started <;> rfl

/-- Ends the transaction of a client and gives it back if that succeeds. -/
def ending (client : γ) (sql : String) (fault : ClientFault → Error) : Attempt π γ Unit :=
  .mk <| .ask (.unguard client) fun () => .ask (.batch client sql) fun
    | .error e => .ask (.discard client) fun () => .done (.error (fault e))
    | .ok () => .ask (.giveBack client) fun () => .done (.ok ())

theorem finish_eq (loader : Loader γ) (sql : String) :
    loader.finish sql =
      (ending loader.client sql (Attempt.faultOf (.finishLoad loader.table)) :
        Attempt π γ Unit) := by
  refine congrArg ExceptT.mk (congrArg (Program.ask _) (funext fun _ => ?_))
  refine congrArg (Program.ask (Call.batch loader.client sql)) (funext fun answer => ?_)
  cases answer <;> rfl

theorem close_eq (cursor : Cursor γ) :
    cursor.close = (ending cursor.client Statements.closeCursor (Attempt.faultOf .closeCursor) :
      Attempt π γ Unit) := by
  refine congrArg ExceptT.mk (congrArg (Program.ask _) (funext fun _ => ?_))
  refine congrArg (Program.ask (Call.batch cursor.client Statements.closeCursor))
    (funext fun answer => ?_)
  cases answer <;> rfl

/-! ## Clients -/

variable (load) in
/-- What has been sent last on a client that a pool has. -/
def Returned (last : Option (String × Bool)) : Prop :=
  last = none ∨ ∃ sql, load.Ends sql ∧ last = some (sql, true)

variable (load) in
/-- How a client is found wherever the load is broken off. -/
inductive Stage : Client → Prop where
  | pooled {last : Option (String × Bool)} (h : load.Returned last) : Stage ⟨.pooled, {}, last⟩
  | fresh {last : Option (String × Bool)} (h : load.Returned last) : Stage ⟨.fresh, {}, last⟩
  | opened {sql : String} (h : load.Opens sql) (session : Session) (succeeded : Bool) :
    Stage ⟨.fresh, session, some (sql, succeeded)⟩
  | guarded {sql : String} (h : load.Opens sql) (session : Session) :
    Stage ⟨.guarded, session, some (sql, true)⟩
  | ending {sql : String} (h : load.Opens sql) (session : Session) :
    Stage ⟨.ending, session, some (sql, true)⟩
  | failed {sql : String} (h : load.Ends sql) (session : Session) :
    Stage ⟨.ending, session, some (sql, false)⟩
  | ended {sql : String} (h : load.Ends sql) : Stage ⟨.ending, {}, some (sql, true)⟩

theorem Stage.of_pooled {x : Client} (h : load.Stage x) (hpooled : x.standing = .pooled) :
    ∃ last, load.Returned last ∧ x = ⟨.pooled, {}, last⟩ := by
  cases h with
  | pooled h => exact ⟨_, h, rfl⟩
  | _ => cases hpooled

variable (load) in
/-- The client of the load with some rows written. -/
def loading (tables : Tables) (rows : List Row) : Client :=
  ⟨.guarded, load.writing tables rows, some (load.setup, true)⟩

variable (load) in
/-- The client of the cursor with some rows left. -/
def fetching (rest : List (List Cell)) : Client :=
  ⟨.guarded, cursing rest, some (load.reading, true)⟩

variable (load) in
/-- No commit has succeeded, and nothing has changed. -/
structure Intact (tables : Tables) (w : World γ) : Prop where
  tables : w.tables = tables
  stage : ∀ c, load.Stage (w.clients c)
  uncommitted : ∀ c, (w.clients c).last ≠ some (load.commit, true)

variable (load) in
/-- A commit has succeeded, and the table has all rows of the source table. -/
structure Committed (server : Server) (tables : Tables) (rows : List Row) (w : World γ) : Prop where
  read : (server.rows load.query).mapM textRow = .ok rows
  new : load.mode = .create → tables load.table = none
  tables : w.tables = load.loaded tables rows
  stage : ∀ c, load.Stage (w.clients c)
  committed : ∃ c, (w.clients c).last = some (load.commit, true)

variable {s t : World γ}

theorem intact_start (tables : Tables) : load.Intact tables (World.start tables : World γ) where
  tables := rfl
  stage _ := .pooled (.inl rfl)
  uncommitted _ h := nomatch h

variable [DecidableEq γ]

theorem Intact.stage_put (hs : load.Intact tables s) (c : γ) {x : Client} (hx : load.Stage x) :
    ∀ d, load.Stage ((s.put c x).clients d) := by
  intro d
  by_cases h : d = c
  · rw [h, World.clients_put]
    exact hx
  · rw [World.clients_put_of_ne _ _ h]
    exact hs.stage d

theorem Intact.put (hs : load.Intact tables s) (c : γ) {x : Client} (hx : load.Stage x)
    (hlast : x.last ≠ some (load.commit, true)) : load.Intact tables (s.put c x) where
  tables := hs.tables
  stage := hs.stage_put c hx
  uncommitted d := by
    by_cases h : d = c
    · rw [h, World.clients_put]
      exact hlast
    · rw [World.clients_put_of_ne _ _ h]
      exact hs.uncommitted d

/-- A client that is discarded leaves a place in its pool. -/
theorem Intact.discarded (hs : load.Intact tables s) (c : γ) : load.Intact tables (s.put c {}) :=
  hs.put c (.pooled (.inl rfl)) (Option.some_ne_none _).symm

variable (load) in
/-- How the world is found wherever the load is broken off. -/
def Sound (server : Server) (tables : Tables) (w : World γ) : Prop :=
  load.Intact tables w ∨ ∃ rows, load.Committed server tables rows w

theorem Opens.ne_commit {sql : String} (h : load.Opens sql) : sql ≠ load.commit := by
  rcases h with rfl | rfl
  · exact load.setup_ne_commit
  · exact load.reading_ne_commit

/-! ## Transactions begin -/

variable (server) in
theorem keeps_opening {α : Type} (pool : π) {sql : String} (hsql : load.Opens sql)
    (fault : ClientFault → Error) (f : γ → α) {statements : List Statement}
    (hread : Statement.readAll? sql = some statements)
    (htables : ∀ scene, server.runAll statements ⟨tables, {}⟩ = some scene → scene.tables = tables)
    (hs : load.Intact tables s) :
    (opening pool sql fault f).run.Keeps server.Step (load.Intact tables) (fun outcome t =>
      match outcome with
      | .error _ => t = s ∨ ∃ c, (s.clients c).standing = .pooled ∧ t = s.put c {}
      | .ok a => ∃ c scene, a = f c ∧ (s.clients c).standing = .pooled ∧
        server.runAll statements ⟨tables, {}⟩ = some scene ∧
        t = s.put c ⟨.guarded, scene.session, some (sql, true)⟩) s := by
  refine ⟨hs, fun client t ht => ?_⟩
  cases client with
  | error e =>
    obtain rfl : t = s := ht
    exact ⟨hs, .inl rfl⟩
  | ok c =>
    obtain ⟨hpooled, rfl⟩ := ht
    obtain ⟨last, hlast, hc⟩ := (hs.stage c).of_pooled hpooled
    have hnew : last ≠ some (load.commit, true) := by
      have h := hs.uncommitted c
      rwa [hc] at h
    have hout : s.stand c .fresh = s.put c ⟨.fresh, {}, last⟩ := by rw [World.stand, hc]
    have hother : ∀ b, (sql, b) ≠ (load.commit, true) := fun b h =>
      hsql.ne_commit (congrArg Prod.fst h)
    rw [hout]
    refine ⟨hs.put c (.fresh hlast) hnew, fun started t ht => ?_⟩
    cases started with
    | error e =>
      obtain ⟨session, rfl⟩ := ht
      rw [World.sent_put, World.clients_put, World.put_put]
      refine ⟨hs.put c (.opened hsql session false) fun h => hother _ (Option.some.inj h), ?_⟩
      intro _ t ht
      obtain rfl : t = _ := ht
      rw [World.put_put]
      exact ⟨hs.discarded c, .inr ⟨c, hpooled, rfl⟩⟩
    | ok _ =>
      obtain ⟨statements', scene, hread', hrun, rfl⟩ := ht
      obtain rfl : statements = statements' := Option.some.inj (hread.symm.trans hread')
      rw [World.scene_put, hs.tables] at hrun
      have hscene : scene.tables = s.tables := (htables scene hrun).trans hs.tables.symm
      rw [World.play_put_of_tables _ _ _ hscene, World.sent_put]
      refine ⟨hs.put c (.opened hsql _ true) fun h => hother _ (Option.some.inj h), ?_⟩
      intro _ t ht
      obtain rfl : t = _ := ht
      rw [World.stand_put]
      refine ⟨hs.put c (.guarded hsql _) fun h => hother _ (Option.some.inj h), ?_⟩
      exact ⟨c, scene, rfl, hpooled, hrun, rfl⟩

theorem keeps_beginLoad (hs : load.Intact tables s) :
    (load.warehouse.beginLoad load.table load.columns load.mode).run.Keeps server.Step
      (load.Intact tables) (fun outcome t =>
        match outcome with
        | .error _ => t = s ∨ ∃ c, (s.clients c).standing = .pooled ∧ t = s.put c {}
        | .ok loader => ∃ c, loader = load.loader c ∧ (s.clients c).standing = .pooled ∧
          (load.mode = .create → tables load.table = none) ∧
          t = s.put c (load.loading tables [])) s := by
  have hopening := keeps_opening server load.warehouse.pool (.inl rfl)
    (Attempt.faultOf (.beginLoad load.table)) load.loader load.readAll?_setup
    (fun scene h => by rw [(runAll_setup h).2]) hs
  rw [beginLoad_eq]
  refine hopening.mono (fun _ h => h) fun outcome t _ h => ?_
  cases outcome with
  | error e => exact h
  | ok loader =>
    obtain ⟨c, scene, hloader, hpooled, hrun, ht⟩ := h
    obtain ⟨hnew, hscene⟩ := runAll_setup hrun
    refine ⟨c, hloader, hpooled, hnew, ?_⟩
    rw [ht, hscene]
    rfl

theorem keeps_openCursor (chunk : Nat) (hs : load.Intact tables s) :
    (load.source.openCursor load.name load.columns chunk).run.Keeps server.Step
      (load.Intact tables) (fun outcome t =>
        match outcome with
        | .error _ => t = s ∨ ∃ c, (s.clients c).standing = .pooled ∧ t = s.put c {}
        | .ok cursor => ∃ c, cursor = ⟨c, load.name, chunk, false⟩ ∧
          (s.clients c).standing = .pooled ∧
          t = s.put c (load.fetching (server.rows load.query))) s := by
  have hrun : ∀ scene, server.runAll
      [.begin true, .declare Statements.cursorName load.query] ⟨tables, {}⟩ = some scene →
        scene = ⟨tables, cursing (server.rows load.query)⟩ := fun scene h =>
    Option.some.inj (h.symm.trans runAll_reading)
  have hopening := keeps_opening server load.source.pool (.inr rfl)
    (Attempt.faultOf (.openCursor load.name)) (fun c => (⟨c, load.name, chunk, false⟩ : Cursor γ))
    load.readAll?_reading (fun scene h => by rw [hrun scene h]) hs
  rw [openCursor_eq]
  refine hopening.mono (fun _ h => h) fun outcome t _ h => ?_
  cases outcome with
  | error e => exact h
  | ok cursor =>
    obtain ⟨c, scene, hcursor, hpooled, hscene, ht⟩ := h
    refine ⟨c, hcursor, hpooled, ?_⟩
    rw [ht, hrun scene hscene]
    rfl

/-! ## Transactions end -/

theorem keeps_ending {halt : World γ → Prop} {post : Except Error Unit → World γ → Prop} (c : γ)
    {sql first : String} (hsql : load.Ends sql) (hfirst : load.Opens first)
    (fault : ClientFault → Error) {session : Session} {statements : List Statement}
    (hread : Statement.readAll? sql = some statements) (hs : load.Intact tables s)
    (hc : s.clients c = ⟨.guarded, session, some (first, true)⟩)
    (hhalt : ∀ w, load.Intact tables w → halt w) (hdiscarded : ∀ e, post (.error e) (s.put c {}))
    (hended : ∀ scene, server.runAll statements ⟨tables, session⟩ = some scene →
      (∀ standing, standing = .ending ∨ standing = .pooled →
        halt ({ s with tables := scene.tables }.put c
          ⟨standing, scene.session, some (sql, true)⟩)) ∧
      post (.ok ()) ({ s with tables := scene.tables }.put c
        ⟨.pooled, scene.session, some (sql, true)⟩)) :
    (ending c sql fault : Attempt π γ Unit).run.Keeps server.Step halt post s := by
  have hother : ∀ b, (first, b) ≠ (load.commit, true) := fun b h =>
    hfirst.ne_commit (congrArg Prod.fst h)
  refine ⟨hhalt s hs, fun _ t ht => ?_⟩
  obtain rfl : t = _ := ht
  rw [World.stand, hc]
  have hending : load.Intact tables (s.put c ⟨.ending, session, some (first, true)⟩) :=
    hs.put c (.ending hfirst session) fun h => hother _ (Option.some.inj h)
  refine ⟨hhalt _ hending, fun answer t ht => ?_⟩
  cases answer with
  | error e =>
    obtain ⟨session', rfl⟩ := ht
    rw [World.sent_put, World.clients_put, World.put_put]
    have hfailed : load.Intact tables (s.put c ⟨.ending, session', some (sql, false)⟩) :=
      hs.put c (.failed hsql session') (by simp)
    refine ⟨hhalt _ hfailed, fun _ t ht => ?_⟩
    obtain rfl : t = _ := ht
    rw [World.put_put]
    exact ⟨hhalt _ (hs.discarded c), hdiscarded _⟩
  | ok _ =>
    obtain ⟨statements', scene, hread', hrun, rfl⟩ := ht
    obtain rfl : statements = statements' := Option.some.inj (hread.symm.trans hread')
    rw [World.scene_put, hs.tables] at hrun
    obtain ⟨hback, hpost⟩ := hended scene hrun
    rw [World.play_put, World.sent_put]
    refine ⟨hback _ (.inl rfl), fun _ t ht => ?_⟩
    obtain rfl : t = _ := ht
    rw [World.stand_put]
    exact ⟨hback _ (.inr rfl), hpost⟩

/-- A text that ends a transaction without a commit of the load. -/
theorem keeps_ending_intact (c : γ) {sql first : String} (hsql : load.Ends sql)
    (hcommit : sql ≠ load.commit) (hfirst : load.Opens first) (fault : ClientFault → Error)
    {session : Session} {statements : List Statement}
    (hread : Statement.readAll? sql = some statements)
    (hrun : server.runAll statements ⟨tables, session⟩ = some ⟨tables, {}⟩)
    (hs : load.Intact tables s) (hc : s.clients c = ⟨.guarded, session, some (first, true)⟩) :
    (ending c sql fault : Attempt π γ Unit).run.Keeps server.Step (load.Intact tables)
      (fun _ t => ∃ last, t = s.put c ⟨.pooled, {}, last⟩) s := by
  refine keeps_ending c hsql hfirst fault hread hs hc (fun _ h => h) (fun _ => ⟨none, rfl⟩) ?_
  intro scene hscene
  obtain rfl : ⟨tables, {}⟩ = scene := Option.some.inj (hrun.symm.trans hscene)
  have hsame : { s with tables := tables } = s := by rw [← hs.tables]
  have hother : some (sql, true) ≠ some (load.commit, true) := fun h =>
    hcommit (congrArg Prod.fst (Option.some.inj h))
  rw [hsame]
  refine ⟨?_, some (sql, true), rfl⟩
  rintro standing (rfl | rfl)
  · exact hs.put c (.ended hsql) hother
  · exact hs.put c (.pooled (.inr ⟨sql, hsql, rfl⟩)) hother

theorem keeps_rollback (c : γ) {session : Session} (hs : load.Intact tables s)
    (hc : s.clients c = ⟨.guarded, session, some (load.setup, true)⟩) :
    ((load.loader c).rollback : Attempt π γ Unit).run.Keeps server.Step (load.Intact tables)
      (fun _ t => ∃ last, t = s.put c ⟨.pooled, {}, last⟩) s := by
  rw [Loader.rollback, finish_eq]
  exact keeps_ending_intact c (.inr (.inl rfl)) load.rollback_ne_commit (.inl rfl) _
    Statements.readAll?_rollback (Server.runAll_rollback session) hs hc

theorem keeps_closeCursor (c : γ) (rest : List (List Cell)) (chunk : Nat) (exhausted : Bool)
    (hs : load.Intact tables s) (hc : s.clients c = load.fetching rest) :
    ((⟨c, load.name, chunk, exhausted⟩ : Cursor γ).close : Attempt π γ Unit).run.Keeps server.Step
      (load.Intact tables) (fun _ t => ∃ last, t = s.put c ⟨.pooled, {}, last⟩) s := by
  rw [close_eq]
  exact keeps_ending_intact c (.inr (.inr rfl)) load.closeCursor_ne_commit (.inr rfl) _
    Statements.readAll?_closeCursor (runAll_closeCursor rest) hs hc

theorem keeps_commit (c : γ) {rows : List Row}
    (hrows : (server.rows load.query).mapM textRow = .ok rows)
    (hnew : load.mode = .create → tables load.table = none) (hs : load.Intact tables s)
    (hc : s.clients c = load.loading tables rows) :
    ((load.loader c).commit : Attempt π γ Unit).run.Keeps server.Step
      (load.Sound server tables) (fun outcome t =>
        (∃ last, t.clients = (s.put c ⟨.pooled, {}, last⟩).clients) ∧
        match outcome with
        | .error _ => load.Intact tables t
        | .ok _ => load.Committed server tables rows t) s := by
  have hcommit : (load.loader c).commit = ((load.loader c).finish load.commit : Attempt π γ Unit) :=
    rfl
  rw [hcommit, finish_eq]
  refine keeps_ending c (.inl rfl) (.inl rfl) _ load.readAll?_commit hs hc (fun _ h => .inl h) ?_ ?_
  · exact fun _ => ⟨⟨none, rfl⟩, hs.discarded c⟩
  · intro scene hscene
    obtain rfl : ⟨load.loaded tables rows, {}⟩ = scene :=
      Option.some.inj ((runAll_commit hnew rows).symm.trans hscene)
    have hdone : ∀ x, load.Stage x → x.last = some (load.commit, true) →
        load.Committed server tables rows ({ s with tables := load.loaded tables rows }.put c x) :=
      fun x hx hlast => ⟨hrows, hnew, rfl, hs.stage_put c hx, c, by rwa [World.clients_put]⟩
    have hback := hdone _ (.pooled (.inr ⟨load.commit, .inl rfl, rfl⟩)) rfl
    refine ⟨?_, ⟨_, rfl⟩, hback⟩
    rintro standing (rfl | rfl)
    · exact .inr ⟨rows, hdone _ (.ended (.inl rfl)) rfl⟩
    · exact .inr ⟨rows, hback⟩

/-! ## Statements with parameters -/

theorem Intact.guarded (hs : load.Intact tables s) (c : γ) {first : String}
    (hfirst : load.Opens first) (session : Session) :
    load.Intact tables (s.put c ⟨.guarded, session, some (first, true)⟩) :=
  hs.put c (.guarded hfirst session) fun h =>
    hfirst.ne_commit (congrArg Prod.fst (Option.some.inj h))

/-- A statement that is executed on a guarded client fails, or does all that it may do. -/
theorem keeps_execute (c : γ) {first : String} (hfirst : load.Opens first) (action : Action)
    {statement : Prepared} {params : List Param} {session after : Session} {answer : ResultSet}
    (hs : load.Intact tables s)
    (hrun : ∀ what played, Statement.readAll? statement.sql = some [what] →
      server.run params what ⟨tables, session⟩ = some played →
      played = (⟨tables, after⟩, answer)) :
    (Attempt.execute c action statement params : Attempt π γ ResultSet).run.Keeps server.Step
      (load.Intact tables) (fun outcome t =>
        match outcome with
        | .error _ => ∃ session, t = s.put c ⟨.guarded, session, some (first, true)⟩
        | .ok result => result.rows = answer.rows ∧ result.affected = answer.affected ∧
          t = s.put c ⟨.guarded, after, some (first, true)⟩)
      (s.put c ⟨.guarded, session, some (first, true)⟩) := by
  rw [Attempt.execute]
  -- too few or too many parameters are found before anything is sent
  by_cases hparams : statement.parameters ≠ params.length
  · rw [if_pos hparams]
    exact ⟨hs.guarded c hfirst session, session, rfl⟩
  · rw [if_neg hparams]
    refine ⟨hs.guarded c hfirst session, fun result t ht => ?_⟩
    cases result with
    | error e =>
      obtain ⟨session, rfl⟩ := (World.failed_put ..).1 ht
      exact ⟨hs.guarded c hfirst session, session, rfl⟩
    | ok result =>
      obtain ⟨what, scene, answer', hread, hplayed, hrows, haffected, rfl⟩ := ht
      rw [World.scene_put, hs.tables] at hplayed
      obtain ⟨rfl, rfl⟩ := Prod.mk.inj (hrun what _ hread hplayed)
      rw [World.play_put_of_tables _ _ _ hs.tables.symm]
      exact ⟨hs.guarded c hfirst after, hrows, haffected, rfl⟩

/-- An insertion that succeeds has written its rows; into no columns none does. -/
theorem played_insert {rows batch : List Row}
    (hwidth : ∀ row ∈ batch, row.length = load.columns.length) {what : Statement}
    {played : Scene × ResultSet}
    (hread : Statement.readAll? (Statements.insert load.table load.columns batch.length) =
      some [what])
    (hplayed : server.run batch.flatten what ⟨tables, load.writing tables rows⟩ = some played) :
    played = (⟨tables, load.writing tables (rows ++ batch)⟩, { affected := batch.length }) := by
  rw [Statements.readAll?_insert] at hread
  by_cases hnone : load.columns.isEmpty = true
  · rw [if_pos hnone] at hread
    cases hread
  · rw [if_neg hnone] at hread
    have hcolumns : load.columns ≠ [] := fun h => hnone (List.isEmpty_iff.2 h)
    obtain ⟨rfl, -⟩ := List.cons.inj (Option.some.inj hread)
    exact Option.some.inj (hplayed.symm.trans (run_insert hcolumns hwidth))

theorem played_fetch {rest : List (List Cell)} {chunk : Nat} {what : Statement}
    {played : Scene × ResultSet}
    (hread : Statement.readAll? (Statements.fetch chunk) = some [what])
    (hplayed : server.run [] what ⟨tables, cursing rest⟩ = some played) :
    played = (⟨tables, cursing (rest.drop chunk)⟩,
      { rows := rest.take chunk, affected := (rest.take chunk).length }) := by
  rw [Statements.readAll?_fetch] at hread
  obtain ⟨rfl, -⟩ := List.cons.inj (Option.some.inj hread)
  exact Option.some.inj (hplayed.symm.trans (run_fetch rest chunk))

theorem keeps_insert (c : γ) {rows batch : List Row}
    (hwidth : ∀ row ∈ batch, row.length = load.columns.length) (hs : load.Intact tables s)
    (hc : s.clients c = load.loading tables rows) :
    ((load.loader c).insert batch : Attempt π γ Nat).run.Keeps server.Step (load.Intact tables)
      (fun outcome t =>
        match outcome with
        | .ok n => n = batch.length ∧ t = s.put c (load.loading tables (rows ++ batch))
        | .error _ => ∃ session, t = s.put c ⟨.guarded, session, some (load.setup, true)⟩) s := by
  have hsame : s = s.put c (load.loading tables rows) := by rw [← hc, World.put_self]
  unfold Loader.insert
  by_cases hempty : batch.isEmpty = true
  · rw [if_pos hempty]
    obtain rfl := List.isEmpty_iff.1 hempty
    refine ⟨hs, rfl, ?_⟩
    rw [List.append_nil]
    exact hsame
  · rw [if_neg hempty]
    refine ⟨hs, fun prepared t ht => ?_⟩
    rw [hsame] at ht
    cases prepared with
    | error e =>
      obtain ⟨session, rfl⟩ := (World.failed_put ..).1 ht
      exact ⟨hs.guarded c (.inl rfl) session, session, rfl⟩
    | ok statement =>
      obtain ⟨hsql, rfl⟩ := ht
      have hcells : batch.flatten.length = batch.length * (load.loader c).columns.length :=
        length_flatten_of_width hwidth
      show Keeps _ _ _ (ExceptT.run (if batch.flatten.length ≠ batch.length * _ then _ else
        (Attempt.execute c (.insertRows load.table) statement batch.flatten >>= fun result =>
          pure result.affected))) _
      rw [if_neg (not_not_intro hcells)]
      refine (keeps_execute c (.inl rfl) (.insertRows load.table) hs
        fun what played hread => played_insert hwidth (hsql ▸ hread)).bind fun outcome t ht h => ?_
      cases outcome with
      | error e => exact ⟨ht, h⟩
      | ok result =>
        obtain ⟨-, haffected, rfl⟩ := h
        exact ⟨ht, haffected, rfl⟩

/-- The rows that a cursor has read are those that come next. -/
theorem keeps_nextChunk (c : γ) {rest : List (List Cell)} (chunk : Nat) (hs : load.Intact tables s)
    (hc : s.clients c = load.fetching rest) :
    ((⟨c, load.name, chunk, false⟩ : Cursor γ).next (π := π)).Keeps server.Step (load.Intact tables)
      (fun (cursor, outcome) t => cursor.client = c ∧ ∃ session,
        t = s.put c ⟨.guarded, session, some (load.reading, true)⟩ ∧
        ∀ rows, outcome = .ok rows →
          cursor = ⟨c, load.name, chunk, (rest.take chunk).isEmpty⟩ ∧
          session = cursing (rest.drop chunk) ∧ (rest.take chunk).mapM textRow = .ok rows) s := by
  have hsame : s = s.put c (load.fetching rest) := by rw [← hc, World.put_self]
  unfold Cursor.next
  rw [if_neg Bool.false_ne_true]
  refine ⟨hs, fun prepared t ht => ?_⟩
  rw [hsame] at ht
  cases prepared with
  | error e =>
    obtain ⟨session, rfl⟩ := (World.failed_put ..).1 ht
    exact ⟨hs.guarded c (.inr rfl) session, rfl, session, rfl, fun _ h => nomatch h⟩
  | ok statement =>
    obtain ⟨hsql, rfl⟩ := ht
    refine (keeps_execute c (.inr rfl) (.fetchRows load.name) hs
      fun what played hread => played_fetch (hsql ▸ hread)).bind fun outcome t ht h => ?_
    cases outcome with
    | error e =>
      obtain ⟨session, rfl⟩ := h
      exact ⟨ht, rfl, session, rfl, fun _ h => nomatch h⟩
    | ok result =>
      obtain ⟨hrows, -, rfl⟩ := h
      refine ⟨ht, rfl, _, rfl, fun rows h => ?_⟩
      rw [hrows] at h ⊢
      exact ⟨rfl, rfl, Outcome.mapError_eq_ok.1 h⟩

end Load

end Granary.Postgres
