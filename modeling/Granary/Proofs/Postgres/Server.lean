import Granary.Postgres.Deployment
import Granary.Proofs.Postgres.Statement
import Granary.Proofs.Runs
import Mathlib.Logic.Function.Basic

/-!
# A server with transactions

What PostgreSQL makes of the statements of a load: tables with their rows and triggers, a
transaction for each client, and a cursor in it.  A transaction works on tables of its own, which
take the place of the others when it commits; a failed transaction comes to nothing, committed or
not.

`Server.Step` says how a call may be answered.  Any call may fail, and then leaves all tables as
they are, whatever becomes of the transaction: a failed answer to a text with a commit in it means
that nothing was committed.  A text that succeeds has done what its statements say.

Clients stand in their pool or are out of it.  Work that is abandoned gives back the clients that
are out, except for those that are guarded (`Client.abandoned`).
-/

namespace Granary.Postgres

open Sql (Token)

/-! ## Tables -/

/-- A row of a table by the names of its columns. -/
abbrev Record := List (String × Param)

structure Content where
  /-- What the table was created with. -/
  definition : List Token
  rows : List Record
  /-- For each trigger of a user whether it is enabled. -/
  triggers : List Bool
  deriving DecidableEq, Repr

abbrev Tables := String → Option Content

structure Server where
  /-- The rows that a query reads. -/
  rows : List Token → List (List Cell)
  /-- What a table becomes when rows are inserted while some of its triggers are enabled. -/
  fire : Content → List Record → Content

/-- So many rows of one width. -/
def cut {α : Type} (width : Nat) : Nat → List α → List (List α)
  | 0, _ => []
  | count + 1, cells => cells.take width :: cut width count (cells.drop width)

/-- The rows that an insertion writes. -/
def records? (names : List String) (holes : List Nat) (params : List Param) :
    Option (List Record) :=
  (holes.mapM fun k => params[k - 1]?).map fun cells =>
    (cut names.length (cells.length / names.length) cells).map names.zip

theorem cut_flatten {α : Type} {width : Nat} {rows : List (List α)}
    (h : ∀ row ∈ rows, row.length = width) : cut width rows.length rows.flatten = rows := by
  induction rows with
  | nil => rfl
  | cons row rest ih =>
    obtain ⟨hrow, hrest⟩ := List.forall_mem_cons.1 h
    subst hrow
    rw [List.length_cons, cut, List.flatten_cons, List.take_left, List.drop_left, ih hrest]

theorem length_flatten_of_width {α : Type} {width : Nat} {rows : List (List α)}
    (h : ∀ row ∈ rows, row.length = width) : rows.flatten.length = rows.length * width := by
  induction rows with
  | nil => simp
  | cons row rest ih =>
    obtain ⟨hrow, hrest⟩ := List.forall_mem_cons.1 h
    rw [List.flatten_cons, List.length_append, hrow, ih hrest, List.length_cons, Nat.succ_mul,
      Nat.add_comm]

theorem mapM_getElem? (params : List Param) :
    (List.range' 1 params.length).mapM (fun k => params[k - 1]?) = some params := by
  have htaken : ∀ n ≤ params.length,
      (List.range' 1 n).mapM (fun k => params[k - 1]?) = some (params.take n) := by
    intro n hn
    induction n with
    | zero => rfl
    | succ n ih =>
      have hlast : params[1 + n - 1]? = some params[n] := by
        rw [Nat.add_sub_cancel_left, List.getElem?_eq_getElem hn]
      rw [List.range'_1_concat, List.mapM_append, ih (Nat.le_of_succ_le hn), List.mapM_cons,
        List.mapM_nil, hlast, List.take_add_one, List.getElem?_eq_getElem hn]
      rfl
  rw [htaken _ (Nat.le_refl _), List.take_length]

theorem records?_flatten {names : List String} {rows : List (List Param)}
    (hnames : names ≠ []) (h : ∀ row ∈ rows, row.length = names.length) :
    records? names (List.range' 1 rows.flatten.length) rows.flatten =
      some (rows.map names.zip) := by
  have hwidth : 0 < names.length := List.length_pos_iff.2 hnames
  have hcount : rows.flatten.length / names.length = rows.length := by
    rw [length_flatten_of_width h, Nat.mul_div_cancel _ hwidth]
  rw [records?, mapM_getElem?, Option.map_some, hcount, cut_flatten h]

namespace Server

/-- What a table becomes, and how many rows are written, unless that is refused. -/
def edit (server : Server) (params : List Param) : Edit → Option Content → Option (Content × Nat)
  | .create definition, none => some (⟨definition, [], []⟩, 0)
  | .create _, some _ => none
  | _, none => none
  | .setTriggers enabled, some old =>
    some ({ old with triggers := old.triggers.map fun _ => enabled }, 0)
  | .truncate, some old => some ({ old with rows := [] }, 0)
  | .insert names holes, some old =>
    (records? names holes params).map fun new =>
      (if old.triggers.any id then server.fire old new else { old with rows := old.rows ++ new },
        new.length)

end Server

/-! ## Sessions -/

inductive Txn where
  | idle
  | reading
  /-- The tables as the transaction sees them. -/
  | writing (view : Tables)
  | failed

/-- What a server has of a client. -/
structure Session where
  txn : Txn := .idle
  /-- The name of the open cursor and the rows that it has yet to read. -/
  cursor : Option (String × List (List Cell)) := none

structure Scene where
  tables : Tables
  session : Session

namespace Server

/-- Edits the tables of a transaction, or those of all where no transaction is open. -/
def change (server : Server) (params : List Param) (table : String) (what : Edit) (s : Scene) :
    Option (Scene × ResultSet) :=
  match s.session.txn with
  | .idle => (server.edit params what (s.tables table)).map fun (new, count) =>
    ({ s with tables := Function.update s.tables table (some new) }, { affected := count })
  | .writing view => (server.edit params what (view table)).map fun (new, count) =>
    ({ s with session := { s.session with
        txn := .writing (Function.update view table (some new)) } }, { affected := count })
  | .reading | .failed => none

def withCursor (name : String) (s : Scene)
    (act : List (List Cell) → Scene × ResultSet) : Option (Scene × ResultSet) :=
  match s.session.cursor with
  | some (open_, rest) => if open_ = name then some (act rest) else none
  | none => none

/-- What a statement does, and what it answers, unless it is refused. -/
def run (server : Server) (params : List Param) (statement : Statement) (s : Scene) :
    Option (Scene × ResultSet) :=
  match statement, s.session.txn with
  | .rollback, _ => some ({ s with session := {} }, {})
  | .commit, .writing view => some ({ tables := view, session := {} }, {})
  -- a failed transaction comes to nothing, and that is no error
  | .commit, _ => some ({ s with session := {} }, {})
  | _, .failed => none
  | .begin readOnly, .idle =>
    some ({ s with session := { s.session with
      txn := if readOnly then .reading else .writing s.tables } }, {})
  -- no more than a warning within a transaction
  | .begin _, _ => some (s, {})
  | .declare _ _, .idle => none
  | .declare name query, _ =>
    if s.session.cursor.isSome then none
    else
      some ({ s with session := { s.session with cursor := some (name, server.rows query) } }, {})
  | .close name, _ =>
    withCursor name s fun _ => ({ s with session := { s.session with cursor := none } }, {})
  | .fetch count name, _ =>
    withCursor name s fun rest =>
      ({ s with session := { s.session with cursor := some (name, rest.drop count) } },
        { rows := rest.take count, affected := (rest.take count).length })
  | .edit table what, _ => server.change params table what s

/-- What statements without parameters do one after another. -/
def runAll (server : Server) (statements : List Statement) (s : Scene) : Option Scene :=
  statements.foldlM (fun s statement => (server.run [] statement s).map (·.1)) s

theorem runAll_rollback {server : Server} {tables : Tables} (session : Session) :
    server.runAll [.rollback] ⟨tables, session⟩ = some ⟨tables, {}⟩ := by
  simp [runAll, run]

end Server

/-! ## Clients -/

/-- Where a client is.  A client that has not been connected yet stands with those of the pool. -/
inductive Standing where
  | pooled
  /-- Out of the pool and not guarded yet. -/
  | fresh
  | guarded
  /-- Out of the pool and not guarded any more. -/
  | ending
  deriving DecidableEq, Repr

structure Client where
  standing : Standing := .pooled
  session : Session := {}
  /-- The text that was sent last and whether it succeeded. -/
  last : Option (String × Bool) := none

/-- What becomes of a client when the work that has it is abandoned. -/
def Client.abandoned (x : Client) : Client :=
  match x.standing with
  | .guarded => {}
  | _ => { x with standing := .pooled }

structure World (γ : Type) where
  tables : Tables
  clients : γ → Client

namespace World

variable {γ : Type} [DecidableEq γ]

def start (tables : Tables) : World γ := ⟨tables, fun _ => {}⟩

def put (w : World γ) (c : γ) (x : Client) : World γ :=
  { w with clients := Function.update w.clients c x }

def stand (w : World γ) (c : γ) (standing : Standing) : World γ :=
  w.put c { w.clients c with standing }

def scene (w : World γ) (c : γ) : Scene := ⟨w.tables, (w.clients c).session⟩

/-- What statements on a client have made of the world. -/
def play (w : World γ) (c : γ) (s : Scene) : World γ :=
  { w.put c { w.clients c with session := s.session } with tables := s.tables }

def sent (w : World γ) (c : γ) (sql : String) (succeeded : Bool) : World γ :=
  w.put c { w.clients c with last := some (sql, succeeded) }

/-- A call on a client has failed: no table is changed, and the transaction may be in any state. -/
def Failed (s : World γ) (c : γ) (t : World γ) : Prop :=
  ∃ session, t = s.put c { s.clients c with session }

variable (w : World γ) (c d : γ) (x y : Client)

@[simp] theorem tables_put : (w.put c x).tables = w.tables := rfl

@[simp] theorem clients_put : (w.put c x).clients c = x := Function.update_self ..

theorem clients_put_of_ne {c d : γ} (h : d ≠ c) : (w.put c x).clients d = w.clients d :=
  Function.update_of_ne h ..

theorem pooled_put {c d : γ} {x : Client} (hx : x.standing = .pooled)
    (h : d ≠ c → (w.clients d).standing = .pooled) :
    ((w.put c x).clients d).standing = .pooled := by
  by_cases hd : d = c
  · rw [hd, clients_put, hx]
  · rw [clients_put_of_ne _ _ hd, h hd]

@[simp] theorem put_put : (w.put c x).put c y = w.put c y := by
  rw [put, put, Function.update_idem]
  rfl

theorem put_self : w.put c (w.clients c) = w := by
  rw [put, Function.update_eq_self]

@[simp] theorem stand_put (standing : Standing) :
    (w.put c x).stand c standing = w.put c { x with standing } := by
  rw [stand, clients_put, put_put]

@[simp] theorem scene_put : (w.put c x).scene c = ⟨w.tables, x.session⟩ := by
  rw [scene, clients_put, tables_put]

@[simp] theorem sent_put (sql : String) (succeeded : Bool) :
    (w.put c x).sent c sql succeeded = w.put c { x with last := some (sql, succeeded) } := by
  rw [sent, clients_put, put_put]

theorem play_put (s : Scene) : (w.put c x).play c s =
    { w with tables := s.tables }.put c { x with session := s.session } := by
  rw [play, clients_put, put_put]
  rfl

theorem play_put_of_tables {s : Scene} (h : s.tables = w.tables) :
    (w.put c x).play c s = w.put c { x with session := s.session } := by
  rw [play_put, h]

theorem failed_put {t : World γ} :
    (w.put c x).Failed c t ↔ ∃ session, t = w.put c { x with session } := by
  simp [Failed]

end World

/-! ## Calls -/

section

variable {π γ : Type} [DecidableEq γ]

/-- How a call may be answered, and what becomes of the world. -/
def Server.Step (server : Server) : (c : Call π γ) → World γ → Answer c → World γ → Prop
  | .checkOut _, s, .ok c, t => (s.clients c).standing = .pooled ∧ t = s.stand c .fresh
  | .giveBack c, s, _, t => t = s.stand c .pooled
  | .discard c, s, _, t => t = s.put c {}
  | .guard c, s, _, t => t = s.stand c .guarded
  | .unguard c, s, _, t => t = s.stand c .ending
  | .batch c sql, s, .ok (), t =>
    ∃ statements scene, Statement.readAll? sql = some statements ∧
      server.runAll statements (s.scene c) = some scene ∧ t = (s.play c scene).sent c sql true
  | .batch c sql, s, .error _, t => (s.sent c sql false).Failed c t
  | .prepare _ sql, s, .ok statement, t => statement.sql = sql ∧ t = s
  | .prepare c _, s, .error _, t => s.Failed c t
  | .prepareOnce _ sql, s, .ok statement, t => statement.sql = sql ∧ t = s
  | .prepareOnce c _, s, .error _, t => s.Failed c t
  | .execute c statement params, s, .ok result, t =>
    ∃ what scene answer, Statement.readAll? statement.sql = some [what] ∧
      server.run params what (s.scene c) = some (scene, answer) ∧
      result.rows = answer.rows ∧ result.affected = answer.affected ∧ t = s.play c scene
  | .execute c _ _, s, .error _, t => s.Failed c t
  | _, s, _, t => t = s

/-- A server that refuses nothing but what cannot be read or done, with two clients. -/
def Server.answer (server : Server) : (c : Call Unit Bool) → World Bool → Answer c × World Bool
  | .openPool _, s => (.ok (), s)
  | .checkOut _, s =>
    if (s.clients false).standing = .pooled then (.ok false, s.stand false .fresh)
    else if (s.clients true).standing = .pooled then (.ok true, s.stand true .fresh)
    else (.error .noConnection, s)
  | .giveBack c, s => ((), s.stand c .pooled)
  | .discard c, s => ((), s.put c {})
  | .guard c, s => ((), s.stand c .guarded)
  | .unguard c, s => ((), s.stand c .ending)
  | .batch c sql, s =>
    match (Statement.readAll? sql).bind fun statements =>
        server.runAll statements (s.scene c) with
    | some scene => (.ok (), (s.play c scene).sent c sql true)
    | none => (.error .refused, s.sent c sql false)
  | .prepare _ sql, s => (.ok ⟨sql, Statement.parameters sql⟩, s)
  | .prepareOnce _ sql, s => (.ok ⟨sql, Statement.parameters sql⟩, s)
  | .execute c statement params, s =>
    match Statement.readAll? statement.sql with
    | some [what] =>
      match server.run params what (s.scene c) with
      | some (scene, answer) => (.ok answer, s.play c scene)
      | none => (.error .refused, s)
    | _ => (.error .refused, s)
  | .acquire connection, s => (.ok ⟨connection⟩, s)
  | .release _, s => ((), s)
  | .remembered _, s => (none, s)
  | .keep .., s => ((), s)
  | .forget _, s => ((), s)

theorem World.failed_self (s : World γ) (c : γ) : s.Failed c s :=
  ⟨(s.clients c).session, (World.put_self ..).symm⟩

theorem Server.step_answer (server : Server) (c : Call Unit Bool) (s : World Bool) :
    server.Step c s (server.answer c s).1 (server.answer c s).2 := by
  cases c with
  | checkOut pool =>
    dsimp only [Server.answer]
    by_cases hfirst : (s.clients false).standing = .pooled
    · rw [if_pos hfirst]
      exact ⟨hfirst, rfl⟩
    · rw [if_neg hfirst]
      by_cases hsecond : (s.clients true).standing = .pooled
      · rw [if_pos hsecond]
        exact ⟨hsecond, rfl⟩
      · rw [if_neg hsecond]
        rfl
  | batch c sql =>
    dsimp only [Server.answer]
    cases hrun : (Statement.readAll? sql).bind fun statements =>
        server.runAll statements (s.scene c) with
    | none => exact World.failed_self _ c
    | some scene =>
      obtain ⟨statements, hread, hscene⟩ := Option.bind_eq_some_iff.1 hrun
      exact ⟨statements, scene, hread, hscene, rfl⟩
  | execute c statement params =>
    dsimp only [Server.answer]
    cases hread : Statement.readAll? statement.sql with
    | none => exact World.failed_self s c
    | some statements =>
      match statements with
      | [] => exact World.failed_self s c
      | [what] =>
        dsimp only
        cases hrun : server.run params what (s.scene c) with
        | none => exact World.failed_self s c
        | some played => exact ⟨what, played.1, played.2, hread, hrun, rfl, rfl, rfl⟩
      | _ :: _ :: _ => exact World.failed_self s c
  | prepare c sql => exact ⟨rfl, rfl⟩
  | prepareOnce c sql => exact ⟨rfl, rfl⟩
  | _ => rfl

end

end Granary.Postgres
