import Granary.Proofs.Rehearsal.Databases
import Granary.Proofs.Replica.Attending
import Granary.Proofs.Replica.Loading
import Granary.Proofs.Replica.Settling

/-!
# Databases whose calls may fail

Any call to the databases in memory may fail, with any error but one that says of itself that a copy
has failed (`Stage.Faulty`).  A call that fails changes nothing, so each task finds its table as
`Serves` has it: absent until the load is committed, and with all its rows from then on.

Beside the table itself a task is said to have asked for its key or not, which is read off the calls
that were written down; that is what tells whether a table whose load has failed is still there.
-/

namespace Granary

/-- An error that does not say of itself that a copy has failed. -/
def Error.Operational (e : Error) : Prop := ∀ table cause, e ≠ .bulkCopyFailure table cause

/-- Whether a call asks for the key of a table. -/
def Replica.Call.finalizes {κ ω : Type} (table : String) : Replica.Call κ ω → Bool
  | .finalize name _ _ => name == table
  | _ => false

namespace Rehearsal

open Replica (Answer Call LoadMode SourceTable)

/-- Whether some calls ask for the key of a table. -/
def finalizes (table : String) (events : List Event) : Bool :=
  events.any fun e => e.call.finalizes table

theorem Failure.exists_of_check {π : Type} {applies : π → Bool} {failures : List (Failure π)}
    {pattern : π} (h : (check applies failures).1 = some pattern) :
    ∃ f ∈ failures, f.pattern = pattern := by
  induction failures with
  | nil => cases h
  | cons f rest ih =>
    unfold check at h
    split at h
    · split at h
      · exact ⟨f, List.mem_cons_self, Option.some.inj h⟩
      · obtain ⟨g, hg, hpattern⟩ := ih h
        exact ⟨g, List.mem_cons_of_mem f hg, hpattern⟩
    · obtain ⟨g, hg, hpattern⟩ := ih h
      exact ⟨g, List.mem_cons_of_mem f hg, hpattern⟩

namespace Stage

/-- A call to databases that may fail at any call, with errors of one kind. -/
def Failing (failure : Error → Prop) (c : Call Cursor Loader) (s : Stage) (answer : Answer c)
    (t : Stage) : Prop :=
  ∃ failures : List (Failure Breakdown), (∀ f ∈ failures, failure f.pattern.error) ∧
    handle c { s with failures } = (answer, t)

theorem Failing.unreliable {failure : Error → Prop} {c : Call Cursor Loader} {s t : Stage}
    {answer : Answer c} (h : Failing failure c s answer t) : Unreliable c s answer t := by
  obtain ⟨failures, _, hhandle⟩ := h
  exact ⟨failures, hhandle⟩

/-- A call to databases that may fail at any call, with errors of their own. -/
def Faulty (c : Call Cursor Loader) (s : Stage) (answer : Answer c) (t : Stage) : Prop :=
  Failing Error.Operational c s answer t

/-- Databases in which calls fail as it is planned for each of them, whenever they are made. -/
def fated (fate : Call Cursor Loader → List (Failure Breakdown)) (c : Call Cursor Loader)
    (s : Stage) : Answer c × Stage :=
  handle c { s with failures := fate c }

theorem faulty_fated {fate : Call Cursor Loader → List (Failure Breakdown)}
    (hfate : ∀ c, ∀ f ∈ fate c, f.pattern.error.Operational) (c : Call Cursor Loader) (s : Stage) :
    Faulty c s (fated fate c s).1 (fated fate c s).2 :=
  ⟨fate c, hfate c, rfl⟩

theorem attempt_faulty {α : Type} {failure : Error → Prop} {s t : Stage}
    (hs : ∀ f ∈ s.failures, failure f.pattern.error) {event : Event} {point table : String}
    {act : Stage → Except Error α × Stage} {outcome : Except Error α}
    (h : s.attempt event point table act = (outcome, t)) :
    ∃ failures, (∃ e : Error, failure e ∧ outcome = .error e ∧
      t = { s with failures, trace := s.trace ++ [event] }) ∨
      act { s with failures, trace := s.trace ++ [event] } = (outcome, t) := by
  unfold attempt at h
  cases hdue : Failure.check (·.appliesTo point table) s.failures with
  | mk due failures =>
    rw [hdue] at h
    cases due with
    | none => exact ⟨failures, .inr h⟩
    | some breakdown =>
      obtain ⟨f, hf, rfl⟩ := Failure.exists_of_check (congrArg Prod.fst hdue)
      obtain ⟨rfl, rfl⟩ := Prod.mk.inj h
      exact ⟨failures, .inl ⟨_, hs f hf, rfl, rfl⟩⟩

/-- A call that answers with a value changes nothing, and fails or answers with that value. -/
theorem Faulty.answer {α : Type} {failure : Error → Prop} {s t : Stage} {event : Event}
    {point table : String} {value : Stage → Except Error α} {outcome : Except Error α}
    {failures : List (Failure Breakdown)} (hs : ∀ f ∈ failures, failure f.pattern.error)
    (h : attempt { s with failures } event point table (Stage.answer value) = (outcome, t)) :
    t.warehouse = s.warehouse ∧ ((∃ e : Error, failure e ∧ outcome = .error e) ∨
      ∃ u : Stage, u.source = s.source ∧ u.warehouse = s.warehouse ∧ outcome = value u) := by
  obtain ⟨failures', ⟨e, he, rfl, rfl⟩ | hact⟩ := attempt_faulty hs h
  · exact ⟨rfl, .inl ⟨e, he, rfl⟩⟩
  · obtain ⟨rfl, rfl⟩ := Prod.mk.inj hact
    exact ⟨rfl, .inr ⟨{ s with failures := failures', trace := s.trace ++ [event] }, rfl, rfl, rfl⟩⟩

theorem Faulty.change {failure : Error → Prop} {s t : Stage} {event : Event} {point table : String}
    {f : Warehouse → Warehouse} {outcome : Except Error Unit}
    {failures : List (Failure Breakdown)} (hs : ∀ f ∈ failures, failure f.pattern.error)
    (h : attempt { s with failures } event point table (Stage.change f) = (outcome, t)) :
    (t.warehouse = s.warehouse ∧ ∃ e : Error, failure e ∧ outcome = .error e) ∨
      t.warehouse = f s.warehouse ∧ outcome = .ok () := by
  obtain ⟨failures', ⟨e, he, rfl, rfl⟩ | hact⟩ := attempt_faulty hs h
  · exact .inl ⟨rfl, e, he, rfl⟩
  · obtain ⟨rfl, rfl⟩ := Prod.mk.inj hact
    exact .inr ⟨rfl, rfl⟩

theorem trace_of_attempt {α : Type} {s t : Stage} {event : Event} {point table : String}
    {act : Stage → Except Error α × Stage} {outcome : Except Error α}
    (hact : ∀ u, (act u).2.trace = u.trace)
    (h : s.attempt event point table act = (outcome, t)) : t.trace = s.trace ++ [event] := by
  obtain ⟨failures, ⟨e, he⟩ | hdone⟩ := s.attempt_cases event point table act
  · exact congrArg (·.2.trace) (h.symm.trans he)
  · exact (congrArg (·.2.trace) (h.symm.trans hdone)).trans (hact _)

/-- A call is written down as it is made, unless it is one that leaves nothing behind. -/
theorem written_of_handle {c : Call Cursor Loader} {s t : Stage} {answer : Answer c}
    (h : handle c s = (answer, t)) : ∃ new, t.trace = s.trace ++ new ∧
      ∀ table, finalizes table new = c.finalizes table := by
  -- A call is its own event, so the event asks for a key exactly if the call does.
  have hwritten : ∀ rows, t.trace = s.trace ++ [⟨c, rows⟩] → ∃ new, t.trace = s.trace ++ new ∧
      ∀ table, finalizes table new = c.finalizes table :=
    fun rows ht => ⟨_, ht, fun table => Bool.or_false _⟩
  cases c with
  | acquire connection =>
    simp only [handle] at h
    split at h
    · cases h
      exact ⟨[], (List.append_nil _).symm, fun _ => rfl⟩
    · cases h
      exact ⟨[], (List.append_nil _).symm, fun _ => rfl⟩
  | release guard =>
    cases h
    exact ⟨[], (List.append_nil _).symm, fun _ => rfl⟩
  | dropCursor cursor =>
    cases h
    exact ⟨[], (List.append_nil _).symm, fun _ => rfl⟩
  | nextChunk cursor =>
    simp only [handle] at h
    generalize hcall : attempt s _ _ _ _ = result at h
    cases h
    exact hwritten _ (trace_of_attempt (fun _ => rfl) hcall)
  | insertBatch loader rows =>
    simp only [handle] at h
    generalize hcall : attempt s _ _ _ _ = result at h
    obtain ⟨outcome, u⟩ := result
    have hu := trace_of_attempt (fun _ => rfl) hcall
    cases outcome with
    | error e =>
      cases h
      exact hwritten _ hu
    | ok n =>
      cases h
      exact hwritten _ hu
  | _ => exact hwritten _ (trace_of_attempt (fun _ => rfl) h)

end Stage
end Rehearsal

namespace Replica

open Program (Division)
open Rehearsal (Cursor Event finalizes Loader Stage StoredSource StoredTable Warehouse)

/-! ## Tables and the calls for their keys -/

/-- What a task has: its table, and whether it has asked for the key. -/
structure Holding where
  table : Option StoredTable
  finalized : Bool

/-- The warehouse divided by the names of its tables, with the calls made since `origin`. -/
def byHolding (step : (c : Call Cursor Loader) → Stage → Answer c → Stage → Prop)
    (origin : Stage) : Division (Call Cursor Loader) Answer Stage String Holding where
  step := step
  inv s := s.source = origin.source ∧ origin.trace <+: s.trace ∧
    (origin.warehouse.Ordered → s.warehouse.Ordered)
  view name s :=
    ⟨s.warehouse.table? name, finalizes name (s.trace.drop origin.trace.length)⟩

/-! ## Answers to the calls that copy a table -/

section

variable {failure : Error → Prop} {failures : List (Rehearsal.Failure Rehearsal.Breakdown)}
  {s t : Stage} {x : StoredSource}

theorem fares_of_attempt {α : Type} {event : Event} {point table : String}
    {value : Stage → Except Error α} {outcome : Except Error α} {result : α}
    (hs : ∀ f ∈ failures, failure f.pattern.error)
    (h : Stage.attempt { s with failures } event point table (Stage.answer value) = (outcome, t))
    (hvalue : ∀ u : Stage, u.source = s.source → u.warehouse = s.warehouse →
      value u = .ok result) :
    t.warehouse = s.warehouse ∧ Fares failure result outcome := by
  obtain ⟨hwarehouse, ⟨e, he, rfl⟩ | ⟨u, hu, hw, rfl⟩⟩ := Stage.Faulty.answer hs h
  · exact ⟨hwarehouse, .inr ⟨e, he, rfl⟩⟩
  · exact ⟨hwarehouse, .inl (hvalue u hu hw)⟩

theorem fares_describeSource (hplain : s.source.Plain) (hx : x ∈ s.source.tables)
    (hs : ∀ f ∈ failures, failure f.pattern.error) {answer : Except Error SourceTable}
    (h : Stage.handle (.describeSource x.name) { s with failures } = (answer, t)) :
    t.warehouse = s.warehouse ∧ Fares failure x.description answer :=
  fares_of_attempt hs h fun u hu _ => by rw [hu, hplain.describe hx]

theorem fares_openCursor (hplain : s.source.Plain) (hx : x ∈ s.source.tables)
    (hs : ∀ f ∈ failures, failure f.pattern.error) {columns : List Column} {chunk : Nat}
    {answer : Except Error Cursor}
    (h : Stage.handle (.openCursor x.name columns chunk) { s with failures } = (answer, t)) :
    t.warehouse = s.warehouse ∧ Fares failure ⟨x.name, chunk, x.rows⟩ answer :=
  fares_of_attempt hs h fun u hu _ => by
    rw [hu, hplain.rowsOf hx]
    rfl

theorem fares_nextChunk (hs : ∀ f ∈ failures, failure f.pattern.error) {cursor : Cursor}
    {answer : Cursor × Except Error (List Row)}
    (h : Stage.handle (.nextChunk cursor) { s with failures } = (answer, t)) :
    t.warehouse = s.warehouse ∧ answer.1 = { cursor with rows := cursor.rows.drop cursor.chunk } ∧
      Fares failure (cursor.rows.take cursor.chunk) answer.2 := by
  simp only [Stage.handle] at h
  generalize hcall : Stage.attempt _ _ _ _ _ = result at h
  cases h
  obtain ⟨hwarehouse, hfares⟩ := fares_of_attempt hs hcall fun _ _ _ => rfl
  exact ⟨hwarehouse, rfl, hfares⟩

theorem fares_insertBatch (hs : ∀ f ∈ failures, failure f.pattern.error) {loader : Loader}
    {rows : List Row} {answer : Loader × Except Error Nat}
    (h : Stage.handle (.insertBatch loader rows) { s with failures } = (answer, t)) :
    t.warehouse = s.warehouse ∧
      (answer = ({ loader with rows := loader.rows ++ rows }, .ok rows.length) ∨
        ∃ e, failure e ∧ answer = (loader, .error e)) := by
  simp only [Stage.handle] at h
  generalize hcall : Stage.attempt _ _ _ _ _ = result at h
  obtain ⟨outcome, u⟩ := result
  have hfares : u.warehouse = s.warehouse ∧ Fares failure rows.length outcome :=
    fares_of_attempt hs hcall fun _ _ _ => rfl
  obtain ⟨hwarehouse, rfl | ⟨e, he, rfl⟩⟩ := hfares
  · cases h
    exact ⟨hwarehouse, .inl rfl⟩
  · cases h
    exact ⟨hwarehouse, .inr ⟨e, he, rfl⟩⟩

end

/-! ## Calls for one table -/

/-- Calls that change no table but this one, and whose answers do not depend on any other. -/
def Call.Alone (name : String) : Call Cursor Loader → Prop
  | .acquire _ | .release _ | .listTables _ | .describeTable _ | .rowCount _ => False
  | .tableExists table => table = name
  | .dropTable table => table = name
  | .beginLoad table _ _ => table = name
  | .commit loader => loader.table = name
  | .finalize table _ _ => table = name
  | _ => True

theorem Call.Alone.change {c : Call Cursor Loader} {name : String} {w w' : Warehouse}
    (hc : c.Alone name) (h : Stage.Effect c w w') : Warehouse.Change name w w' := by
  cases c with
  | dropTable table =>
    obtain rfl : table = name := hc
    obtain rfl | rfl := (show w' = w ∨ w' = w.drop table from h)
    · exact .none
    · exact .drop
  | commit loader =>
    obtain rfl : loader.table = name := hc
    obtain rfl | rfl := (show w' = w ∨ w' = _ from h)
    · exact .none
    · exact Warehouse.change_commit ..
  | finalize table key columns =>
    obtain rfl : table = name := hc
    obtain rfl | rfl := (show w' = w ∨ w' = _ from h)
    · exact .none
    · exact Warehouse.change_setPrimaryKey ..
  | _ =>
    obtain rfl : w' = w := h
    exact .none

theorem Call.Alone.not_finalizes {c : Call Cursor Loader} {name other : String}
    (hc : c.Alone name) (hne : other ≠ name) : c.finalizes other = false := by
  cases c with
  | finalize table key columns =>
    obtain rfl : table = name := hc
    exact beq_eq_false_iff_ne.2 (Ne.symm hne)
  | _ => rfl

/-- Answers to the calls for one table, as databases give them that may fail. -/
structure Serving (failure : Error → Prop) (name : String)
    (step : (c : Call Cursor Loader) → Stage → Answer c → Stage → Prop) : Prop where
  answered : ∀ (c : Call Cursor Loader) (s : Stage), c.Alone name → ∃ answer t, step c s answer t
  failing : ∀ (c : Call Cursor Loader) (s : Stage) answer t, step c s answer t →
    Stage.Failing failure c s answer t

/-- Answers to all calls. -/
structure Answering (failure : Error → Prop)
    (step : (c : Call Cursor Loader) → Stage → Answer c → Stage → Prop) : Prop where
  answered : ∀ (c : Call Cursor Loader) (s : Stage), ∃ answer t, step c s answer t
  failing : ∀ (c : Call Cursor Loader) (s : Stage) answer t, step c s answer t →
    Stage.Failing failure c s answer t

theorem Answering.serving {failure : Error → Prop}
    {step : (c : Call Cursor Loader) → Stage → Answer c → Stage → Prop}
    (h : Answering failure step) (name : String) : Serving failure name step :=
  ⟨fun c s _ => h.answered c s, h.failing⟩

theorem answering_faulty : Answering Error.Operational Stage.Faulty :=
  ⟨fun _ _ => ⟨_, _, [], fun _ hf => absurd hf List.not_mem_nil, rfl⟩, fun _ _ _ _ h => h⟩

theorem answering_unreliable : Answering (fun _ => True) Stage.Unreliable :=
  ⟨fun _ _ => ⟨_, _, [], rfl⟩, fun _ _ _ _ ⟨failures, h⟩ => ⟨failures, fun _ _ => trivial, h⟩⟩

section

variable {step : (c : Call Cursor Loader) → Stage → Answer c → Stage → Prop} {origin : Stage}
  {name : String} {v : Holding} {failure : Error → Prop}

theorem finalizes_drop {s t : Stage} {new : List Event} (hs : origin.trace <+: s.trace)
    (ht : t.trace = s.trace ++ new) (table : String) :
    finalizes table (t.trace.drop origin.trace.length) =
      (finalizes table (s.trace.drop origin.trace.length) || finalizes table new) := by
  rw [ht, List.drop_append_of_le_length hs.length_le, finalizes, List.any_append, finalizes,
    finalizes]

/-- A call for one table, by what it is answered and what becomes of that table. -/
theorem calls_of_faulty (hstep : Serving failure name step) {c : Call Cursor Loader}
    {next : Answer c → Holding → Prop} (hc : c.Alone name)
    (hnext : ∀ s answer t, s.source = origin.source → s.warehouse.table? name = v.table →
      step c s answer t →
      next answer ⟨t.warehouse.table? name, v.finalized || c.finalizes name⟩) :
    (byHolding step origin).Calls name c v next := by
  refine ⟨fun s _ _ => hstep.answered c s hc, fun s answer t hs hv ht => ?_⟩
  obtain ⟨hsource, hprefix, hordered⟩ := hs
  obtain rfl : (byHolding step origin).view name s = v := hv
  have hcall := hstep.failing c s answer t ht
  obtain ⟨failures, _, hhandle⟩ := hcall
  obtain ⟨htsource, heffect, _⟩ := Stage.effect_of_handle hhandle
  obtain ⟨new, htrace, hnew⟩ := Stage.written_of_handle hhandle
  have hchange : Warehouse.Change name s.warehouse t.warehouse := hc.change heffect
  have hflag : ∀ table, finalizes table (t.trace.drop origin.trace.length) =
      (finalizes table (s.trace.drop origin.trace.length) || c.finalizes table) := fun table => by
    rw [finalizes_drop hprefix htrace, hnew]
  refine ⟨⟨htsource.trans hsource, ?_, fun ho => hchange.ordered (hordered ho)⟩, fun j hj => ?_, ?_⟩
  · rw [htrace]
    exact hprefix.trans (List.prefix_append _ _)
  · simp only [byHolding, hflag, hc.not_finalizes hj, Bool.or_false, hchange.table? hj]
  · have hanswer := hnext s answer t hsource rfl ht
    simp only [byHolding, hflag]
    exact hanswer

/-- A call that neither changes the table nor asks for its key. -/
theorem calls_of_quiet (hstep : Serving failure name step) {c : Call Cursor Loader}
    {post : Answer c → Prop} (hc : c.Alone name) (hquiet : c.finalizes name = false)
    (hpost : ∀ s answer t, s.source = origin.source → s.warehouse.table? name = v.table →
      step c s answer t → t.warehouse = s.warehouse ∧ post answer) :
    (byHolding step origin).Calls name c v fun answer w => w = v ∧ post answer := by
  refine calls_of_faulty hstep hc fun s answer t hsource hv ht => ?_
  obtain ⟨hwarehouse, hanswer⟩ := hpost s answer t hsource hv ht
  rw [hwarehouse, hv, hquiet, Bool.or_false]
  exact ⟨rfl, hanswer⟩

theorem calls_of_unanswered (hstep : Serving failure name step) {c : Call Cursor Loader}
    (hc : c.Alone name) (hquiet : c.finalizes name = false)
    (hsame : ∀ s answer t, step c s answer t → t.warehouse = s.warehouse) :
    (byHolding step origin).Calls name c v fun _ w => w = v := by
  have hcalls : (byHolding step origin).Calls name c v fun answer w => w = v ∧ True :=
    calls_of_quiet hstep hc hquiet fun s answer t _ _ ht => ⟨hsame s answer t ht, trivial⟩
  exact hcalls.mono fun _ _ h => h.1

/-! ## What a task finds -/

/-- The databases serve the task of each table of a plain source. -/
theorem Serving.serves (hplain : origin.source.Plain) {connection : String}
    {x : StoredSource} (hx : x ∈ origin.source.tables)
    (hstep : Serving failure (tableName connection x.name) step)
    {told : Except Error SourceTable → Prop}
    (htold : ∀ s answer t, s.source = origin.source →
      s.warehouse.table? (tableName connection x.name) = none →
        step (.describeSource x.name) s answer t → told answer) :
    Serves (byHolding step origin) connection x
      (fun answer => told answer ∧ Fares failure x.description answer)
      failure ⟨none, false⟩ ⟨some (copyOf connection x), false⟩
      ⟨some { copyOf connection x with primaryKey := x.primaryKey }, true⟩
      ⟨some (copyOf connection x), true⟩ where
  describe := calls_of_quiet hstep trivial rfl fun s answer t hsource hv ht => by
    obtain ⟨failures, hs, h⟩ := hstep.failing _ _ _ _ ht
    obtain ⟨hwarehouse, hfares⟩ := fares_describeSource (hsource ▸ hplain) (hsource ▸ hx) hs h
    exact ⟨hwarehouse, htold s answer t hsource hv ht, hfares⟩
  told d hd := by
    obtain ⟨_, hok | ⟨e, _, he⟩⟩ := hd
    · exact Except.ok.inj hok
    · cases he
  openCursor columns chunk := calls_of_quiet hstep trivial rfl fun s answer t hsource _ ht => by
    obtain ⟨failures, hs, h⟩ := hstep.failing _ _ _ _ ht
    exact fares_openCursor (hsource ▸ hplain) (hsource ▸ hx) hs h
  nextChunk cursor _ := calls_of_quiet hstep trivial rfl fun s answer t _ _ ht => by
    obtain ⟨failures, hs, h⟩ := hstep.failing _ _ _ _ ht
    exact fares_nextChunk hs h
  closeCursor cursor _ := calls_of_quiet hstep trivial rfl fun s answer t _ _ ht => by
    obtain ⟨failures, hs, h⟩ := hstep.failing _ _ _ _ ht
    exact fares_of_attempt hs h fun _ _ _ => rfl
  dropCursor cursor _ := calls_of_unanswered hstep trivial rfl fun s answer t ht => by
    obtain ⟨failures, hs, h⟩ := hstep.failing _ _ _ _ ht
    cases h
    rfl
  beginLoad columns := calls_of_quiet hstep rfl rfl fun s answer t _ hv ht => by
    obtain ⟨failures, hs, h⟩ := hstep.failing _ _ _ _ ht
    refine fares_of_attempt hs h fun u _ hw => if_neg ?_
    rw [Warehouse.has, hw, hv]
    simp
  insertBatch loader rows _ := calls_of_quiet hstep trivial rfl fun s answer t _ _ ht => by
    obtain ⟨failures, hs, h⟩ := hstep.failing _ _ _ _ ht
    exact fares_insertBatch hs h
  commit := calls_of_faulty hstep rfl fun s answer t _ hv ht => by
    obtain ⟨failures, hs, h⟩ := hstep.failing _ _ _ _ ht
    obtain ⟨hw, e, he, rfl⟩ | ⟨hw, rfl⟩ := Stage.Faulty.change hs h
    · exact .inr ⟨e, he, rfl, by rw [hw, hv]; rfl⟩
    · refine .inl ⟨rfl, ?_⟩
      rw [hw, Warehouse.commit, Warehouse.table?_put, if_pos rfl]
      rfl
  rollback loader _ := calls_of_unanswered hstep trivial rfl fun s answer t ht => by
    obtain ⟨failures, hs, h⟩ := hstep.failing _ _ _ _ ht
    exact (fares_of_attempt hs h fun _ _ _ => rfl).1
  finalize := calls_of_faulty hstep rfl fun s answer t _ hv ht => by
    obtain ⟨failures, hs, h⟩ := hstep.failing _ _ _ _ ht
    have hasked : (Call.finalize (tableName connection x.name) x.primaryKey (columnsOf x) :
        Call Cursor Loader).finalizes (tableName connection x.name) = true := beq_self_eq_true _
    obtain ⟨hw, e, he, rfl⟩ | ⟨hw, rfl⟩ := Stage.Faulty.change hs h
    · exact .inr ⟨e, he, rfl, by rw [hw, hv, hasked]; rfl⟩
    · refine .inl ⟨rfl, ?_⟩
      rw [hw, Warehouse.table?_setPrimaryKey, if_pos rfl, hv, hasked]
      rfl

end

end Replica
end Granary
