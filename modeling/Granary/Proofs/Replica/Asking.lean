import Granary.Proofs.Replica.Machine
import Granary.Proofs.Replica.Naming

/-!
# What lifecycles ask for

Between taking its lease and giving it back a lifecycle makes no call for a lease, and it looks only
for warehouse tables under the name of its connection (`Call.Inner`).  It reads a cursor until there
is an empty chunk; where every other chunk takes rows from the cursor (`Exhausts`), its allowance of
fetches lasts.
-/

namespace Granary.Replica

variable {κ ω α β : Type}

/-- What may be asked between taking the lease of a connection and giving it back. -/
def Call.Inner (connection : String) : Call κ ω → Prop
  | .acquire _ | .release _ | .describeTable _ | .rowCount _ => False
  | .listTables stem => stem = Replica.stem connection
  | .tableExists table => Under connection table
  | _ => True

/-- What may be asked by a lifecycle of a connection. -/
def Call.Concerns (connection : String) : Call κ ω → Prop
  | .acquire name => name = connection
  | .release guard => guard.connection = connection
  | c => c.Inner connection

theorem Call.Inner.concerns {connection : String} {c : Call κ ω} (h : c.Inner connection) :
    c.Concerns connection := by
  cases c with
  | acquire name => cases h
  | release guard => cases h
  | _ => exact h

theorem Call.Concerns.cases {connection : String} {c : Call κ ω} (h : c.Concerns connection) :
    c = .acquire connection ∨ (∃ guard : Guard, c = .release guard ∧
      guard.connection = connection) ∨ c.Inner connection := by
  cases c with
  | acquire name =>
    obtain rfl : name = connection := h
    exact .inl rfl
  | release guard => exact .inr (.inl ⟨guard, rfl, h⟩)
  | _ => exact .inr (.inr h)

/-- A cursor has so much left when it is opened, and less after each chunk that is not empty. -/
structure Exhausts (answers : (c : Call κ ω) → Answer c → Prop) (left : κ → Nat) (fetches : Nat) :
    Prop where
  opened : ∀ table columns chunk cursor,
    answers (.openCursor table columns chunk) (.ok cursor) → left cursor < fetches
  next : ∀ cursor after row rows,
    answers (.nextChunk cursor) (after, .ok (row :: rows)) → left after < left cursor

variable {spent : Prop} {answers : (c : Call κ ω) → Answer c → Prop} {left : κ → Nat}
  {pace : Pace} {connection : String}

namespace Attempt

/-- An attempt that makes allowed calls only, and succeeds with what is wanted if it succeeds. -/
def Heeds (spent : Prop) (allowed : Call κ ω → Prop) (answers : (c : Call κ ω) → Answer c → Prop)
    (wanted : α → Prop) (x : Attempt κ ω α) : Prop :=
  x.run.Heeds spent allowed answers fun outcome => ∀ a, outcome = .ok a → wanted a

variable {allowed : Call κ ω → Prop} {wanted : α → Prop}

theorem Heeds.bind {wanted' : β → Prop} {x : Attempt κ ω α} {f : α → Attempt κ ω β}
    (hx : x.Heeds spent allowed answers wanted)
    (hf : ∀ a, wanted a → (f a).Heeds spent allowed answers wanted') :
    Attempt.Heeds spent allowed answers wanted' (x >>= f) := by
  refine Program.Heeds.bind hx fun outcome ha => ?_
  cases outcome with
  | error e => exact fun _ h => nomatch h
  | ok a => exact hf a (ha a rfl)

theorem heeds_pure {a : α} (h : wanted a) :
    Attempt.Heeds spent allowed answers wanted (pure a) := by
  intro b hb
  cases hb
  exact h

theorem heeds_throw (e : Error) :
    Attempt.Heeds spent allowed answers wanted (throw e) :=
  fun _ hb => nomatch hb

theorem heeds_failingAs {x : Attempt κ ω α} {f : Error → Error}
    (hx : x.Heeds spent allowed answers wanted) :
    (failingAs f x).Heeds spent allowed answers wanted := by
  refine Program.Heeds.bind hx fun outcome ha => ?_
  cases outcome with
  | error e => exact fun _ h => nomatch h
  | ok a => exact ha

end Attempt

/-! ## Moving rows -/

/-- The calls by which rows are moved. -/
def Call.Moves : Call κ ω → Prop
  | .openCursor .. | .nextChunk _ | .closeCursor _ | .dropCursor _ | .insertBatch .. => True
  | _ => False

/-- A loader is kept as it is by the insertions that are made with it. -/
def Lasting (answers : (c : Call κ ω) → Answer c → Prop) (kept : ω → Prop) : Prop :=
  ∀ loader rows answer, kept loader → answers (.insertBatch loader rows) answer → kept answer.1

/-- Work that moves rows and does nothing else, and ends with a loader that is kept. -/
def Work.Moves (spent : Prop) (answers : (c : Call κ ω) → Answer c → Prop) (kept : ω → Prop)
    (p : Work κ ω (ω × α)) : Prop :=
  p.Heeds spent Call.Moves answers fun result => kept result.1

section

variable {kept : ω → Prop} {loader : ω}

theorem lasting_true : Lasting answers fun _ => True := fun _ _ _ _ _ => trivial

theorem moves_giveUp (hloader : kept loader) (cursor : κ) (e : Error) :
    Work.Moves spent answers kept (giveUp cursor loader e) :=
  ⟨trivial, fun _ _ => hloader⟩

variable (hkept : Lasting answers kept)

include hkept

theorem moves_writeBatches (hloader : kept loader) (written : Nat) (batches : List (List Row)) :
    Work.Moves spent answers kept (writeBatches loader written batches : Work κ ω _) := by
  induction batches generalizing loader written with
  | nil => exact hloader
  | cons batch rest ih =>
    refine ⟨trivial, fun answer hanswer => ?_⟩
    have hnext : kept answer.1 := hkept loader batch answer hloader hanswer
    obtain ⟨next, count⟩ := answer
    cases count with
    | error e => exact hnext
    | ok n => exact ih hnext _

theorem moves_finish (hloader : kept loader) (cursor : κ) (written : Nat) (pending : List Row) :
    Work.Moves spent answers kept (finish cursor loader written pending) := by
  refine Program.Heeds.bind (moves_writeBatches hkept hloader written _) fun result hresult => ?_
  obtain ⟨next, outcome⟩ := result
  cases outcome with
  | error e => exact moves_giveUp hresult cursor e
  | ok n => exact ⟨trivial, fun _ _ => hresult⟩

/-- The allowance lasts while it is above what the cursor has left. -/
theorem moves_pumpFrom {fetches most : Nat} (h : spent ∨ Exhausts answers left most) (size : Nat)
    {cursor : κ} (hleft : spent ∨ left cursor < fetches) (hloader : kept loader) (written : Nat)
    (pending : List Row) :
    Work.Moves spent answers kept (pumpFrom size fetches cursor loader written pending) := by
  induction fetches generalizing cursor loader written pending with
  | zero => exact hleft.resolve_right (Nat.not_lt_zero _)
  | succ fetches ih =>
    refine ⟨trivial, fun answer hanswer => ?_⟩
    obtain ⟨after, chunk⟩ := answer
    cases chunk with
    | error e => exact moves_giveUp hloader after e
    | ok rows =>
      cases rows with
      | nil => exact moves_finish hkept hloader after written pending
      | cons row rows =>
        have hafter : spent ∨ left after < fetches := by
          obtain hspent | hexhausts := h
          · exact .inl hspent
          · have hless := hexhausts.next cursor after row rows hanswer
            exact hleft.imp_right fun hcursor => by omega
        refine Program.Heeds.bind (moves_writeBatches hkept hloader written _)
          fun result hresult => ?_
        obtain ⟨next, outcome⟩ := result
        cases outcome with
        | error e => exact moves_giveUp hresult after e
        | ok n => exact ih hafter hresult n _

theorem moves_pump (h : spent ∨ Exhausts answers left pace.fetches) (hloader : kept loader)
    (name : String) (columns : List Column) :
    Work.Moves spent answers kept (pump pace name columns loader : Work κ ω _) := by
  refine ⟨trivial, fun answer hanswer => ?_⟩
  cases answer with
  | error e => exact hloader
  | ok cursor =>
    have hleft := h.imp_right fun hexhausts => hexhausts.opened name columns _ cursor hanswer
    exact moves_pumpFrom hkept h _ hleft hloader 0 []

/-- Where the allowance may be spent, nothing is asked of the cursors. -/
theorem moves_pump_spending (hloader : kept loader) (pace : Pace) (name : String)
    (columns : List Column) :
    Work.Moves True answers kept (pump pace name columns loader : Work κ ω _) := by
  have hspent : True ∨ Exhausts answers (fun _ => 0) pace.fetches := .inl trivial
  exact moves_pump hkept hspent hloader name columns

end

/-! ## Copying a table -/

/-- Work between taking the lease of a connection and giving it back. -/
def Work.Inner (spent : Prop) (connection : String) (answers : (c : Call κ ω) → Answer c → Prop)
    (p : Work κ ω α) : Prop :=
  p.Heeds spent (Call.Inner connection) answers fun _ => True

def Attempt.Inner (spent : Prop) (connection : String)
    (answers : (c : Call κ ω) → Answer c → Prop) (x : Attempt κ ω α) : Prop :=
  x.Heeds spent (Call.Inner connection) answers fun _ => True

theorem Call.Moves.inner {c : Call κ ω} (h : c.Moves) : c.Inner connection := by
  cases c with
  | openCursor | nextChunk | closeCursor | dropCursor | insertBatch => trivial
  | _ => exact h.elim

section

variable (h : spent ∨ Exhausts answers left pace.fetches)

include h

theorem inner_pump (name : String) (columns : List Column) (loader : ω) :
    Work.Inner spent connection answers (pump pace name columns loader : Work κ ω _) :=
  (moves_pump lasting_true h trivial name columns).mono (fun _ => Call.Moves.inner)
    fun _ _ => trivial

theorem inner_copyTable (name table : String) (columns : List Column) (mode : LoadMode) :
    Attempt.Inner spent connection answers
      (copyTable pace name table columns mode : Attempt κ ω Nat) := by
  refine ⟨trivial, fun answer _ => ?_⟩
  cases answer with
  | error e => exact fun _ _ => trivial
  | ok loader =>
    refine Program.Heeds.bind (inner_pump h name columns loader) fun result _ => ?_
    obtain ⟨next, outcome⟩ := result
    cases outcome with
    | error e => exact ⟨trivial, fun _ _ _ _ => trivial⟩
    | ok n => exact ⟨trivial, fun _ _ _ _ => trivial⟩

end

/-! ## The tasks of a lifecycle -/

theorem inner_describe (name : String) :
    Attempt.Inner spent connection answers (describe name : Attempt κ ω SourceTable) :=
  Attempt.heeds_failingAs ⟨trivial, fun _ _ _ _ => trivial⟩

theorem inner_sourceTables :
    Attempt.Inner spent connection answers (sourceTables : Attempt κ ω (List String)) :=
  Attempt.heeds_failingAs ⟨trivial, fun _ _ _ _ => trivial⟩

theorem inner_listTables :
    Attempt.Inner spent connection answers
      (Attempt.listTables (stem connection) : Attempt κ ω (List String)) :=
  ⟨rfl, fun _ _ _ _ => trivial⟩

theorem inner_dropAll (tables : List String) :
    Attempt.Inner spent connection answers (dropAll tables : Attempt κ ω Unit) := by
  induction tables with
  | nil => exact Attempt.heeds_pure trivial
  | cons table rest ih =>
    have hdrop : Attempt.Inner spent connection answers
        (Attempt.dropTable table : Attempt κ ω Unit) := ⟨trivial, fun _ _ _ _ => trivial⟩
    exact hdrop.bind fun _ _ => ih

section

variable (h : spent ∨ Exhausts answers left pace.fetches)

include h

theorem inner_loadTask (name : String) :
    Attempt.Inner spent connection answers
      (loadTask pace connection name : Attempt κ ω (Option TableReport)) := by
  refine Attempt.Heeds.bind (inner_describe name) fun d _ => ?_
  by_cases hempty : d.columns.isEmpty = true
  · rw [if_pos hempty]
    exact Attempt.heeds_pure trivial
  · rw [if_neg hempty]
    refine Attempt.Heeds.bind (inner_copyTable h _ _ _ _) fun rows _ => ?_
    have hfinalize : Attempt.Inner spent connection answers
        (Attempt.finalize (tableName connection d.name) d.primaryKey
          (d.columns.map Column.ofSource) : Attempt κ ω Unit) :=
      ⟨trivial, fun _ _ _ _ => trivial⟩
    exact (Attempt.heeds_failingAs hfinalize).bind fun _ _ => Attempt.heeds_pure trivial

theorem inner_replaceRows (name : String) :
    Attempt.Inner spent connection answers
      (replaceRows pace connection name : Attempt κ ω (Option TableReport)) := by
  have hexists : Attempt.Inner spent connection answers
      (Attempt.tableExists (tableName connection name) : Attempt κ ω Bool) :=
    ⟨under_tableName connection name, fun _ _ _ _ => trivial⟩
  refine hexists.bind fun found _ => ?_
  cases found with
  | false => exact Attempt.heeds_pure trivial
  | true =>
    refine Attempt.Heeds.bind (inner_describe name) fun d _ => ?_
    by_cases hempty : d.columns.isEmpty = true
    · rw [if_pos hempty]
      exact Attempt.heeds_pure trivial
    · rw [if_neg hempty]
      exact Attempt.Heeds.bind (inner_copyTable h _ _ _ _) fun _ _ => Attempt.heeds_pure trivial

theorem inner_refreshTask (name : String) :
    Work.Inner spent connection answers
      (refreshTask pace connection name : Work κ ω (Option TableReport)) := by
  refine Program.Heeds.bind (inner_replaceRows h name) fun outcome _ => ?_
  cases outcome with
  | error e => trivial
  | ok report => trivial

/-- Everything that is asked for with the lease in hand. -/
theorem inner_tasks (mode : Mode) :
    (tasks mode pace connection : Attempt κ ω (List (Task κ ω))).Heeds spent
      (Call.Inner connection) answers fun ts => ∀ task ∈ ts,
        Work.Inner spent connection answers task := by
  have hload : ∀ names : List String, ∀ task ∈ names.map fun name =>
      (loadTask pace connection name : Attempt κ ω (Option TableReport)).run,
      Work.Inner spent connection answers task := fun names =>
    List.forall_mem_map.2 fun name _ =>
      (inner_loadTask h name).mono (fun _ hc => hc) fun _ _ => trivial
  cases mode with
  | run =>
    refine Attempt.Heeds.bind inner_listTables fun existing _ => ?_
    by_cases hempty : existing.isEmpty = true
    · simp only [hempty]
      exact Attempt.Heeds.bind inner_sourceTables fun names _ => Attempt.heeds_pure (hload names)
    · simp only [hempty]
      have hthrow : Attempt.Heeds spent (Call.Inner connection) answers (fun _ => False)
          (throw (.connectionNameConflict connection) : Attempt κ ω PUnit) :=
        Attempt.heeds_throw _
      exact hthrow.bind fun _ h => h.elim
  | refresh =>
    refine Attempt.Heeds.bind inner_sourceTables fun names _ => Attempt.heeds_pure ?_
    refine List.forall_mem_map.2 fun name _ => ?_
    exact Program.Heeds.bind (inner_refreshTask h name) fun _ _ => trivial
  | fullRefresh =>
    refine Attempt.Heeds.bind inner_listTables fun existing _ => ?_
    refine Attempt.Heeds.bind (inner_dropAll existing) fun _ _ => ?_
    exact Attempt.Heeds.bind inner_sourceTables fun names _ => Attempt.heeds_pure (hload names)

end

theorem inner_inOrder {ts : List (Task κ ω)}
    (h : ∀ task ∈ ts, Work.Inner spent connection answers task) :
    Attempt.Inner spent connection answers
      (inOrder (ts.map .mk) : Attempt κ ω (List TableReport)) := by
  induction ts with
  | nil => exact Attempt.heeds_pure trivial
  | cons task rest ih =>
    rw [List.forall_mem_cons] at h
    have htask : Attempt.Inner spent connection answers (.mk task) :=
      h.1.mono (fun _ hc => hc) fun _ _ _ _ => trivial
    refine htask.bind fun first _ => ?_
    exact Attempt.Heeds.bind (ih h.2) fun _ _ => Attempt.heeds_pure trivial

/-- A lifecycle takes and gives back the lease of its own connection, if that is the one it gets. -/
theorem concerns_lifecycle (h : spent ∨ Exhausts answers left pace.fetches)
    (hacquire : ∀ guard : Guard, answers (.acquire connection) (.ok guard) →
      guard.connection = connection) (mode : Mode) :
    (lifecycle mode pace connection : Attempt κ ω Report).Heeds spent (Call.Concerns connection)
      answers fun _ => True := by
  have htables : Attempt.Inner spent connection answers
      (tables mode pace connection : Attempt κ ω (List TableReport)) := by
    rw [tables_eq]
    exact Attempt.Heeds.bind (inner_tasks h mode) fun ts hts => inner_inOrder hts
  have hholding : Attempt.Heeds spent (Call.Concerns connection) answers (fun _ => True)
      (Attempt.holding connection (tables mode pace connection) :
        Attempt κ ω (List TableReport)) := by
    refine ⟨rfl, fun answer hanswer => ?_⟩
    cases answer with
    | error e => exact fun _ _ => trivial
    | ok guard =>
      have hconcerns := htables.mono (fun _ hc => Call.Inner.concerns hc) fun _ ha => ha
      exact Program.Heeds.bind hconcerns fun outcome _ =>
        ⟨hacquire guard hanswer, fun _ _ _ _ => trivial⟩
  have hname : Attempt.Heeds spent (Call.Concerns connection) answers (fun _ => True)
      (liftM (checkName connection) : Attempt κ ω Unit) := fun _ _ => trivial
  refine hname.bind fun _ _ => ?_
  exact hholding.bind fun _ _ => Attempt.heeds_pure trivial

end Granary.Replica
