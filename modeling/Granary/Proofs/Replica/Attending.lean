import Granary.Proofs.Custody
import Granary.Proofs.Replica.Copying

/-!
# Loading a table when calls may fail

The work on one table, whatever its calls are answered.  `Loads` says what databases make of each
call that describes a source table and copies its rows: the warehouse table is `blank` until the
load is committed, and it is then `copied`.  `Serves` is that of a table that is created: once its
key has been asked for it is `keyed` or, where that failed, `tried`.  What these are is up to the
databases, so one walk along the program (`tends_loadTask`) does for all of them, whether calls fail
there or not and whatever else belongs to a table.

As in `performs_pumpFrom` the rows written, pending and still to be read remain one list, but any
call may now break it off.
-/

namespace Granary.Replica

open Program (Division)
open Rehearsal (Cursor Loader recordsOf StoredSource StoredTable)

/-- An answer is the value it should be, or one of the failures there may be. -/
def Fares {α : Type} (failure : Error → Prop) (value : α) (answer : Except Error α) : Prop :=
  answer = .ok value ∨ ∃ e, failure e ∧ answer = .error e

variable {σ ν α β : Type} {D : Division (Call Cursor Loader) Answer σ String ν}
  {connection : String} {x : StoredSource} {described : Except Error SourceTable → Prop}
  {failure : Error → Prop} {blank copied keyed tried : ν} {pace : Pace}

/-- The columns of a source table as the warehouse has them. -/
def columnsOf (x : StoredSource) : List Column := x.columns.map Column.ofSource

/-- The table of a source table once its load is committed, without its key. -/
def copyOf (connection : String) (x : StoredSource) : StoredTable where
  name := tableName connection x.name
  columns := recordsOf (tableName connection x.name) (columnsOf x)
  rows := x.rows

theorem replica?_of_columns {connection : String} {x : StoredSource}
    (h : x.columns.isEmpty = false) :
    replica? connection x = some { copyOf connection x with primaryKey := x.primaryKey } := by
  rw [replica?, if_neg (Bool.eq_false_iff.1 h)]
  rfl

/-- What the databases make of the calls that copy a source table into a warehouse table. -/
structure Loads (D : Division (Call Cursor Loader) Answer σ String ν) (target : String)
    (x : StoredSource) (mode : LoadMode) (described : Except Error SourceTable → Prop)
    (failure : Error → Prop) (blank copied : ν) : Prop where
  describe : D.Calls target (.describeSource x.name) blank
    fun answer v => v = blank ∧ described answer
  told : ∀ d, described (.ok d) → d = x.description
  openCursor : ∀ columns chunk, D.Calls target (.openCursor x.name columns chunk) blank
    fun answer v => v = blank ∧ Fares failure ⟨x.name, chunk, x.rows⟩ answer
  nextChunk : ∀ cursor : Cursor, cursor.table = x.name → D.Calls target (.nextChunk cursor) blank
    fun answer v => v = blank ∧ answer.1 = { cursor with rows := cursor.rows.drop cursor.chunk } ∧
      Fares failure (cursor.rows.take cursor.chunk) answer.2
  closeCursor : ∀ cursor : Cursor, cursor.table = x.name →
    D.Calls target (.closeCursor cursor) blank fun answer v => v = blank ∧ Fares failure () answer
  dropCursor : ∀ cursor : Cursor, cursor.table = x.name →
    D.Calls target (.dropCursor cursor) blank fun _ v => v = blank
  beginLoad : ∀ columns, D.Calls target (.beginLoad target columns mode) blank
    fun answer v => v = blank ∧ Fares failure ⟨target, columns, mode, []⟩ answer
  insertBatch : ∀ (loader : Loader) rows, loader.table = target →
    D.Calls target (.insertBatch loader rows) blank fun answer v => v = blank ∧
      (answer = ({ loader with rows := loader.rows ++ rows }, .ok rows.length) ∨
        ∃ e, failure e ∧ answer = (loader, .error e))
  commit : D.Calls target (.commit ⟨target, columnsOf x, mode, x.rows⟩) blank
    fun answer v => (answer = .ok () ∧ v = copied) ∨
      ∃ e, failure e ∧ answer = .error e ∧ v = blank
  rollback : ∀ loader : Loader, loader.table = target →
    D.Calls target (.rollback loader) blank fun _ v => v = blank

/-- What the databases make of the calls that create a table. -/
structure Serves (D : Division (Call Cursor Loader) Answer σ String ν) (connection : String)
    (x : StoredSource) (described : Except Error SourceTable → Prop) (failure : Error → Prop)
    (blank copied keyed tried : ν) : Prop extends
    Loads D (tableName connection x.name) x .create described failure blank copied where
  finalize : D.Calls (tableName connection x.name)
    (.finalize (tableName connection x.name) x.primaryKey (columnsOf x)) copied
      fun answer v => (answer = .ok () ∧ v = keyed) ∨
        ∃ e, failure e ∧ answer = .error e ∧ v = tried

/-! ## Rows -/

/-- Some rows have been written by a loader, and counted, or a call has failed. -/
def Wrote (failure : Error → Prop) (loader : Loader) (written : Nat) (rows : List Row)
    (outcome : Loader × Except Error Nat) : Prop :=
  outcome = ({ loader with rows := loader.rows ++ rows }, .ok (written + rows.length)) ∨
    ∃ e, failure e ∧ outcome.1.table = loader.table ∧ outcome.2 = .error e

theorem Wrote.append {loader : Loader} {written : Nat} {rows rest : List Row}
    {outcome : Loader × Except Error Nat}
    (h : Wrote failure { loader with rows := loader.rows ++ rows } (written + rows.length) rest
      outcome) : Wrote failure loader written (rows ++ rest) outcome := by
  obtain rfl | hfailed := h
  · left
    rw [List.append_assoc, Nat.add_assoc, ← List.length_append]
  · exact .inr hfailed

/-- Work in which the table stays blank. -/
def Work.Waits {α : Type} (D : Division (Call Cursor Loader) Answer σ String ν) (target : String)
    (blank : ν) (post : α → Prop) (p : Work Cursor Loader α) : Prop :=
  D.Tends target (· = blank) (fun a v => v = blank ∧ post a) p blank

theorem Work.Waits.bind {target : String} {mid : α → Prop} {post : β → Prop}
    {p : Work Cursor Loader α} {f : α → Work Cursor Loader β} (hp : Work.Waits D target blank mid p)
    (hf : ∀ a, mid a → Work.Waits D target blank post (f a)) :
    Work.Waits D target blank post (p.bind f) := by
  refine Division.Tends.bind hp fun a v _ h => ?_
  obtain ⟨rfl, ha⟩ := h
  exact hf a ha

theorem Work.Waits.mono {target : String} {post post' : α → Prop} {p : Work Cursor Loader α}
    (hpost : ∀ a, post a → post' a) (hp : Work.Waits D target blank post p) :
    Work.Waits D target blank post' p :=
  Division.Tends.mono (fun _ hv => hv) (fun a _ ha => ⟨ha.1, hpost a ha.2⟩) hp

theorem waits_ask {target : String} {post : β → Prop} {c : Call Cursor Loader}
    {next : Answer c → Work Cursor Loader β} {answers : Answer c → Prop}
    (hc : D.Calls target c blank fun answer v => v = blank ∧ answers answer)
    (hnext : ∀ answer, answers answer → Work.Waits D target blank post (next answer)) :
    Work.Waits D target blank post (.ask c next) := by
  refine ⟨rfl, hc.mono fun answer v h => ?_⟩
  obtain ⟨rfl, ha⟩ := h
  exact hnext answer ha

theorem waits_done {target : String} {post : α → Prop} {a : α} (h : post a) :
    Work.Waits D target blank post (.done a) :=
  ⟨rfl, rfl, h⟩

section

variable {target : String} {mode : LoadMode}
  (h : Loads D target x mode described failure blank copied)
include h

theorem waits_writeBatches (loader : Loader) (hloader : loader.table = target) (written : Nat)
    (batches : List (List Row)) :
    Work.Waits D target blank (Wrote failure loader written batches.flatten)
      (writeBatches loader written batches) := by
  induction batches generalizing loader written with
  | nil =>
    refine waits_done (.inl ?_)
    simp
  | cons batch rest ih =>
    refine waits_ask (h.insertBatch loader batch hloader) fun answer ha => ?_
    obtain rfl | ⟨e, he, rfl⟩ := ha
    · exact (ih { loader with rows := loader.rows ++ batch } hloader
        (written + batch.length)).mono fun _ => Wrote.append
    · exact waits_done (.inr ⟨e, he, rfl, rfl⟩)

theorem waits_giveUp (cursor : Cursor) (hcursor : cursor.table = x.name) {loader after : Loader}
    (hafter : after.table = loader.table) (written : Nat) (rows : List Row) {e : Error}
    (he : failure e) :
    Work.Waits D target blank (Wrote failure loader written rows) (giveUp cursor after e) := by
  have hdrop : D.Calls target (.dropCursor cursor) blank fun _ v => v = blank ∧ True :=
    (h.dropCursor cursor hcursor).mono fun _ _ hv => ⟨hv, trivial⟩
  exact waits_ask hdrop fun _ _ => waits_done (.inr ⟨e, he, hafter, rfl⟩)

theorem waits_finish (cursor : Cursor) (hcursor : cursor.table = x.name) (loader : Loader)
    (hloader : loader.table = target) (written : Nat) (pending : List Row) :
    Work.Waits D target blank (Wrote failure loader written pending)
      (finish cursor loader written pending) := by
  have hwrite := waits_writeBatches h loader hloader written
    (if pending.isEmpty then [] else [pending])
  have hflatten : (if pending.isEmpty then [] else [pending]).flatten = pending := by
    cases pending with
    | nil => rfl
    | cons row rows => simp
  rw [hflatten] at hwrite
  refine hwrite.bind fun outcome ho => ?_
  obtain rfl | ⟨e, he, hafter, hfailed⟩ := ho
  · refine waits_ask (h.closeCursor cursor hcursor) fun answer ha => ?_
    obtain rfl | ⟨e, he, rfl⟩ := ha
    · exact waits_done (.inl rfl)
    · exact waits_done (.inr ⟨e, he, rfl, rfl⟩)
  · obtain ⟨after, result⟩ := outcome
    obtain rfl : result = .error e := hfailed
    exact waits_giveUp h cursor hcursor hafter written pending he

/-- Pumping moves the rows pending and all rows of the cursor to the loader, in order, or fails. -/
theorem waits_pumpFrom (size fetches : Nat) (cursor : Cursor) (hcursor : cursor.table = x.name)
    (loader : Loader) (hloader : loader.table = target) (written : Nat) (pending : List Row)
    (hchunk : 0 < cursor.chunk) (hrows : cursor.rows.length < fetches) :
    Work.Waits D target blank (Wrote failure loader written (pending ++ cursor.rows))
      (pumpFrom size fetches cursor loader written pending) := by
  -- Each chunk that is not the last takes a row at least, so the allowance does not run out.
  induction fetches generalizing cursor loader written pending with
  | zero => exact absurd hrows (Nat.not_lt_zero _)
  | succ fetches ih =>
    refine waits_ask (h.nextChunk cursor hcursor) fun answer ha => ?_
    obtain ⟨after, chunk⟩ := answer
    obtain ⟨rfl, rfl | ⟨e, he, rfl⟩⟩ := ha
    · obtain ⟨table, chunk, rows⟩ := cursor
      cases rows with
      | nil =>
        simp only [List.take_nil, List.append_nil]
        exact waits_finish h ⟨table, chunk, [].drop chunk⟩ hcursor loader hloader written pending
      | cons row rows =>
        obtain ⟨chunk, rfl⟩ : ∃ n, chunk = n + 1 := ⟨chunk - 1, by simp only at hchunk; omega⟩
        simp only [List.take_succ_cons, List.drop_succ_cons]
        have hsplit := flatten_splitBatches size (pending ++ row :: rows.take chunk)
        generalize splitBatches size (pending ++ row :: rows.take chunk) = cut at hsplit
        obtain ⟨batches, rest⟩ := cut
        -- What has been written, is pending and is still to be read is the same list as before.
        have hwhole : batches.flatten ++ (rest ++ rows.drop chunk) = pending ++ row :: rows := by
          rw [← List.append_assoc, show batches.flatten ++ rest = _ from hsplit, List.append_assoc,
            List.cons_append, List.take_append_drop]
        have hshorter : (rows.drop chunk).length < fetches := by
          simp only [List.length_cons] at hrows
          rw [List.length_drop]
          omega
        refine (waits_writeBatches h loader hloader written batches).bind fun outcome ho => ?_
        obtain rfl | ⟨e, he, hafter, hfailed⟩ := ho
        · have hrest := ih ⟨table, chunk + 1, rows.drop chunk⟩ hcursor
            { loader with rows := loader.rows ++ batches.flatten } hloader
            (written + batches.flatten.length) rest hchunk hshorter
          rw [← hwhole]
          exact hrest.mono fun _ => Wrote.append
        · obtain ⟨after, result⟩ := outcome
          obtain rfl : result = .error e := hfailed
          exact waits_giveUp h ⟨table, chunk + 1, rows.drop chunk⟩ hcursor hafter written _ he
    · exact waits_giveUp h { cursor with rows := cursor.rows.drop cursor.chunk } hcursor rfl
        written _ he

theorem waits_pump (columns : List Column) (loader : Loader) (hloader : loader.table = target)
    (hfetches : x.rows.length < pace.fetches) :
    Work.Waits D target blank (Wrote failure loader 0 x.rows)
      (pump pace x.name columns loader) := by
  have hchunk : 0 < max pace.chunk 1 := Nat.lt_of_lt_of_le Nat.zero_lt_one (Nat.le_max_right _ _)
  refine waits_ask (h.openCursor columns _) fun answer ha => ?_
  obtain rfl | ⟨e, he, rfl⟩ := ha
  · exact waits_pumpFrom h _ _ ⟨x.name, max pace.chunk 1, x.rows⟩ rfl loader hloader 0 [] hchunk
      hfetches
  · exact waits_done (.inr ⟨e, he, rfl, rfl⟩)

/-! ## Tables -/

/-- How a copy ends: all rows are there, or a failure has left the table blank. -/
def Copied (target : String) (failure : Error → Prop) (blank copied : ν) (rows : List Row) :
    Except Error Nat → ν → Prop
  | .ok n, v => n = rows.length ∧ v = copied
  | .error e, v => v = blank ∧ ∃ cause, failure cause ∧ e = copyFailure target cause

omit h in
theorem tends_of_waits {halt : ν → Prop} {mid : α → Prop}
    {post : β → ν → Prop} (hblank : halt blank) {p : Work Cursor Loader α}
    {f : α → Work Cursor Loader β} (hp : Work.Waits D target blank mid p)
    (hf : ∀ a, mid a → D.Tends target halt post (f a) blank) :
    D.Tends target halt post (p.bind f) blank := by
  have hpart : D.Tends target halt (fun a v => v = blank ∧ mid a) p blank :=
    Division.Tends.mono (fun v (hv : v = blank) => hv.symm ▸ hblank) (fun _ _ ha => ha) hp
  refine hpart.bind fun a v _ ha => ?_
  obtain ⟨rfl, ha⟩ := ha
  exact hf a ha

theorem tends_copyTable (hfetches : x.rows.length < pace.fetches) :
    D.Tends target (fun v => v = blank ∨ v = copied) (Copied target failure blank copied x.rows)
      (copyTable pace x.name target (columnsOf x) mode).run blank := by
  refine ⟨.inl rfl, (h.beginLoad (columnsOf x)).mono fun answer v hanswer => ?_⟩
  obtain ⟨rfl, rfl | ⟨e, he, rfl⟩⟩ := hanswer
  · have hpump := waits_pump h (columnsOf x) ⟨target, columnsOf x, mode, []⟩ rfl hfetches
    refine tends_of_waits (.inl rfl) hpump fun outcome ho => ?_
    obtain rfl | ⟨e, he, hafter, hfailed⟩ := ho
    · rw [Nat.zero_add]
      refine ⟨.inl rfl, h.commit.mono fun answer w hanswer => ?_⟩
      obtain ⟨rfl, rfl⟩ | ⟨e, he, rfl, rfl⟩ := hanswer
      · exact ⟨.inr rfl, rfl, rfl⟩
      · exact ⟨.inl rfl, rfl, e, he, rfl⟩
    · obtain ⟨after, result⟩ := outcome
      obtain rfl : result = .error e := hfailed
      refine ⟨.inl rfl, (h.rollback after hafter).mono fun _ w hw => ?_⟩
      exact ⟨.inl hw, hw, e, he, rfl⟩
  · exact ⟨.inl rfl, rfl, e, he, rfl⟩

theorem tends_describe {halt : ν → Prop} (hblank : halt blank) :
    D.Tends target halt
      (fun outcome v => v = blank ∧ ∃ answer, described answer ∧
        outcome = answer.mapError sourceFailure)
      (describe x.name : Attempt Cursor Loader SourceTable).run blank := by
  refine ⟨hblank, h.describe.mono fun answer v hanswer => ?_⟩
  obtain ⟨rfl, hanswer⟩ := hanswer
  exact ⟨hblank, rfl, answer, hanswer, rfl⟩

end

section

variable {target : String} {halt : ν → Prop} {v : ν}

/-- A part that fails ends the whole. -/
theorem tends_bind {mid : Except Error α → ν → Prop} {post : Except Error β → ν → Prop}
    {p : Attempt Cursor Loader α} {f : α → Attempt Cursor Loader β}
    (hp : D.Tends target halt mid p.run v)
    (herror : ∀ e w, mid (.error e) w → post (.error e) w)
    (hok : ∀ a w, mid (.ok a) w → D.Tends target halt post (f a).run w) :
    D.Tends target halt post (p >>= f).run v := by
  refine Division.Tends.bind hp fun outcome w hw hmid => ?_
  cases outcome with
  | error e => exact ⟨hw, herror e w hmid⟩
  | ok a => exact hok a w hmid

end

/-- What may be found of a table while it is worked on. -/
def Found (x : StoredSource) (blank copied keyed tried v : ν) : Prop :=
  v = blank ∨ x.columns.isEmpty = false ∧ (v = copied ∨ v = keyed ∨ v = tried)

/-- How the work on a table ends.  A failure to describe it leaves it blank, and so does every
later one but a failure to add its key. -/
def Worked (connection : String) (x : StoredSource) (described : Except Error SourceTable → Prop)
    (failure : Error → Prop) (blank keyed tried : ν) :
    Except Error (Option TableReport) → ν → Prop
  | .ok report, v => report = loaded? connection x ∧
    v = if x.columns.isEmpty then blank else keyed
  | .error e, v => (v = blank ∧ ∃ cause, described (.error cause) ∧ e = sourceFailure cause) ∨
    (v = blank ∨ v = tried) ∧ x.columns.isEmpty = false ∧ described (.ok x.description) ∧
      ∃ cause, failure cause ∧ e = copyFailure (tableName connection x.name) cause

theorem Worked.found {outcome : Except Error (Option TableReport)} {copied v : ν}
    (h : Worked connection x described failure blank keyed tried outcome v) :
    Found x blank copied keyed tried v := by
  cases outcome with
  | ok report =>
    obtain ⟨_, rfl⟩ := h
    by_cases hempty : x.columns.isEmpty = true
    · rw [if_pos hempty]
      exact .inl rfl
    · rw [if_neg hempty]
      exact .inr ⟨Bool.eq_false_iff.2 hempty, .inr (.inl rfl)⟩
  | error e =>
    obtain ⟨rfl, _⟩ | ⟨rfl | rfl, hcolumns, _⟩ := h
    · exact .inl rfl
    · exact .inl rfl
    · exact .inr ⟨hcolumns, .inr (.inr rfl)⟩

theorem tends_finalize (h : Serves D connection x described failure blank copied keyed tried)
    {halt : ν → Prop} (hcopied : halt copied) (hkeyed : halt keyed) (htried : halt tried) :
    D.Tends (tableName connection x.name) halt
      (fun outcome v => (outcome = .ok () ∧ v = keyed) ∨ v = tried ∧ ∃ cause, failure cause ∧
        outcome = .error (copyFailure (tableName connection x.name) cause))
      (Attempt.failingAs (copyFailure (tableName connection x.name))
        (Attempt.finalize (tableName connection x.name) x.primaryKey (columnsOf x) :
          Attempt Cursor Loader Unit)).run copied := by
  refine ⟨hcopied, h.finalize.mono fun answer v hanswer => ?_⟩
  obtain ⟨rfl, rfl⟩ | ⟨e, he, rfl, rfl⟩ := hanswer
  · exact ⟨hkeyed, .inl ⟨rfl, rfl⟩⟩
  · exact ⟨htried, .inr ⟨rfl, e, he, rfl⟩⟩

/-- The work on a table that has been described with columns. -/
theorem tends_filling (h : Serves D connection x described failure blank copied keyed tried)
    (hdescribed : described (.ok x.description)) (hcolumns : x.columns.isEmpty = false)
    (hfetches : x.rows.length < pace.fetches) (report : Nat → TableReport)
    (hreport : loaded? connection x = some (report x.rows.length)) :
    D.Tends (tableName connection x.name) (Found x blank copied keyed tried)
      (Worked connection x described failure blank keyed tried)
      (do
        let rows ← copyTable pace x.name (tableName connection x.name) (columnsOf x) .create
        Attempt.failingAs (copyFailure (tableName connection x.name))
          (.finalize (tableName connection x.name) x.primaryKey (columnsOf x))
        return some (report rows) : Attempt Cursor Loader (Option TableReport)).run blank := by
  have hhalt : ∀ w, w = blank ∨ w = copied → Found x blank copied keyed tried w := by
    rintro w (rfl | rfl)
    · exact .inl rfl
    · exact .inr ⟨hcolumns, .inl rfl⟩
  have hcopy := (tends_copyTable h.toLoads hfetches).mono hhalt fun _ _ hpost => hpost
  refine tends_bind hcopy (fun e w hw => ?_) fun rows w hw => ?_
  · obtain ⟨rfl, cause, hcause, rfl⟩ := hw
    exact .inr ⟨.inl rfl, hcolumns, hdescribed, cause, hcause, rfl⟩
  · obtain ⟨rfl, rfl⟩ := hw
    have hfound : ∀ u, u = w ∨ u = keyed ∨ u = tried → Found x blank w keyed tried u :=
      fun u hu => .inr ⟨hcolumns, hu⟩
    have hfinalize := tends_finalize h (hfound w (.inl rfl)) (hfound keyed (.inr (.inl rfl)))
      (hfound tried (.inr (.inr rfl)))
    refine tends_bind hfinalize (fun e u hu => ?_) fun _ u hu => ?_
    · obtain ⟨hok, _⟩ | ⟨rfl, cause, hcause, he⟩ := hu
      · cases hok
      · cases he
        exact .inr ⟨.inr rfl, hcolumns, hdescribed, cause, hcause, rfl⟩
    · obtain ⟨_, rfl⟩ | ⟨_, _, _, he⟩ := hu
      · refine ⟨.inr ⟨hcolumns, .inr (.inl rfl)⟩, hreport.symm, ?_⟩
        rw [hcolumns, if_neg Bool.false_ne_true]
      · cases he

/-- The task of a source table, whatever its calls are answered. -/
theorem tends_loadTask (h : Serves D connection x described failure blank copied keyed tried)
    (hname : x.describedAs = none) (hfetches : x.rows.length < pace.fetches) :
    D.Tends (tableName connection x.name) (Found x blank copied keyed tried)
      (Worked connection x described failure blank keyed tried)
      (loadTask pace connection x.name).run blank := by
  have hdescribed : x.description.name = x.name := by
    rw [StoredSource.description, StoredSource.describedName, hname, Option.getD_none]
  have hcolumns : x.description.columns = x.columns := rfl
  refine tends_bind (tends_describe h.toLoads (.inl rfl)) (fun e v hv => ?_) fun d v hv => ?_
  · obtain ⟨rfl, answer, hanswer, he⟩ := hv
    cases answer with
    | ok d => cases he
    | error cause =>
      cases he
      exact .inl ⟨rfl, cause, hanswer, rfl⟩
  · obtain ⟨rfl, answer, hanswer, hd⟩ := hv
    cases answer with
    | error cause => cases hd
    | ok d =>
      cases hd
      obtain rfl := h.told _ hanswer
      rw [hcolumns, hdescribed]
      by_cases hempty : x.columns.isEmpty = true
      · rw [if_pos hempty]
        refine ⟨.inl rfl, ?_, (if_pos hempty).symm⟩
        rw [loaded?, if_pos hempty]
      · rw [if_neg hempty]
        refine tends_filling h hanswer (Bool.eq_false_iff.2 hempty) hfetches _ ?_
        rw [loaded?, if_neg hempty]

end Granary.Replica
