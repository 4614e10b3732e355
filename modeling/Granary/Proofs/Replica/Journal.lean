import Granary.Proofs.Journal
import Granary.Proofs.Outcome
import Granary.Proofs.Replica.Loading

/-!
# Journals of copies

What the journal of a copy says: which calls went to the loader and which to the cursor, what rows
were delivered, passed on and stored, and which call failed first.

A copy that is under way is described by `Pumping`: the rows that have been stored, with those that
are pending behind them, are the rows that have been delivered.  Each answer either keeps that
(`Pumping.fetched`, `Pumping.wrote`) or ends the copy with the error that it is.  `leads_pump` puts
this together for a whole cursor and any answers to the calls.
-/

namespace Granary.Replica

open Program (Leads Noting leads_ask)

variable {κ ω : Type}

/-- A call of a replication with what it was answered. -/
abbrev Note (κ ω : Type) : Type := (c : Call κ ω) × Answer c

abbrev Journal (κ ω : Type) : Type := Program.Journal (@Answer κ ω)

/-! ## What a journal says -/

/-- Calls of a loader, and those that ask for one. -/
def Call.onLoader : Call κ ω → Bool
  | .beginLoad .. | .insertBatch .. | .commit _ | .rollback _ => true
  | _ => false

/-- Calls of a cursor, and those that ask for one. -/
def Call.onCursor : Call κ ω → Bool
  | .openCursor .. | .nextChunk _ | .closeCursor _ | .dropCursor _ => true
  | _ => false

namespace Note

/-- The error that a call of a copy was answered with. -/
def error? : Note κ ω → Option Error
  | ⟨.beginLoad .., outcome⟩ => Outcome.error? outcome
  | ⟨.openCursor .., outcome⟩ => Outcome.error? outcome
  | ⟨.nextChunk _, (_, outcome)⟩ => Outcome.error? outcome
  | ⟨.insertBatch _ _, (_, outcome)⟩ => Outcome.error? outcome
  | ⟨.closeCursor _, outcome⟩ => Outcome.error? outcome
  | ⟨.commit _, outcome⟩ => Outcome.error? outcome
  | ⟨.rollback _, outcome⟩ => Outcome.error? outcome
  | _ => none

def chunk? : Note κ ω → Option (List Row)
  | ⟨.nextChunk _, (_, .ok rows)⟩ => some rows
  | _ => none

/-- The batch that was passed to a loader, whatever came of it. -/
def batch? : Note κ ω → Option (List Row)
  | ⟨.insertBatch _ rows, _⟩ => some rows
  | _ => none

def stored? : Note κ ω → Option (List Row)
  | ⟨.insertBatch _ rows, (_, .ok _)⟩ => some rows
  | _ => none

/-- How many rows a loader said it has stored. -/
def count? : Note κ ω → Option Nat
  | ⟨.insertBatch _ _, (_, .ok n)⟩ => some n
  | _ => none

end Note

namespace Journal

variable (h : Journal κ ω)

def loaderCalls : Journal κ ω := h.filter (·.1.onLoader)

def cursorCalls : Journal κ ω := h.filter (·.1.onCursor)

def chunks : List (List Row) := h.filterMap Note.chunk?

def batches : List (List Row) := h.filterMap Note.batch?

def stored : List (List Row) := h.filterMap Note.stored?

def counts : List Nat := h.filterMap Note.count?

def firstError? : Option Error := h.findSome? Note.error?

def Unfailing : Prop := ∀ note ∈ h, Note.error? note = none

end Journal

/-- Insertions into one load, each with the loader that the one before gave back. -/
inductive Inserts : ω → Journal κ ω → ω → Prop where
  | none (loader : ω) : Inserts loader [] loader
  | insert {first loader : ω} {js : Journal κ ω} (h : Inserts first js loader) (rows : List Row)
      (next : ω) (count : Except Error Nat) :
      Inserts first (js ++ [⟨.insertBatch loader rows, (next, count)⟩]) next

/-- Chunks of one cursor, each with the cursor that the one before gave back. -/
inductive Draws : κ → Journal κ ω → κ → Prop where
  | none (cursor : κ) : Draws cursor [] cursor
  | draw {first cursor : κ} {js : Journal κ ω} (h : Draws first js cursor) (next : κ)
      (chunk : Except Error (List Row)) :
      Draws first (js ++ [⟨.nextChunk cursor, (next, chunk)⟩]) next

/-- A call of a copy may be answered in any way, but no more than `limit` chunks come with rows.
Other calls are not answered. -/
def Within (limit : Nat) (h : Journal κ ω) : (c : Call κ ω) → Answer c → Prop
  | .nextChunk _, (_, .ok (_ :: _)) => h.chunks.length < limit
  | .beginLoad .., _ | .openCursor .., _ | .nextChunk _, _ | .closeCursor _, _
  | .dropCursor _, _ | .insertBatch .., _ | .commit _, _ | .rollback _, _ => True
  | _, _ => False

/-! ## Copies under way -/

/-- Since `begun` has been written down, a load has got this far. -/
def LoadAt (begun : Journal κ ω) (first : ω) (h : Journal κ ω) (loader : ω) : Prop :=
  ∃ js, h.loaderCalls = begun ++ js ∧ Inserts first js loader

/-- Since `opening` has been written down, a cursor has got this far. -/
def CursorAt (opening : Journal κ ω) (opened : κ) (h : Journal κ ω) (cursor : κ) : Prop :=
  ∃ js, h.cursorCalls = opening ++ js ∧ Draws opened js cursor

structure Pumping (begun opening : Journal κ ω) (first : ω) (opened : κ) (h : Journal κ ω)
    (cursor : κ) (loader : ω) (written : Nat) (pending : List Row) : Prop where
  loads : LoadAt begun first h loader
  scans : CursorAt opening opened h cursor
  unfailing : h.Unfailing
  rows : h.stored.flatten ++ pending = h.chunks.flatten
  count : written = h.counts.sum

/-- A copy has failed, and the first call that failed did so with this error. -/
def Broken (begun : Journal κ ω) (first : ω) (h : Journal κ ω) (loader : ω) (e : Error) : Prop :=
  LoadAt begun first h loader ∧ h.firstError? = some e

/-- All rows of a cursor have been delivered and stored, and the cursor is closed. -/
structure Moved (source : String) (columns : List Column) (h : Journal κ ω) : Prop where
  read : ∃ chunk opened js last, h.cursorCalls =
    ⟨.openCursor source columns chunk, .ok opened⟩ :: js ++ [⟨.closeCursor last, .ok ()⟩] ∧
      Draws opened js last
  exhausted : ∃ full, h.chunks = full ++ [[]] ∧ ∀ chunk ∈ full, chunk ≠ []
  stored : h.stored.flatten = h.chunks.flatten
  unfailing : h.Unfailing

/-- Batches of one size, but for the last one, which may be smaller. -/
structure Batched (size : Nat) (batches : List (List Row)) : Prop where
  nonempty : ∀ batch ∈ batches, batch ≠ []
  full : ∀ batch ∈ batches.dropLast, batch.length = size
  atMost : ∀ batch ∈ batches, batch.length ≤ size

section

variable {begun opening h : Journal κ ω} {first loader : ω} {opened cursor : κ} {written : Nat}
  {pending : List Row}

theorem LoadAt.other (hload : LoadAt begun first h loader) {note : Note κ ω}
    (hnote : note.1.onLoader = false) : LoadAt begun first (h ++ [note]) loader := by
  obtain ⟨js, hjs, hinserts⟩ := hload
  refine ⟨js, ?_, hinserts⟩
  rw [Journal.loaderCalls, List.filter_append, ← Journal.loaderCalls, hjs,
    List.filter_singleton, hnote]
  simp

theorem LoadAt.insert (hload : LoadAt begun first h loader) (batch : List Row) (next : ω)
    (count : Except Error Nat) :
    LoadAt begun first (h ++ [⟨.insertBatch loader batch, (next, count)⟩]) next := by
  obtain ⟨js, hjs, hinserts⟩ := hload
  refine ⟨_, ?_, hinserts.insert batch next count⟩
  rw [Journal.loaderCalls, List.filter_append, ← Journal.loaderCalls, hjs, List.append_assoc]
  rfl

theorem CursorAt.other (hcursor : CursorAt opening opened h cursor) {note : Note κ ω}
    (hnote : note.1.onCursor = false) : CursorAt opening opened (h ++ [note]) cursor := by
  obtain ⟨js, hjs, hdraws⟩ := hcursor
  refine ⟨js, ?_, hdraws⟩
  rw [Journal.cursorCalls, List.filter_append, ← Journal.cursorCalls, hjs,
    List.filter_singleton, hnote]
  simp

theorem CursorAt.draw (hcursor : CursorAt opening opened h cursor) (next : κ)
    (chunk : Except Error (List Row)) :
    CursorAt opening opened (h ++ [⟨.nextChunk cursor, (next, chunk)⟩]) next := by
  obtain ⟨js, hjs, hdraws⟩ := hcursor
  refine ⟨_, ?_, hdraws.draw next chunk⟩
  rw [Journal.cursorCalls, List.filter_append, ← Journal.cursorCalls, hjs, List.append_assoc]
  rfl

theorem Journal.Unfailing.append (hh : h.Unfailing) {note : Note κ ω}
    (hnote : Note.error? note = none) : Journal.Unfailing (h ++ [note]) :=
  List.forall_mem_append.2 ⟨hh, List.forall_mem_singleton.2 hnote⟩

theorem Journal.Unfailing.firstError? (hh : h.Unfailing) : h.firstError? = none :=
  List.findSome?_eq_none_iff.2 hh

theorem Journal.firstError?_append (h : Journal κ ω) (note : Note κ ω) :
    Journal.firstError? (h ++ [note]) = h.firstError?.or (Note.error? note) := by
  rw [Journal.firstError?, List.findSome?_append, List.findSome?_singleton]
  rfl

/-- Where nothing failed, all that was passed on was stored. -/
theorem Journal.Unfailing.stored_eq (hh : h.Unfailing) : h.stored = h.batches := by
  refine List.filterMap_congr fun note hnote => ?_
  have hnone := hh note hnote
  obtain ⟨c, answer⟩ := note
  cases c with
  | insertBatch loader rows =>
    obtain ⟨next, count⟩ := answer
    cases count with
    | error e => cases hnone
    | ok n => rfl
  | nextChunk cursor => rfl
  | _ => rfl

theorem filterMap_concat {α : Type} (f : Note κ ω → Option α) (h : Journal κ ω) (note : Note κ ω) :
    (h ++ [note]).filterMap f = h.filterMap f ++ (f note).toList := by
  rw [List.filterMap_append]
  cases hf : f note <;> simp [hf]

namespace Pumping

theorem fetched (hp : Pumping begun opening first opened h cursor loader written pending)
    (next : κ) (rows : List Row) :
    Pumping begun opening first opened (h ++ [⟨.nextChunk cursor, (next, .ok rows)⟩]) next loader
      written (pending ++ rows) where
  loads := hp.loads.other rfl
  scans := hp.scans.draw next _
  unfailing := hp.unfailing.append rfl
  rows := by
    have hrows : h.stored.flatten ++ pending = h.chunks.flatten := hp.rows
    rw [Journal.stored, Journal.chunks, filterMap_concat, filterMap_concat, List.flatten_append,
      List.flatten_append, ← Journal.stored, ← Journal.chunks, ← hrows]
    simp [Note.stored?, Note.chunk?]
  count := by
    rw [hp.count, Journal.counts, Journal.counts, filterMap_concat, List.sum_append]
    exact (Nat.add_zero _).symm

theorem wrote {batch rest : List Row}
    (hp : Pumping begun opening first opened h cursor loader written (batch ++ rest)) (next : ω)
    (n : Nat) :
    Pumping begun opening first opened (h ++ [⟨.insertBatch loader batch, (next, .ok n)⟩]) cursor
      next (written + n) rest where
  loads := hp.loads.insert batch next _
  scans := hp.scans.other rfl
  unfailing := hp.unfailing.append rfl
  rows := by
    have hrows : h.stored.flatten ++ (batch ++ rest) = h.chunks.flatten := hp.rows
    rw [Journal.stored, Journal.chunks, filterMap_concat, filterMap_concat, List.flatten_append,
      List.flatten_append, ← Journal.stored, ← Journal.chunks, ← hrows]
    simp [Note.stored?, Note.chunk?]
  count := by
    rw [hp.count, Journal.counts, Journal.counts, filterMap_concat, List.sum_append]
    simp [Note.count?]

theorem broken_concat (hp : Pumping begun opening first opened h cursor loader written pending)
    {note : Note κ ω} (hnote : note.1.onLoader = false) {e : Error}
    (he : Note.error? note = some e) : Broken begun first (h ++ [note]) loader e :=
  ⟨hp.loads.other hnote, by
    rw [Journal.firstError?_append, hp.unfailing.firstError?, he]
    rfl⟩

theorem broken_insert (hp : Pumping begun opening first opened h cursor loader written pending)
    (batch : List Row) (next : ω) (e : Error) :
    Broken begun first (h ++ [⟨.insertBatch loader batch, (next, .error e)⟩]) next e :=
  ⟨hp.loads.insert batch next _, by
    rw [Journal.firstError?_append, hp.unfailing.firstError?]
    rfl⟩

end Pumping

theorem Broken.concat {e : Error} (hb : Broken begun first h loader e) {note : Note κ ω}
    (hnote : note.1.onLoader = false) : Broken begun first (h ++ [note]) loader e :=
  ⟨hb.1.other hnote, by
    rw [Journal.firstError?_append, hb.2]
    rfl⟩

/-! ## Every way that pumping may go -/

variable {limit size : Nat}

/-- Batches are written one after another until one of them fails. -/
theorem leads_writeBatches {batches : List (List Row)} {rest : List Row}
    (hp : Pumping begun opening first opened h cursor loader written (batches.flatten ++ rest)) :
    (writeBatches loader written batches).Leads (Noting (Within limit)) (fun (loader, outcome) t =>
      match outcome with
      | .error e => Broken begun first t loader e
      | .ok n => Pumping begun opening first opened t cursor loader n rest ∧
        Journal.chunks t = h.chunks ∧ Journal.batches t = h.batches ++ batches) h := by
  induction batches generalizing h loader written with
  | nil => exact ⟨hp, rfl, (List.append_nil _).symm⟩
  | cons batch more ih =>
    rw [List.flatten_cons, List.append_assoc] at hp
    refine leads_ask ⟨(loader, .ok 0), trivial⟩ ?_
    rintro ⟨next, count⟩ -
    cases count with
    | error e => exact hp.broken_insert batch next e
    | ok n =>
      refine (ih (hp.wrote next n)).mono ?_
      rintro ⟨last, outcome⟩ t ht
      cases outcome with
      | error e => exact ht
      | ok m =>
        obtain ⟨ht, hchunks, hbatches⟩ := ht
        refine ⟨ht, ?_, ?_⟩
        · rw [hchunks, Journal.chunks, filterMap_concat]
          exact List.append_nil _
        · rw [hbatches, Journal.batches, filterMap_concat, List.append_assoc]
          rfl

theorem leads_giveUp {e : Error} (hb : Broken begun first h loader e) :
    (giveUp cursor loader e).Leads (Noting (Within limit)) (fun (loader, outcome) t =>
      outcome = .error e ∧ Broken begun first t loader e) h :=
  leads_ask ⟨(), trivial⟩ fun _ _ => ⟨rfl, hb.concat rfl⟩

theorem Batched.of_full {batches : List (List Row)} (hsize : 0 < size)
    (hfull : ∀ batch ∈ batches, batch.length = size) : Batched size batches where
  nonempty batch hbatch := by
    rintro rfl
    exact absurd (hfull [] hbatch) (Nat.ne_of_lt hsize)
  full batch hbatch := hfull batch (List.mem_of_mem_dropLast hbatch)
  atMost batch hbatch := Nat.le_of_eq (hfull batch hbatch)

/-- What is left makes one last batch, unless it is nothing. -/
theorem Batched.of_last {batches : List (List Row)} (hsize : 0 < size)
    (hfull : ∀ batch ∈ batches, batch.length = size) (hpending : pending.length < size) :
    Batched size (batches ++ if pending.isEmpty then [] else [pending]) := by
  by_cases hempty : pending.isEmpty = true
  · rw [if_pos hempty, List.append_nil]
    exact .of_full hsize hfull
  · rw [if_neg hempty]
    have hall := Batched.of_full hsize hfull
    refine ⟨?_, ?_, ?_⟩
    · rw [List.forall_mem_append, List.forall_mem_singleton]
      exact ⟨hall.nonempty, fun hnone => hempty (List.isEmpty_iff.2 hnone)⟩
    · rw [List.dropLast_concat]
      exact hfull
    · rw [List.forall_mem_append, List.forall_mem_singleton]
      exact ⟨hall.atMost, Nat.le_of_lt hpending⟩

theorem flatten_last (pending : List Row) :
    (if pending.isEmpty then [] else [pending]).flatten = pending := by
  cases pending with
  | nil => rfl
  | cons row rows => simp

/-- How pumping ends: with the first error, or with all rows moved in batches of one size. -/
def Pumped (begun : Journal κ ω) (first : ω) (source : String) (columns : List Column)
    (size : Nat) : ω × Except Error Nat → Journal κ ω → Prop
  | (loader, .error e), t => Broken begun first t loader e
  | (loader, .ok n), t => LoadAt begun first t loader ∧ Moved source columns t ∧
    Batched size t.batches ∧ n = t.counts.sum

section

variable {source : String} {columns : List Column} {chunk : Nat}

theorem Pumping.closed
    (hp : Pumping begun [⟨.openCursor source columns chunk, .ok opened⟩] first opened h cursor
      loader written [])
    (hdrained : ∃ full, h.chunks = full ++ [[]] ∧ ∀ rows ∈ full, rows ≠ []) :
    Moved source columns (h ++ [⟨.closeCursor cursor, .ok ()⟩]) where
  read := by
    obtain ⟨js, hjs, hdraws⟩ := hp.scans
    refine ⟨chunk, opened, js, cursor, ?_, hdraws⟩
    rw [Journal.cursorCalls, List.filter_append, ← Journal.cursorCalls, hjs]
    rfl
  exhausted := by
    rw [Journal.chunks, filterMap_concat, ← Journal.chunks]
    exact (List.append_nil _).symm ▸ hdrained
  stored := by
    have hrows := hp.rows
    rw [List.append_nil] at hrows
    rw [Journal.stored, Journal.chunks, filterMap_concat, filterMap_concat, ← Journal.stored,
      ← Journal.chunks]
    exact (congrArg List.flatten (List.append_nil _)).trans
      (hrows.trans (congrArg List.flatten (List.append_nil _)).symm)
  unfailing := hp.unfailing.append rfl

theorem leads_finish (hsize : 0 < size)
    (hp : Pumping begun [⟨.openCursor source columns chunk, .ok opened⟩] first opened h cursor
      loader written pending)
    (hdrained : ∃ full, h.chunks = full ++ [[]] ∧ ∀ rows ∈ full, rows ≠ [])
    (hfull : ∀ batch ∈ h.batches, batch.length = size) (hpending : pending.length < size) :
    (finish cursor loader written pending).Leads (Noting (Within limit))
      (Pumped begun first source columns size) h := by
  have hlast : (if pending.isEmpty then [] else [pending]).flatten ++ [] = pending := by
    rw [flatten_last, List.append_nil]
  rw [← hlast] at hp
  refine (leads_writeBatches hp).bind ?_
  rintro ⟨loader, outcome⟩ t ht
  cases outcome with
  | error e =>
    refine (leads_giveUp ht).mono ?_
    rintro ⟨loader, outcome⟩ u ⟨rfl, hu⟩
    exact hu
  | ok n =>
    obtain ⟨ht, hchunks, hbatches⟩ := ht
    refine leads_ask ⟨.ok (), trivial⟩ fun closed _ => ?_
    cases closed with
    | error e => exact ht.broken_concat rfl rfl
    | ok _ =>
      refine ⟨ht.loads.other rfl, ht.closed (hchunks ▸ hdrained), ?_, ?_⟩
      · have hall := Batched.of_last hsize hfull hpending
        rw [Journal.batches, filterMap_concat, ← Journal.batches, hbatches]
        exact (List.append_nil _).symm ▸ hall
      · rw [Journal.counts, filterMap_concat, ← Journal.counts, ht.count]
        exact congrArg List.sum (List.append_nil _).symm

theorem length_splitBatches (hsize : 0 < size) (rows : List Row) :
    (∀ batch ∈ (splitBatches size rows).1, batch.length = size) ∧
      (splitBatches size rows).2.length < size := by
  fun_induction splitBatches size rows with
  | case1 rows h batches rest hsplit ih =>
    rw [hsplit] at ih
    refine ⟨List.forall_mem_cons.2 ⟨?_, ih.1⟩, ih.2⟩
    rw [List.length_take]
    omega
  | case2 rows h =>
    refine ⟨fun _ hbatch => absurd hbatch List.not_mem_nil, ?_⟩
    show rows.length < size
    omega

/-- By induction on the chunks that may still be read: each of them takes the place of one that
comes with rows, so the cursor is exhausted before the allowance is. -/
theorem leads_pumpFrom {fetches : Nat} (hsize : 0 < size)
    (hp : Pumping begun [⟨.openCursor source columns chunk, .ok opened⟩] first opened h cursor
      loader written pending)
    (hread : ∀ rows ∈ h.chunks, rows ≠ []) (hfull : ∀ batch ∈ h.batches, batch.length = size)
    (hpending : pending.length < size) (hlimit : h.chunks.length ≤ limit)
    (hfetches : limit < fetches + h.chunks.length) :
    (pumpFrom size fetches cursor loader written pending).Leads (Noting (Within limit))
      (Pumped begun first source columns size) h := by
  induction fetches generalizing h cursor loader written pending with
  | zero => omega
  | succ fetches ih =>
    refine leads_ask ⟨(cursor, .ok []), trivial⟩ ?_
    rintro ⟨next, outcome⟩ hmay
    cases outcome with
    | error e =>
      refine (leads_giveUp (hp.broken_concat rfl rfl)).mono ?_
      rintro ⟨loader, outcome⟩ t ⟨rfl, ht⟩
      exact ht
    | ok rows =>
      have hfetched := hp.fetched next rows
      have hchunks : Journal.chunks (h ++ [⟨.nextChunk cursor, (next, .ok rows)⟩]) =
          h.chunks ++ [rows] := filterMap_concat ..
      have hbatches : Journal.batches (h ++ [⟨.nextChunk cursor, (next, .ok rows)⟩]) =
          h.batches := (filterMap_concat ..).trans (List.append_nil _)
      generalize h ++ [⟨.nextChunk cursor, (next, .ok rows)⟩] = t at hfetched hchunks hbatches ⊢
      cases rows with
      | nil =>
        rw [List.append_nil] at hfetched
        exact leads_finish hsize hfetched ⟨_, hchunks, hread⟩ (hbatches ▸ hfull) hpending
      | cons row rows =>
        have hsplit := flatten_splitBatches size (pending ++ row :: rows)
        obtain ⟨hcut, hrest⟩ := length_splitBatches hsize (pending ++ row :: rows)
        dsimp only
        generalize splitBatches size (pending ++ row :: rows) = parts at hsplit hcut hrest
        obtain ⟨batches, rest⟩ := parts
        rw [← hsplit] at hfetched
        refine (leads_writeBatches hfetched).bind ?_
        rintro ⟨loader, outcome⟩ u hu
        cases outcome with
        | error e =>
          refine (leads_giveUp hu).mono ?_
          rintro ⟨loader, outcome⟩ v ⟨rfl, hv⟩
          exact hv
        | ok n =>
          obtain ⟨hu, huchunks, hubatches⟩ := hu
          rw [hchunks] at huchunks
          rw [hbatches] at hubatches
          have hless : h.chunks.length < limit := hmay
          have hlength : (Journal.chunks u).length = h.chunks.length + 1 := by
            rw [huchunks, List.length_append]
            rfl
          refine ih hu ?_ ?_ hrest (by omega) (by omega)
          · rw [huchunks, List.forall_mem_append, List.forall_mem_singleton]
            exact ⟨hread, List.cons_ne_nil row rows⟩
          · rw [hubatches, List.forall_mem_append]
            exact ⟨hfull, hcut⟩

theorem batchSize_pos (wanted columns : Nat) : 0 < batchSize wanted columns := by
  unfold batchSize
  omega

/-- Nothing has been asked of a cursor and nothing been passed to a loader. -/
structure Fresh (h : Journal κ ω) : Prop where
  cursorCalls : h.cursorCalls = []
  chunks : h.chunks = []
  batches : h.batches = []
  counts : h.counts = []
  unfailing : h.Unfailing

theorem Fresh.pumping (hh : Fresh h) (loader : ω) :
    Pumping h.loaderCalls [⟨.openCursor source columns chunk, .ok opened⟩] loader opened
      (h ++ [⟨.openCursor source columns chunk, .ok opened⟩]) opened loader 0 [] where
  loads := by
    have hload : LoadAt h.loaderCalls loader h loader := ⟨[], (List.append_nil _).symm, .none _⟩
    exact hload.other rfl
  scans := by
    refine ⟨[], ?_, .none _⟩
    rw [Journal.cursorCalls, List.filter_append, ← Journal.cursorCalls, hh.cursorCalls]
    rfl
  unfailing := hh.unfailing.append rfl
  rows := by
    rw [Journal.stored, Journal.chunks, filterMap_concat, filterMap_concat, ← Journal.stored,
      ← Journal.chunks, hh.unfailing.stored_eq, hh.batches, hh.chunks]
    rfl
  count := by
    rw [Journal.counts, filterMap_concat, ← Journal.counts, hh.counts]
    rfl

/-- Pumping from wherever a load has been begun, whatever its calls are answered. -/
theorem leads_pump (pace : Pace) (hfetches : limit < pace.fetches) (hh : Fresh h) :
    (pump pace source columns loader).Leads (Noting (Within limit))
      (Pumped h.loaderCalls loader source columns (batchSize pace.batch columns.length)) h := by
  refine leads_ask ⟨.error .yaml, trivial⟩ fun outcome _ => ?_
  cases outcome with
  | error e =>
    refine ⟨⟨[], ?_, .none loader⟩, ?_⟩
    · rw [Journal.loaderCalls, List.filter_append]
      rfl
    · rw [Journal.firstError?_append, hh.unfailing.firstError?]
      rfl
  | ok opened =>
    have hchunks : Journal.chunks
        (h ++ [⟨.openCursor source columns (max pace.chunk 1), .ok opened⟩]) = [] :=
      (filterMap_concat ..).trans ((List.append_nil _).trans hh.chunks)
    have hbatches : Journal.batches
        (h ++ [⟨.openCursor source columns (max pace.chunk 1), .ok opened⟩]) = [] :=
      (filterMap_concat ..).trans ((List.append_nil _).trans hh.batches)
    refine leads_pumpFrom (batchSize_pos _ _) (hh.pumping loader) ?_ ?_ (batchSize_pos _ _) ?_ ?_
    · rw [hchunks]
      exact fun _ hrows => absurd hrows List.not_mem_nil
    · rw [hbatches]
      exact fun _ hbatch => absurd hbatch List.not_mem_nil
    · rw [hchunks]
      exact Nat.zero_le _
    · rw [hchunks]
      exact hfetches

end

end

end Granary.Replica
