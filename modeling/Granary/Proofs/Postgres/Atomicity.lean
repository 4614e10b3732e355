import Granary.Proofs.Postgres.Load

/-!
# A load is all or nothing

Whatever of a load succeeds or fails, and wherever it is broken off, the table is as it was before
or has all rows of the source table, and it is only changed by a commit that has succeeded.  A
client is back in its pool only if it has no transaction; work that is broken off gives back clients
without one, too, unless the text that opens or ends a transaction is under way.
-/

namespace Granary.Postgres
namespace Load

open Program (Keeps Runs)
open Replica (Pace Row batchSize finish giveUp pump pumpFrom splitBatches writeBatches)

variable {π γ : Type} {load : Load π} {server : Server} {tables : Tables} {s t : World γ}

/-- A program of replication on the databases of the load. -/
def asked {α : Type} (load : Load π) (p : Replica.Work (Cursor γ) (Loader γ) α) : Work π γ α :=
  p.expand (replicate load.source load.warehouse)

theorem length_textRow {cells : List Cell} {row : Row} (h : textRow cells = .ok row) :
    row.length = cells.length := by
  rw [Outcome.length_of_mapM h, List.length_zipIdx]

/-! ## The loop -/

variable (load server tables) in
/-- What has come of moving rows: the client of the load is the only one out of its pool, and if
nothing has failed all rows of the source table are written. -/
structure Pumped (c : γ) (loader : Loader γ) (outcome : Except Error Nat) (t : World γ) : Prop where
  loader : loader = load.loader c
  others : ∀ d, d ≠ c → (t.clients d).standing = .pooled
  guarded : ∃ session, t.clients c = ⟨.guarded, session, some (load.setup, true)⟩
  written : ∀ n, outcome = .ok n → ∃ rows,
    (server.rows load.query).mapM textRow = .ok rows ∧ n = rows.length ∧
      t.clients c = load.loading tables rows

/-- What is known while rows are moved. -/
structure Pumping (server : Server) (load : Load π) (tables : Tables) (c k : γ) (rows : List Row)
    (pending : List Row) (rest : List (List Cell)) (s : World γ) : Prop where
  intact : load.Intact tables s
  apart : k ≠ c
  loading : s.clients c = load.loading tables rows
  fetching : s.clients k = load.fetching rest
  others : ∀ d, d ≠ c → d ≠ k → (s.clients d).standing = .pooled
  read : ∃ old, server.rows load.query = old ++ rest ∧ old.mapM textRow = .ok (rows ++ pending)

/-- Rows that have been read are of the width of the columns, if the rows of the source are. -/
theorem Pumping.width {c k : γ} {rows pending : List Row} {rest : List (List Cell)}
    (h : Pumping server load tables c k rows pending rest s)
    (hwidth : ∀ row ∈ server.rows load.query, row.length = load.columns.length) :
    ∀ row ∈ pending, row.length = load.columns.length := by
  obtain ⟨old, hold, hread⟩ := h.read
  have hold' : ∀ cells ∈ old, cells.length = load.columns.length := fun cells hcells =>
    hwidth cells (hold ▸ List.mem_append_left rest hcells)
  have hall := Outcome.forall_of_mapM
    (fun cells hcells _ hrow => (length_textRow hrow).trans (hold' cells hcells)) hread
  exact (List.forall_mem_append.1 hall).2

theorem Sound.stage {w : World γ} (h : load.Sound server tables w) (c : γ) :
    load.Stage (w.clients c) := by
  rcases h with h | ⟨rows, h⟩
  · exact h.stage c
  · exact h.stage c

variable [DecidableEq γ]

variable (server) in
theorem keeps_writeBatches (c : γ) {rows : List Row} (written : Nat) {batches : List (List Row)}
    (hwidth : ∀ batch ∈ batches, ∀ row ∈ batch, row.length = load.columns.length)
    (hs : load.Intact tables s) (hc : s.clients c = load.loading tables rows) :
    (load.asked (writeBatches (load.loader c) written batches)).Keeps server.Step
      (load.Intact tables) (fun (loader, outcome) t => loader = load.loader c ∧
        match outcome with
        | .ok n => n = written + batches.flatten.length ∧
          t = s.put c (load.loading tables (rows ++ batches.flatten))
        | .error _ => ∃ session, t = s.put c ⟨.guarded, session, some (load.setup, true)⟩) s := by
  induction batches generalizing s rows written with
  | nil =>
    refine ⟨hs, rfl, rfl, ?_⟩
    rw [List.flatten_nil, List.append_nil, ← hc, World.put_self]
  | cons batch rest ih =>
    obtain ⟨hbatch, hrest⟩ := List.forall_mem_cons.1 hwidth
    show Keeps _ _ _ (Program.bind (Program.bind ((load.loader c).insert batch).run _) _) s
    rw [Program.bind_assoc]
    refine (keeps_insert c hbatch hs hc).bind fun outcome t ht hinsert => ?_
    cases outcome with
    | error e =>
      obtain ⟨session, rfl⟩ := hinsert
      exact ⟨ht, rfl, session, rfl⟩
    | ok n =>
      obtain ⟨rfl, rfl⟩ := hinsert
      refine (ih (written + batch.length) hrest ht (World.clients_put ..)).mono (fun _ h => h) ?_
      rintro ⟨loader, outcome⟩ t - ⟨rfl, h⟩
      refine ⟨rfl, ?_⟩
      cases outcome with
      | error e => simpa only [World.put_put] using h
      | ok n =>
        obtain ⟨hn, ht⟩ := h
        rw [List.flatten_cons, List.length_append, ← Nat.add_assoc, ← List.append_assoc]
        exact ⟨hn, by rw [ht, World.put_put]⟩

namespace Pumping

variable {c k : γ} {rows pending : List Row} {rest : List (List Cell)}

theorem fetched (h : Pumping server load tables c k rows pending rest s) {chunk : Nat}
    {new : List Row} (hnew : (rest.take chunk).mapM textRow = .ok new)
    (hintact : load.Intact tables (s.put k (load.fetching (rest.drop chunk)))) :
    Pumping server load tables c k rows (pending ++ new) (rest.drop chunk)
      (s.put k (load.fetching (rest.drop chunk))) where
  intact := hintact
  apart := h.apart
  loading := by
    rw [World.clients_put_of_ne _ _ h.apart.symm]
    exact h.loading
  fetching := World.clients_put ..
  others d hd hk := by
    rw [World.clients_put_of_ne _ _ hk]
    exact h.others d hd hk
  read := by
    obtain ⟨old, hold, hread⟩ := h.read
    refine ⟨old ++ rest.take chunk, ?_, ?_⟩
    · rw [hold, List.append_assoc, List.take_append_drop]
    · rw [← List.append_assoc]
      exact Outcome.mapM_append_ok hread hnew

theorem wrote {batch left : List Row}
    (h : Pumping server load tables c k rows (batch ++ left) rest s)
    (hintact : load.Intact tables (s.put c (load.loading tables (rows ++ batch)))) :
    Pumping server load tables c k (rows ++ batch) left rest
      (s.put c (load.loading tables (rows ++ batch))) where
  intact := hintact
  apart := h.apart
  loading := World.clients_put ..
  fetching := by
    rw [World.clients_put_of_ne _ _ h.apart]
    exact h.fetching
  others d hd hk := by
    rw [World.clients_put_of_ne _ _ hd]
    exact h.others d hd hk
  read := by
    rw [List.append_assoc]
    exact h.read

/-- A cursor that is given up is discarded; the failure is the one that is given. -/
theorem keeps_giveUp {c k : γ} {cursor : Cursor γ} (hcursor : cursor.client = k) (hapart : k ≠ c)
    (e : Error) (hs : load.Intact tables s)
    (hc : ∃ session, s.clients c = ⟨.guarded, session, some (load.setup, true)⟩)
    (hothers : ∀ d, d ≠ c → d ≠ k → (s.clients d).standing = .pooled) :
    (load.asked (giveUp cursor (load.loader c) e)).Keeps server.Step (load.Intact tables)
      (fun (loader, outcome) t => load.Pumped server tables c loader outcome t) s := by
  subst hcursor
  refine ⟨hs, fun _ t ht => ?_⟩
  obtain rfl : t = _ := ht
  refine ⟨hs.discarded _, rfl, fun d hd => s.pooled_put rfl (hothers d hd), ?_,
    fun _ h => nomatch h⟩
  rw [World.clients_put_of_ne _ _ hapart.symm]
  exact hc

/-- A write that fails ends the work. -/
theorem keeps_giveUp_writing (h : Pumping server load tables c k rows pending rest s) (e : Error)
    {cursor : Cursor γ} (hcursor : cursor.client = k) {session : Session}
    (hintact : load.Intact tables
      (s.put c ⟨.guarded, session, some (load.setup, true)⟩)) :
    (load.asked (giveUp cursor (load.loader c) e)).Keeps server.Step (load.Intact tables)
      (fun (loader, outcome) t => load.Pumped server tables c loader outcome t)
      (s.put c ⟨.guarded, session, some (load.setup, true)⟩) := by
  refine keeps_giveUp hcursor h.apart e hintact ⟨session, World.clients_put ..⟩ fun d hd hk => ?_
  rw [World.clients_put_of_ne _ _ hd]
  exact h.others d hd hk

/-- A fetch that fails ends the work. -/
theorem keeps_giveUp_reading (h : Pumping server load tables c k rows pending rest s) (e : Error)
    {cursor : Cursor γ} (hcursor : cursor.client = k) {session : Session}
    (hintact : load.Intact tables
      (s.put k ⟨.guarded, session, some (load.reading, true)⟩)) :
    (load.asked (giveUp cursor (load.loader c) e)).Keeps server.Step (load.Intact tables)
      (fun (loader, outcome) t => load.Pumped server tables c loader outcome t)
      (s.put k ⟨.guarded, session, some (load.reading, true)⟩) := by
  refine keeps_giveUp hcursor h.apart e hintact ⟨load.writing tables rows, ?_⟩ fun d hd hk => ?_
  · rw [World.clients_put_of_ne _ _ h.apart.symm]
    exact h.loading
  · rw [World.clients_put_of_ne _ _ hk]
    exact h.others d hd hk

/-- The rows that are left are written, and the cursor is closed. -/
theorem keeps_finish {chunk : Nat} {exhausted : Bool}
    (hs : Pumping server load tables c k rows pending [] s)
    (hwidth : ∀ row ∈ server.rows load.query, row.length = load.columns.length) :
    (load.asked (finish ⟨k, load.name, chunk, exhausted⟩ (load.loader c) rows.length pending)).Keeps
      server.Step (load.Intact tables)
      (fun (loader, outcome) t => load.Pumped server tables c loader outcome t) s := by
  have hflatten : (if pending.isEmpty then [] else [pending]).flatten = pending := by
    cases pending <;> simp
  have hbatches : ∀ batch ∈ (if pending.isEmpty then [] else [pending]),
      ∀ row ∈ batch, row.length = load.columns.length := by
    intro batch hbatch row hrow
    refine hs.width hwidth row ?_
    rw [← hflatten]
    exact List.mem_flatten.2 ⟨batch, hbatch, hrow⟩
  have hwrite := keeps_writeBatches server c rows.length hbatches hs.intact hs.loading
  rw [hflatten] at hwrite
  unfold finish asked
  rw [Program.expand_bind]
  refine hwrite.bind ?_
  rintro ⟨loader, outcome⟩ t ht ⟨rfl, h⟩
  cases outcome with
  | error e =>
    obtain ⟨session, rfl⟩ := h
    exact hs.keeps_giveUp_writing e rfl ht
  | ok n =>
    obtain ⟨rfl, rfl⟩ := h
    rw [← List.append_nil pending] at hs
    have hwrote := hs.wrote ht
    refine (keeps_closeCursor k [] chunk exhausted ht hwrote.fetching).bind ?_
    rintro closed t ht' ⟨last, rfl⟩
    have hloading : ((s.put c (load.loading tables (rows ++ pending))).put k
        ⟨.pooled, {}, last⟩).clients c = load.loading tables (rows ++ pending) := by
      rw [World.clients_put_of_ne _ _ hs.apart.symm, World.clients_put]
    refine ⟨ht', rfl, fun d hd => World.pooled_put _ rfl (hwrote.others d hd), ⟨_, hloading⟩,
      fun n hn => ?_⟩
    obtain ⟨old, hold, hread⟩ := hwrote.read
    rw [List.append_nil] at hold hread
    refine ⟨rows ++ pending, hold ▸ hread, ?_, hloading⟩
    cases closed with
    | error e => cases hn
    | ok _ =>
      cases hn
      rw [List.length_append]

theorem keeps_pumpFrom {chunk : Nat} (hchunk : 0 < chunk) (size fetches : Nat)
    (hs : Pumping server load tables c k rows pending rest s)
    (hwidth : ∀ row ∈ server.rows load.query, row.length = load.columns.length) :
    (load.asked (pumpFrom size fetches ⟨k, load.name, chunk, false⟩ (load.loader c) rows.length
      pending)).Keeps server.Step (load.Intact tables)
      (fun (loader, outcome) t => load.Pumped server tables c loader outcome t) s := by
  -- one round keeps `Pumping`, for more rows written and fewer left to read
  induction fetches generalizing s rows pending rest with
  | zero => exact hs.intact
  | succ fetches ih =>
    unfold pumpFrom
    refine (keeps_nextChunk k chunk hs.intact hs.fetching).bind ?_
    rintro ⟨cursor, outcome⟩ t ht ⟨hcursor, session, rfl, hnext⟩
    cases outcome with
    | error e => exact hs.keeps_giveUp_reading e hcursor ht
    | ok new =>
      obtain ⟨rfl, rfl, hnew⟩ := hnext new rfl
      have hlength := Outcome.length_of_mapM hnew
      have hfetched := hs.fetched hnew ht
      cases new with
      | nil =>
        -- chunks are not empty before the cursor is through
        have hend : rest = [] := by
          rw [List.length_nil, List.length_take] at hlength
          exact List.eq_nil_of_length_eq_zero (by omega)
        subst hend
        rw [List.append_nil, List.drop_nil] at hfetched
        rw [List.drop_nil]
        exact hfetched.keeps_finish hwidth
      | cons row more =>
        -- full batches are written now, and what is left of them waits for the next chunk
        have hsplit := Replica.flatten_splitBatches size (pending ++ row :: more)
        dsimp only
        generalize splitBatches size (pending ++ row :: more) = parts at hsplit
        obtain ⟨batches, left⟩ := parts
        replace hsplit : batches.flatten ++ left = pending ++ row :: more := hsplit
        rw [← hsplit] at hfetched
        have hbatches : ∀ batch ∈ batches, ∀ row ∈ batch, row.length = load.columns.length :=
          fun batch hbatch row hrow => hfetched.width hwidth row
            (List.mem_append_left _ (List.mem_flatten.2 ⟨batch, hbatch, hrow⟩))
        have hmore : (rest.take chunk).isEmpty = false := by
          rw [List.isEmpty_eq_false_iff]
          intro hnone
          rw [hnone] at hlength
          cases hlength
        rw [hmore, Program.expand_bind]
        refine (keeps_writeBatches server c rows.length hbatches ht hfetched.loading).bind ?_
        rintro ⟨loader, outcome⟩ t ht' ⟨rfl, h⟩
        cases outcome with
        | error e =>
          obtain ⟨session, rfl⟩ := h
          exact hfetched.keeps_giveUp_writing e rfl ht'
        | ok n =>
          obtain ⟨rfl, rfl⟩ := h
          rw [← List.length_append]
          exact ih (hfetched.wrote ht')

end Pumping

theorem keeps_pump (pace : Pace) {c : γ} (hs : load.Intact tables s)
    (hc : s.clients c = load.loading tables [])
    (hothers : ∀ d, d ≠ c → (s.clients d).standing = .pooled)
    (hwidth : ∀ row ∈ server.rows load.query, row.length = load.columns.length) :
    (load.asked (pump pace load.name load.columns (load.loader c))).Keeps server.Step
      (load.Intact tables)
      (fun (loader, outcome) t => load.Pumped server tables c loader outcome t) s := by
  have hchunk : 0 < max pace.chunk 1 := Nat.lt_of_lt_of_le Nat.zero_lt_one (Nat.le_max_right _ _)
  have hne : ∀ k, (s.clients k).standing = .pooled → k ≠ c := by
    rintro k hk rfl
    rw [hc] at hk
    cases hk
  refine (keeps_openCursor (max pace.chunk 1) hs).bind fun outcome t ht hopen => ?_
  cases outcome with
  | error e =>
    refine ⟨ht, rfl, fun d hd => ?_, ⟨load.writing tables [], ?_⟩, fun _ h => nomatch h⟩
    · rcases hopen with rfl | ⟨k, hk, rfl⟩
      · exact hothers d hd
      · exact s.pooled_put rfl fun _ => hothers d hd
    · rcases hopen with rfl | ⟨k, hk, rfl⟩
      · exact hc
      · rw [World.clients_put_of_ne _ _ (hne k hk).symm]
        exact hc
  | ok cursor =>
    obtain ⟨k, rfl, hk, rfl⟩ := hopen
    have hpumping : Pumping server load tables c k [] [] (server.rows load.query)
        (s.put k (load.fetching (server.rows load.query))) := {
      intact := ht
      apart := hne k hk
      loading := by rw [World.clients_put_of_ne _ _ (hne k hk).symm, hc]
      fetching := World.clients_put ..
      others := fun d hd hdk => by rw [World.clients_put_of_ne _ _ hdk, hothers d hd]
      read := ⟨[], rfl, rfl⟩ }
    exact hpumping.keeps_pumpFrom hchunk _ pace.fetches hwidth

variable (load server tables) in
/-- How a load that has not been broken off ends. -/
structure Ended (outcome : Except Error Nat) (t : World γ) : Prop where
  pooled : ∀ c, (t.clients c).standing = .pooled
  failed : ∀ e, outcome = .error e → load.Intact tables t
  succeeded : ∀ n, outcome = .ok n → ∃ rows, load.Committed server tables rows t ∧ n = rows.length

theorem keeps_program (pace : Pace)
    (hwidth : ∀ row ∈ server.rows load.query, row.length = load.columns.length) :
    (load.program pace).Keeps server.Step (load.Sound server tables) (load.Ended server tables)
      (World.start tables : World γ) := by
  have hstart : load.Intact tables (World.start tables : World γ) := intact_start tables
  have hsound : ∀ u : World γ, load.Intact tables u → load.Sound server tables u := fun _ => .inl
  refine ((keeps_beginLoad hstart).within hsound).bind ?_
  rintro outcome t - ⟨ht, hbegin⟩
  cases outcome with
  | error e =>
    refine ⟨.inl ht, fun d => ?_, fun _ _ => ht, fun _ h => nomatch h⟩
    rcases hbegin with rfl | ⟨c, -, rfl⟩
    · rfl
    · exact World.pooled_put _ rfl fun _ => rfl
  | ok loader =>
    obtain ⟨c, rfl, -, hnew, rfl⟩ := hbegin
    have hothers : ∀ d, d ≠ c → (((World.start tables : World γ).put c
        (load.loading tables [])).clients d).standing = .pooled := by
      intro d hd
      rw [World.clients_put_of_ne _ _ hd]
      rfl
    show Keeps _ _ _ (Program.expand _ (Program.bind (pump pace _ _ (load.loader c)) _)) _
    rw [Program.expand_bind]
    refine ((keeps_pump pace ht (World.clients_put ..) hothers hwidth).within hsound).bind ?_
    rintro ⟨loader, outcome⟩ t - ⟨ht, hpumped⟩
    obtain rfl := hpumped.loader
    cases outcome with
    | error e =>
      obtain ⟨session, hc⟩ := hpumped.guarded
      refine ((keeps_rollback c ht hc).within hsound).bind ?_
      rintro _ u hu ⟨hu', last, rfl⟩
      exact ⟨hu, fun d => t.pooled_put rfl (hpumped.others d), fun _ _ => hu',
        fun _ h => nomatch h⟩
    | ok n =>
      obtain ⟨rows, hread, rfl, hc⟩ := hpumped.written n rfl
      refine (keeps_commit c hread hnew ht hc).bind fun outcome u hu h => ?_
      obtain ⟨⟨last, hclients⟩, houtcome⟩ := h
      refine ⟨hu, fun d => ?_, fun e he => ?_, fun n hn => ?_⟩
      · rw [hclients]
        exact t.pooled_put rfl (hpumped.others d)
      · cases outcome with
        | error e => exact houtcome
        | ok _ => cases he
      · cases outcome with
        | error e => cases hn
        | ok _ =>
          cases hn
          exact ⟨rows, houtcome, rfl⟩

/-! ## Runs -/

variable (load) in
/-- The text that opens the transaction of a client is under way, or the one that ends it. -/
def Interrupted (x : Client) : Prop :=
  (x.standing = .fresh ∧ ∃ sql succeeded, load.Opens sql ∧ x.last = some (sql, succeeded)) ∨
  (x.standing = .ending ∧ ∃ sql, (load.Opens sql ∧ x.last = some (sql, true)) ∨
    (load.Ends sql ∧ x.last = some (sql, false)))

theorem Stage.abandoned {x : Client} (h : load.Stage x) :
    x.abandoned.session = {} ∨ load.Interrupted x := by
  cases h with
  | pooled h => exact .inl rfl
  | fresh h => exact .inl rfl
  | opened h session succeeded => exact .inr (.inl ⟨rfl, _, _, h, rfl⟩)
  | guarded h session => exact .inl rfl
  | ending h session => exact .inr (.inr ⟨rfl, _, .inl ⟨h, rfl⟩⟩)
  | failed h session => exact .inr (.inr ⟨rfl, _, .inr ⟨h, rfl⟩⟩)
  | ended h => exact .inl rfl

/-- All triggers of a loaded table are enabled, whichever were before. -/
theorem triggers_loaded_iff (rows : List Row) {old : Content} (h : tables load.table = some old) :
    (load.loaded tables rows load.table).map (·.triggers) = some old.triggers ↔
      ∀ enabled ∈ old.triggers, enabled = true := by
  rw [loaded, Function.update_self, h, Option.map_some, Option.some.injEq]
  show old.triggers.map (fun _ => true) = old.triggers ↔ _
  induction old.triggers with
  | nil => simp
  | cons enabled rest ih =>
    rw [List.map_cons, List.cons.injEq, ih, List.forall_mem_cons, eq_comm (a := true)]

/-- Wherever a load stops, its table is either as before or complete, and complete only behind a
commit that succeeded; all triggers are enabled then, whichever were.  Clients in a pool have no
transaction, and those that are given back because the load was abandoned have none unless the text
that opens or ends one was under way. -/
theorem atomic_of_runs (pace : Pace)
    (hwidth : ∀ row ∈ server.rows load.query, row.length = load.columns.length)
    {out : Option (Except Error Nat)} {w : World γ}
    (h : Runs server.Step (load.program pace) (World.start tables) out w) :
    ((w.tables = tables ∧ ∀ c, (w.clients c).last ≠ some (load.commit, true)) ∨
      ∃ rows, (server.rows load.query).mapM textRow = .ok rows ∧
        (load.mode = .create → tables load.table = none) ∧
        w.tables = Function.update tables load.table
          (some (load.content true rows (tables load.table))) ∧
        (∃ c, (w.clients c).last = some (load.commit, true)) ∧
        ∀ old, tables load.table = some old →
          ((w.tables load.table).map (·.triggers) = some old.triggers ↔
            ∀ enabled ∈ old.triggers, enabled = true)) ∧
    (∀ c, (w.clients c).standing = .pooled →
      (w.clients c).session = {} ∧ load.Returned (w.clients c).last) ∧
    (∀ c, (w.clients c).abandoned.session = {} ∨ load.Interrupted (w.clients c)) ∧
    ∀ outcome, out = some outcome → (∀ c, (w.clients c).standing = .pooled) ∧
      (∀ n, outcome = .ok n → ∃ rows, (server.rows load.query).mapM textRow = .ok rows ∧
        n = rows.length ∧ w.tables = load.loaded tables rows) ∧
      ∀ e, outcome = .error e → w.tables = tables := by
  obtain ⟨hsound, hended⟩ := h.keeps (keeps_program pace hwidth)
  refine ⟨?_, fun c hpooled => ?_, fun c => (hsound.stage c).abandoned, fun outcome hout => ?_⟩
  · rcases hsound with hintact | ⟨rows, hcommitted⟩
    · exact .inl ⟨hintact.tables, hintact.uncommitted⟩
    · refine .inr ⟨rows, hcommitted.read, hcommitted.new, hcommitted.tables, hcommitted.committed,
        fun old hold => ?_⟩
      rw [hcommitted.tables]
      exact triggers_loaded_iff rows hold
  · obtain ⟨last, hlast, hc⟩ := (hsound.stage c).of_pooled hpooled
    rw [hc]
    exact ⟨rfl, hlast⟩
  · have hend := hended outcome hout
    refine ⟨hend.pooled, fun n hn => ?_, fun e he => (hend.failed e he).tables⟩
    obtain ⟨rows, hcommitted, hcount⟩ := hend.succeeded n hn
    exact ⟨rows, hcommitted.read, hcount, hcommitted.tables⟩

/-- The notes of a shop take the place of those of the day before. -/
def notesAgain : Load Unit where
  source := ⟨(), "shop"⟩
  warehouse := ⟨(), "w"⟩
  name := "note"
  table := "shop__note"
  columns := [⟨"id", .text, false, false⟩]
  mode := .replace

/-- A shop with one note. -/
def oneNote : Server where
  rows _ := [[some (Wire.ofText "8")]]
  fire old _ := old

/-- A warehouse with a table of notes that has two triggers, one of them disabled. -/
def yesterday : Tables := fun table =>
  if table = "shop__note" then some ⟨[], [[("id", some "7")]], [true, false]⟩ else none

theorem runs_notesAgain : ∃ w : World Bool,
    Runs oneNote.Step (notesAgain.program ⟨1, 1, 2⟩) (World.start yesterday) (some (.ok 1)) w := by
  have hout : ((notesAgain.program ⟨1, 1, 2⟩).run oneNote.answer
      (World.start yesterday)).1.bind Except.toOption = some 1 := by decide +kernel
  obtain ⟨outcome, hsome, hok⟩ := Option.bind_eq_some_iff.1 hout
  have hrun := Runs.of_run oneNote.step_answer (notesAgain.program ⟨1, 1, 2⟩)
    (World.start yesterday)
  rw [hsome, Outcome.toOption_eq_some.1 hok] at hrun
  exact ⟨_, hrun⟩

theorem width_oneNote : ∀ row ∈ oneNote.rows notesAgain.query,
    row.length = notesAgain.columns.length := by
  decide +kernel

theorem atomic_of_notesAgain :
    (∀ row ∈ oneNote.rows notesAgain.query, row.length = notesAgain.columns.length) ∧
    ∃ w : World Bool,
      Runs oneNote.Step (notesAgain.program ⟨1, 1, 2⟩) (World.start yesterday) (some (.ok 1)) w ∧
      (∀ c, (w.clients c).standing = .pooled ∧ (w.clients c).session = {}) ∧
      w.tables "shop__note" = some ⟨[], [[("id", some "8")]], [true, true]⟩ := by
  obtain ⟨w, hrun⟩ := runs_notesAgain
  obtain ⟨-, hpools, -, hended⟩ := atomic_of_runs ⟨1, 1, 2⟩ width_oneNote hrun
  obtain ⟨hpooled, hok, -⟩ := hended _ rfl
  obtain ⟨rows, hrows, -, htables⟩ := hok 1 rfl
  have hone : (oneNote.rows notesAgain.query).mapM textRow = .ok [[some "8"]] :=
    Outcome.toOption_eq_some.1 (by decide +kernel)
  obtain rfl : [[some "8"]] = rows := Except.ok.inj (hone.symm.trans hrows)
  refine ⟨width_oneNote, w, hrun, fun c => ⟨hpooled c, (hpools c (hpooled c)).1⟩, ?_⟩
  rw [htables]
  decide +kernel

/-- A load that is abandoned while it opens its transaction gives back its client as it is, and a
load that succeeds enables a trigger that was disabled. -/
theorem notesAgain_not_atomic :
    (∃ w : World Bool,
      Runs oneNote.Step (notesAgain.program ⟨1, 1, 2⟩) (World.start yesterday) none w ∧
      (w.clients false).abandoned.standing = .pooled ∧
      (w.clients false).abandoned.session.txn ≠ .idle) ∧
    ∃ w : World Bool,
      Runs oneNote.Step (notesAgain.program ⟨1, 1, 2⟩) (World.start yesterday) (some (.ok 1)) w ∧
      (yesterday "shop__note").map (·.triggers) = some [true, false] ∧
      (w.tables "shop__note").map (·.triggers) = some [true, true] := by
  constructor
  · have hout : oneNote.Step (π := Unit) (.checkOut ()) (World.start yesterday) (.ok false)
        ((World.start yesterday).stand false .fresh) := ⟨rfl, rfl⟩
    have hbatch : oneNote.Step (π := Unit) (.batch false notesAgain.setup)
        ((World.start yesterday).stand false .fresh) (.ok ()) _ :=
      ⟨_, _, notesAgain.readAll?_setup, rfl, rfl⟩
    refine ⟨_, .ask hout (.ask hbatch (.stopped _ _)), rfl, ?_⟩
    rintro h
    cases h
  · obtain ⟨w, hrun⟩ := runs_notesAgain
    refine ⟨w, hrun, rfl, ?_⟩
    obtain ⟨rows, hcommitted, -⟩ :=
      ((hrun.keeps (keeps_program _ width_oneNote)).2 _ rfl).succeeded 1 rfl
    rw [hcommitted.tables]
    rfl

end Load
end Granary.Postgres
