import Granary.Replica.Call

/-!
# Copying one table

The rows of a cursor go to a loader in batches of one size, whatever the sizes of the chunks they
come in.  The loader commits once the cursor has delivered everything and is closed; after any
failure it rolls back, and the failure reported is the first one.
-/

namespace Granary.Replica

/-- The greatest number of parameters of one statement. -/
def mostParameters : Nat := 65535

/-- How many rows one statement writes, so that its parameters stay within the limit. -/
def batchSize (wanted columns : Nat) : Nat :=
  min (max wanted 1) (max (mostParameters / max columns 1) 1)

/-- The full batches at the front of some rows, and the rows that are left. -/
def splitBatches (size : Nat) (rows : List Row) : List (List Row) × List Row :=
  if _h : 0 < size ∧ size ≤ rows.length then
    let (batches, rest) := splitBatches size (rows.drop size)
    (rows.take size :: batches, rest)
  else ([], rows)
termination_by rows.length
decreasing_by
  simp only [List.length_drop]
  omega

/-- A failure to copy into a table, unless it already is one. -/
def copyFailure (table : String) : Error → Error
  | .bulkCopyFailure inner cause => .bulkCopyFailure inner cause
  | cause => .bulkCopyFailure table cause

variable {κ ω : Type}

/-- Writes batches one after another and counts the rows written. -/
def writeBatches (loader : ω) (written : Nat) :
    List (List Row) → Work κ ω (ω × Except Error Nat)
  | [] => .done (loader, .ok written)
  | batch :: rest => .ask (.insertBatch loader batch) fun (loader, count) =>
    match count with
    | .error e => .done (loader, .error e)
    | .ok n => writeBatches loader (written + n) rest

/-- Ends a copy that failed while its cursor was open. -/
def giveUp (cursor : κ) (loader : ω) (e : Error) : Work κ ω (ω × Except Error Nat) :=
  .ask (.dropCursor cursor) fun () => .done (loader, .error e)

/-- Writes the rows that are left and closes the cursor. -/
def finish (cursor : κ) (loader : ω) (written : Nat) (pending : List Row) :
    Work κ ω (ω × Except Error Nat) :=
  (writeBatches loader written (if pending.isEmpty then [] else [pending])).bind
    fun (loader, outcome) =>
      match outcome with
      | .error e => giveUp cursor loader e
      | .ok written => .ask (.closeCursor cursor) fun closed =>
        .done (loader, closed.map fun () => written)

/-- Reads chunks and writes full batches until a chunk is empty; `pending` rows have been read and
not yet written.  The first argument is how many chunks may be read. -/
def pumpFrom (size : Nat) : Nat → κ → ω → Nat → List Row → Work κ ω (ω × Except Error Nat)
  | 0, _, _, _, _ => .spent
  | fetches + 1, cursor, loader, written, pending =>
    .ask (.nextChunk cursor) fun (cursor, chunk) =>
      match chunk with
      | .error e => giveUp cursor loader e
      | .ok [] => finish cursor loader written pending
      | .ok (row :: rows) =>
        let (batches, rest) := splitBatches size (pending ++ row :: rows)
        (writeBatches loader written batches).bind fun (loader, outcome) =>
          match outcome with
          | .error e => giveUp cursor loader e
          | .ok written => pumpFrom size fetches cursor loader written rest

/-- How rows are moved. -/
structure Pace where
  /-- Rows asked for at a time. -/
  chunk : Nat
  /-- Rows wanted in one statement. -/
  batch : Nat
  /-- How many chunks may be read from one table. -/
  fetches : Nat
  deriving DecidableEq, Repr, Inhabited

/-- Moves all rows of a source table to a loader. -/
def pump (pace : Pace) (source : String) (columns : List Column) (loader : ω) :
    Work κ ω (ω × Except Error Nat) :=
  .ask (.openCursor source columns (max pace.chunk 1)) fun
    | .error e => .done (loader, .error e)
    | .ok cursor =>
      pumpFrom (batchSize pace.batch columns.length) pace.fetches cursor loader 0 []

/-- Copies a source table into a warehouse table, in one transaction, and counts the rows. -/
def copyTable (pace : Pace) (source table : String) (columns : List Column) (mode : LoadMode) :
    Attempt κ ω Nat :=
  .mk <| .ask (.beginLoad table columns mode) fun
    | .error e => .done (.error (copyFailure table e))
    | .ok loader => (pump pace source columns loader).bind fun (loader, outcome) =>
      match outcome with
      | .ok rows => .ask (.commit loader) fun committed =>
        .done ((committed.map fun () => rows).mapError (copyFailure table))
      | .error e => .ask (.rollback loader) fun _ => .done (.error (copyFailure table e))

end Granary.Replica
