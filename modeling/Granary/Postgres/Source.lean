import Granary.Postgres.Catalog
import Granary.Postgres.Statements
import Granary.Replica.Call

/-!
# Reading source tables

A table is read through a cursor in a transaction of its own.  The client of an open cursor is
guarded, and goes back to its pool only when the cursor has been closed.
-/

namespace Granary.Postgres

open Replica (Column Row SourceColumn SourceTable)

/-- An open cursor. -/
structure Cursor (γ : Type) where
  client : γ
  table : String
  chunk : Nat
  /-- Whether the last rows have been read. -/
  exhausted : Bool := false
  deriving Repr, Inhabited

/-- The cells of a row as texts; the first that is no text is told by its position. -/
def textRow (cells : List Cell) : Except Nat Row :=
  cells.zipIdx.mapM fun (cell, i) =>
    match cell with
    | none => .ok none
    | some octets =>
      match Wire.text? octets with
      | some s => .ok (some s)
      | none => .error i

variable {π γ : Type}

namespace Database

/-- Describes a source table.  The catalog is asked without regard to letter case, so what belongs
to tables of other names is left out. -/
def describeSource (d : Database π) (table : String) : Attempt π γ SourceTable := do
  let columns ← d.columns (some table)
  let keys ← d.primaryKeys (some table)
  let own := keys.filter (·.table == table)
  return {
    name := table
    columns := (columns.filter (·.table == table)).map SourceColumn.ofRecord
    primaryKey := (sortBy (fun a b => a.position ≤ b.position) own).map (·.column) }

/-- Opens a cursor; a client that could not open one is discarded. -/
def openCursor (d : Database π) (table : String) (columns : List Column) (chunk : Nat) :
    Attempt π γ (Cursor γ) :=
  .mk <| .ask (.checkOut d.pool) fun
    | .error fault => .done (.error (.execution fault))
    | .ok client => .ask (.batch client (Statements.openCursor d.schema table columns)) fun
      | .error fault => .ask (.discard client) fun () =>
        .done (.error (Attempt.faultOf (.openCursor table) fault))
      | .ok () => .ask (.guard client) fun () => .done (.ok ⟨client, table, chunk, false⟩)

end Database

namespace Cursor

/-- The next rows; once there were none, there are none without asking. -/
def next (c : Cursor γ) : Work π γ (Cursor γ × Except Error (List Row)) :=
  if c.exhausted then .done (c, .ok [])
  else
    (Attempt.query c.client (.fetchRows c.table) (Statements.fetch c.chunk) []).run.bind fun
      | .error e => .done (c, .error e)
      | .ok result =>
        let rows := (result.rows.mapM textRow).mapError fun column =>
          Attempt.faultOf .decodeRow (.undecodable column)
        .done ({ c with exhausted := result.rows.isEmpty }, rows)

/-- Closes the cursor; its client goes back only if that succeeds. -/
def close (c : Cursor γ) : Attempt π γ Unit :=
  .mk <| .ask (.unguard c.client) fun () =>
    .ask (.batch c.client Statements.closeCursor) fun
      | .error fault => .ask (.discard c.client) fun () =>
        .done (.error (Attempt.faultOf .closeCursor fault))
      | .ok () => .ask (.giveBack c.client) fun () => .done (.ok ())

/-- Drops the cursor with its transaction. -/
def drop (c : Cursor γ) : Work π γ Unit := .ask (.discard c.client) .done

end Cursor

end Granary.Postgres
