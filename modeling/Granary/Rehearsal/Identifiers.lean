import Granary.Rehearsal.Replication
import Granary.Replica.Name

/-!
# Rehearsing replication where long names are cut

A database keeps identifiers of a bounded length.  A longer one in a statement is cut without a
word, so that the statement is about the table of the shorter name; a name that is compared with
those in the catalog is compared as it is.
-/

namespace Granary.Rehearsal

open Replica (Answer Call keep longestIdentifier)

/-- The identifier that a name in a statement stands for. -/
def stored (name : String) : String := String.ofList (keep longestIdentifier name.toList)

namespace Stage

/-- Answers one call where the names of tables are cut. -/
def handleCut : (call : Call Cursor Loader) → Stage → Answer call × Stage
  | .dropTable table, s => handle (.dropTable (stored table)) s
  | .beginLoad table columns mode, s =>
    let (outcome, s) := handle (.beginLoad (stored table) columns mode) s
    (outcome.map fun loader => { loader with table }, s)
  | .commit loader, s => handle (.commit { loader with table := stored loader.table }) s
  | .finalize table key columns, s => handle (.finalize (stored table) key columns) s
  | .rowCount table, s => handle (.rowCount (stored table)) s
  | call, s => handle call s

end Stage

end Granary.Rehearsal
