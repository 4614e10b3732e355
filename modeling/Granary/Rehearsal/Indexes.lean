import Granary.Postgres.Statements
import Granary.Rehearsal.Replication

/-!
# Rehearsing replication on tables with indexes

Tables, indexes and all other relations of a warehouse share one set of names.  An index whose name
is taken is silently not created, an index goes when its table is dropped, and a table whose name is
taken cannot be created.
-/

namespace Granary.Rehearsal

open Replica (Answer Call Column)

/-- An index of one column. -/
structure Index where
  name : String
  table : String
  column : String
  deriving DecidableEq, Repr, Inhabited

namespace Index

/-- The index that a column is to have, if any. -/
def ofColumn? (table : String) (c : Column) : Option Index :=
  (Postgres.indexKind c.type).map fun kind => ⟨Replica.indexName table c.name kind, table, c.name⟩

/-- Creates the index unless its name is taken. -/
def statement (i : Index) : String :=
  "CREATE INDEX IF NOT EXISTS " ++ Sql.quoteIdent i.name ++ " ON " ++ Sql.quoteIdent i.table ++
    " (" ++ Sql.quoteIdent i.column ++ ")"

end Index

/-- Databases whose warehouse has indexes, and relations that are neither tables nor indexes. -/
structure Indexed where
  stage : Stage := {}
  indexes : List Index := []
  relations : List String := []

namespace Indexed

/-- Whether the name of a relation is that of something else than a table. -/
def reserved (s : Indexed) (name : String) : Bool :=
  s.indexes.any (·.name == name) || s.relations.contains name

def taken (s : Indexed) (name : String) : Bool := s.stage.warehouse.has name || s.reserved name

def createIndex (s : Indexed) (i : Index) : Indexed :=
  if s.taken i.name then s else { s with indexes := s.indexes ++ [i] }

/-- Answers one call. -/
def handle : (call : Call Cursor Loader) → Indexed → Answer call × Indexed
  | .dropTable table, s =>
    let (outcome, stage) := Stage.handle (.dropTable table) s.stage
    match outcome with
    | .error e => (.error e, { s with stage })
    | .ok () => (.ok (), { s with stage, indexes := s.indexes.filter (·.table != table) })
  | .beginLoad table columns mode, s =>
    let (outcome, stage) := Stage.handle (.beginLoad table columns mode) s.stage
    if mode = .create ∧ s.reserved table = true then
      (.error (.execution (.tableExists table)), { s with stage })
    else (outcome, { s with stage })
  | .finalize table key columns, s =>
    let (outcome, stage) := Stage.handle (.finalize table key columns) s.stage
    match outcome with
    | .error e => (.error e, { s with stage })
    | .ok () =>
      (.ok (), (columns.filterMap (Index.ofColumn? table)).foldl createIndex { s with stage })
  | call, s =>
    let (answer, stage) := Stage.handle call s.stage
    (answer, { s with stage })

end Indexed

end Granary.Rehearsal
