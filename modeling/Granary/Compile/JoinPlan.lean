import Granary.Compile.Scope
import Granary.Request.Join
import Granary.Schema.JoinKey

/-!
# Planning joins

Each requested join attaches to the table joined before it.  Its condition is the one requested, or
else the way in which the catalog says that the two tables belong together.
-/

namespace Granary

open Text (lowercase trim)

/-- The joins planned so far: the tables in scope, the table joined last, and the clauses. -/
structure JoinPlan where
  scope : Scope
  previous : String
  clauses : List Sql.Join := []
  deriving Repr, Inhabited

namespace JoinPlan

def start (scope : Scope) : JoinPlan := ⟨scope, scope.root, []⟩

/-- The condition of a join to `table`, for the tables in scope. -/
def conditions (plan : JoinPlan) (join : Requested.Join) (table : String) :
    Except Error (List Sql.Expr) :=
  match join.kind, join.on with
  | .cross, _ => .ok []
  | _, some on => do
    let scope := plan.scope.add table
    let left ← scope.resolve on.left
    let right ← scope.resolveOn table on.right
    return [.binary .eq left.expr right.expr]
  | _, none =>
    match plan.scope.snapshot? with
    | none => .error (.validation (.joinWantsSnapshot table))
    | some snapshot =>
      match snapshot.joinKey? plan.previous table with
      | none => .error (.joinNotFound plan.previous table)
      | some key => .ok [key.condition snapshot]

/-- Whether a table may be joined: with a snapshot it must be there. -/
def checkTable (scope : Scope) (table : String) : Except Error Unit :=
  match scope.snapshot? with
  | some snapshot => if snapshot.hasTable table then .ok () else .error (.unknownTable table)
  | none => .ok ()

/-- A table as statements spell it. -/
def spelling (scope : Scope) (table : String) : String :=
  match scope.snapshot? with
  | some snapshot => snapshot.tableSpelling table
  | none => table

def add (plan : JoinPlan) (join : Requested.Join) : Except Error JoinPlan := do
  let table := lowercase (trim join.table)
  checkTable plan.scope table
  let conditions ← plan.conditions join table
  return ⟨plan.scope.add table, table,
    plan.clauses ++ [⟨join.kind, ⟨spelling plan.scope table, none⟩, conditions⟩]⟩

def ofRequested (scope : Scope) (joins : List Requested.Join) : Except Error JoinPlan :=
  joins.foldlM add (start scope)

end JoinPlan

end Granary
