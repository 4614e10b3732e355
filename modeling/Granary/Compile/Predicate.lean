import Granary.Compile.Scope
import Granary.Request.Filter

/-!
# Filters as one predicate

Filters are joined from left to right, each to all before it by its own logic, so the logic of the
first does not matter.  Values never enter the predicate: they are bound to parameters, which are
numbered in the order in which the predicate has them.
-/

namespace Granary

open Sql (Expr)

/-- A predicate and the values of its parameters. -/
structure Predicate where
  /-- None if no filter contributes, so that every row is kept. -/
  expr : Option Expr := none
  params : List String := []
  deriving BEq, Repr, Inhabited

namespace Filter

/-- The comparison of an operator that is neither a range nor a pattern. -/
def Operator.comparison : Operator → Sql.Operator
  | .neq => .neq
  | .gt => .gt
  | .lt => .lt
  | .gte => .gte
  | .lte => .lte
  | .like => .like
  | _ => .eq

def Logic.operator : Logic → Sql.Operator
  | .and => .and
  | .or => .or

/-- The two ends of a range. -/
def range (f : Filter) : Except Refusal (String × String) :=
  match f.value with
  | .array [low, high] =>
    match scalarText low, scalarText high with
    | some low, some high => .ok (low, high)
    | _, _ => .error (.betweenWantsTwo f.columnText)
  | _ => .error (.betweenWantsTwo f.columnText)

/-- The comparison that a filter makes, its parameters numbered from `bound` on. -/
def clause (f : Filter) (scope : Scope) (bound : Nat) : Except Error (Expr × List String) := do
  let column ← scope.resolve f.columnText
  match f.operator with
  | .between =>
    let (low, high) ← f.range.mapError .validation
    return (.between column.expr (.param bound column.type?) (.param (bound + 1) column.type?)
      (f.mode == .leaveOut), [low, high])
  | operator =>
    let some text := scalarText f.value
      | throw (.validation (.wantsSingleValue f.columnText))
    let (value, cast) :=
      if operator = .like then ("%" ++ text ++ "%", none) else (text, column.type?)
    let comparison := .binary operator.comparison column.expr (.param bound cast)
    return (if f.mode = .leaveOut then .not comparison else comparison, [value])

end Filter

namespace Predicate

/-- Adds what a filter says; a blank one says nothing. -/
def add (scope : Scope) (p : Predicate) (f : Filter) : Except Error Predicate :=
  if f.isBlank then .ok p
  else do
    let (clause, values) ← f.clause scope p.params.length
    let expr := match p.expr with
      | none => clause
      | some before => .binary f.logic.operator before clause
    return ⟨some expr, p.params ++ values⟩

/-- The predicate of some filters. -/
def ofFilters (scope : Scope) (filters : List Filter) : Except Error Predicate :=
  filters.foldlM (add scope) {}

/-- The predicate of some filters on columns that are not looked up. -/
def unscoped (filters : List Filter) : Except Error Predicate := ofFilters ⟨"", [], none⟩ filters

end Predicate

end Granary
