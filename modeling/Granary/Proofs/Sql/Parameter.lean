import Granary.Sql.Expr

/-!
# The parameters of a statement

The parameters of an expression as they stand in it from left to right, each with the operand that
it is compared with.  For a range these are the lower and the upper end behind the subject.
-/

namespace Granary
namespace Sql

/-- A parameter where it stands in an expression. -/
structure Parameter where
  /-- What it is compared with: the left operand, or the subject of a range. -/
  subject? : Option Expr
  index : Nat
  cast : Option String
  deriving BEq, Repr

mutual

def Expr.parameters (subject? : Option Expr) : Expr → List Parameter
  | .column _ _ | .star | .literal _ | .aliased _ => []
  | .param index cast => [⟨subject?, index, cast⟩]
  | .call _ args => parametersAll args
  | .binary _ left right => left.parameters none ++ right.parameters (some left)
  | .aggregate _ arg => arg.parameters none
  | .between subject low high _ =>
    subject.parameters none ++ low.parameters (some subject) ++ high.parameters (some subject)
  | .not inner => inner.parameters none

def parametersAll : List Expr → List Parameter
  | [] => []
  | e :: rest => e.parameters none ++ parametersAll rest

end

theorem parametersAll_eq_flatMap (es : List Expr) :
    parametersAll es = es.flatMap (·.parameters none) := by
  induction es with
  | nil => rfl
  | cons e rest ih => rw [parametersAll, ih, List.flatMap_cons]

namespace Select

/-- The parameters of the condition that rows are kept by. -/
def conditionParameters (q : Select) : List Parameter :=
  parametersAll q.condition.toList

/-- The expressions of a statement but for that condition. -/
def otherExprs (q : Select) : List Expr :=
  q.items.map (·.expr) ++ q.joins.flatMap (·.conditions) ++ q.groupBy ++ q.orderBy.map (·.expr)

end Select
end Sql
end Granary
