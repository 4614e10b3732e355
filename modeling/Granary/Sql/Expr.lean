import Granary.Json.Value

/-!
# SQL expressions

The expressions that compiled queries are made of.  Parameters are numbered from zero and may be
cast to the type of the column they are compared with.
-/

namespace Granary.Sql

inductive Aggregation where
  | sum | avg | min | max | count | countDistinct
  deriving DecidableEq, Repr, Inhabited

/-- The calendar unit that a date is cut down to. -/
inductive Grain where
  | day | week | month
  deriving DecidableEq, Repr, Inhabited

def Grain.name : Grain → String
  | .day => "day"
  | .week => "week"
  | .month => "month"

inductive Function where
  /-- The start of the calendar unit around a date. -/
  | dateTrunc (grain : Grain)
  /-- A date written after a pattern. -/
  | toChar (format : String)
  | trim
  deriving DecidableEq, Repr, Inhabited

inductive Operator where
  | and | or | eq | neq | gt | gte | lt | lte | like
  deriving DecidableEq, Repr, Inhabited

def Operator.symbol : Operator → String
  | .and => "AND"
  | .or => "OR"
  | .eq => "="
  | .neq => "!="
  | .gt => ">"
  | .gte => ">="
  | .lt => "<"
  | .lte => "<="
  | .like => "LIKE"

inductive Expr where
  | column (table : Option String) (name : String)
  /-- The bare star, which only COUNT takes. -/
  | star
  | literal (value : Json)
  /-- The parameter of the given number, counted from zero. -/
  | param (index : Nat) (cast : Option String)
  /-- A name given in the select list, in ORDER BY. -/
  | aliased (name : String)
  | call (function : Function) (args : List Expr)
  | binary (op : Operator) (left right : Expr)
  | aggregate (aggregation : Aggregation) (arg : Expr)
  | between (subject low high : Expr) (negated : Bool)
  | not (inner : Expr)
  deriving Repr, Inhabited

mutual

/-- Whether two expressions are written alike. -/
def Expr.same : Expr → Expr → Bool
  | .column table name, .column table' name' => table == table' && name == name'
  | .star, .star => true
  | .literal value, .literal value' => value == value'
  | .param index cast, .param index' cast' => index == index' && cast == cast'
  | .aliased name, .aliased name' => name == name'
  | .call function args, .call function' args' => function == function' && sameAll args args'
  | .binary op left right, .binary op' left' right' =>
    op == op' && left.same left' && right.same right'
  | .aggregate aggregation arg, .aggregate aggregation' arg' =>
    aggregation == aggregation' && arg.same arg'
  | .between subject low high negated, .between subject' low' high' negated' =>
    subject.same subject' && low.same low' && high.same high' && negated == negated'
  | .not inner, .not inner' => inner.same inner'
  | _, _ => false

def sameAll : List Expr → List Expr → Bool
  | [], [] => true
  | e :: rest, e' :: rest' => e.same e' && sameAll rest rest'
  | _, _ => false

end

instance : BEq Expr := ⟨Expr.same⟩

inductive JoinKind where
  | inner | left | right | full | cross
  deriving DecidableEq, Repr, Inhabited

inductive Direction where
  | asc | desc
  deriving DecidableEq, Repr, Inhabited

structure SelectItem where
  expr : Expr
  alias? : Option String
  deriving BEq, Repr, Inhabited

structure TableRef where
  name : String
  alias? : Option String := none
  deriving DecidableEq, Repr, Inhabited

structure Join where
  kind : JoinKind
  table : TableRef
  /-- The conjuncts of the join condition; none for a cross join. -/
  conditions : List Expr
  deriving BEq, Repr, Inhabited

structure OrderItem where
  expr : Expr
  direction : Direction
  deriving BEq, Repr, Inhabited

/-- A SELECT statement. -/
structure Select where
  items : List SelectItem := []
  source : TableRef := ⟨"", none⟩
  joins : List Join := []
  condition : Option Expr := none
  groupBy : List Expr := []
  orderBy : List OrderItem := []
  limit : Option Nat := none
  deriving BEq, Repr, Inhabited

end Granary.Sql
