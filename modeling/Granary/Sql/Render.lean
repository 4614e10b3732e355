import Granary.Sql.Dialect

/-!
# The text of a statement

A statement has two texts: one with placeholders, which is sent to the database together with the
parameter values, and one with the values written in place, which is only shown.
-/

namespace Granary.Sql

/-- What is written for a parameter. -/
inductive Binding where
  | placeholders
  | inlined (values : List String)
  deriving Repr

/-- A parameter without its cast; a number beyond the values is written as NULL. -/
def Binding.param (b : Binding) (index : Nat) : String :=
  match b with
  | .placeholders => placeholder index
  | .inlined values => (values[index]?.map quoteText).getD "NULL"

def columnText (table : Option String) (name : String) : String :=
  match table with
  | some t => quoteIdent t ++ "." ++ quoteIdent name
  | none => quoteIdent name

mutual

def Expr.render (b : Binding) : Expr → String
  | .column table name => columnText table name
  | .star => "*"
  | .literal value => Sql.literal value
  | .param index none => b.param index
  | .param index (some typeName) => castTo (b.param index) typeName
  | .aliased name => quoteIdent name
  | .call function args => applied function (renderAll b args)
  | .binary op left right =>
    "(" ++ left.render b ++ " " ++ op.symbol ++ " " ++ right.render b ++ ")"
  | .aggregate aggregation arg => aggregated aggregation (arg.render b)
  | .between subject low high negated =>
    "(" ++ subject.render b ++ " " ++ (if negated then "NOT " else "") ++ "BETWEEN " ++
      low.render b ++ " AND " ++ high.render b ++ ")"
  | .not inner => "NOT " ++ inner.render b

def renderAll (b : Binding) : List Expr → List String
  | [] => []
  | e :: rest => e.render b :: renderAll b rest

end

def SelectItem.render (b : Binding) (item : SelectItem) : String :=
  match item.alias? with
  | some name => item.expr.render b ++ " AS " ++ quoteIdent name
  | none => item.expr.render b

def TableRef.render (t : TableRef) : String :=
  match t.alias? with
  | some name => quoteIdent t.name ++ " " ++ quoteIdent name
  | none => quoteIdent t.name

def Join.render (b : Binding) (j : Join) : String :=
  " " ++ j.kind.keyword ++ " " ++ j.table.render ++
    if j.conditions.isEmpty then ""
    else " ON " ++ " AND ".intercalate (j.conditions.map (·.render b))

def OrderItem.render (b : Binding) (o : OrderItem) : String :=
  o.expr.render b ++ " " ++ o.direction.keyword

/-- A clause that is left out when it has no parts. -/
def clause (keyword : String) (parts : List String) : String :=
  if parts.isEmpty then "" else " " ++ keyword ++ " " ++ commas parts

def Select.render (b : Binding) (q : Select) : String :=
  "SELECT " ++ commas (q.items.map (·.render b)) ++ " FROM " ++ q.source.render ++
    String.join (q.joins.map (·.render b)) ++
    clause "WHERE" (q.condition.toList.map (·.render b)) ++
    clause "GROUP BY" (q.groupBy.map (·.render b)) ++
    clause "ORDER BY" (q.orderBy.map (·.render b)) ++
    clause "LIMIT" (q.limit.toList.map toString)

end Granary.Sql
