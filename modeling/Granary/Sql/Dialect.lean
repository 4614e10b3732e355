import Granary.Json.Text
import Granary.Sql.Expr
import Granary.Text.Split

/-!
# PostgreSQL spelling

How the leaves of an expression are written: identifiers between double quotes, texts between
single quotes, each quote inside written twice.
-/

namespace Granary.Sql

/-- A text between two quote characters, with every quote inside written twice. -/
def enclose (q : Char) (s : String) : String :=
  String.ofList (q :: Text.double q s.toList ++ [q])

def quoteIdent (name : String) : String := enclose '"' name

def quoteText (value : String) : String := enclose '\'' value

/-- The placeholder of a parameter: they are written from one on. -/
def placeholder (index : Nat) : String := "$" ++ toString (index + 1)

def castTo (expr typeName : String) : String :=
  "CAST(" ++ expr ++ " AS " ++ quoteIdent typeName ++ ")"

def commas (parts : List String) : String := ", ".intercalate parts

mutual

/-- A constant; the items of a list stand side by side, an object is a text. -/
def literal : Json → String
  | .null => "NULL"
  | .bool b => toString b
  | .number n => n.text
  | .string s => quoteText s
  | .array items => commas (literals items)
  | .object fields => quoteText (Json.object fields).compact

def literals : List Json → List String
  | [] => []
  | item :: rest => literal item :: literals rest

end

def aggregated (aggregation : Aggregation) (arg : String) : String :=
  match aggregation with
  | .sum => "SUM(" ++ arg ++ ")"
  | .avg => "AVG(" ++ arg ++ ")"
  | .min => "MIN(" ++ arg ++ ")"
  | .max => "MAX(" ++ arg ++ ")"
  | .count => "COUNT(" ++ arg ++ ")"
  | .countDistinct => "COUNT(DISTINCT " ++ arg ++ ")"

/-- A function applied to written arguments.  A pattern is applied to one argument only. -/
def applied (function : Function) (args : List String) : String :=
  match function, args with
  | .dateTrunc grain, _ => "DATE_TRUNC('" ++ grain.name ++ "', " ++ commas args ++ ")"
  | .toChar format, [arg] => "TO_CHAR(" ++ arg ++ ", " ++ quoteText format ++ ")"
  | .toChar _, _ => "NULL"
  | .trim, _ => "TRIM(" ++ commas args ++ ")"

def JoinKind.keyword : JoinKind → String
  | .inner => "JOIN"
  | .left => "LEFT JOIN"
  | .right => "RIGHT JOIN"
  | .full => "FULL JOIN"
  | .cross => "CROSS JOIN"

def Direction.keyword : Direction → String
  | .asc => "ASC"
  | .desc => "DESC"

end Granary.Sql
