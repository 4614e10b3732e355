import Granary.Json.Form
import Granary.Text.Blank

/-!
# Filters

A filter compares a column with a value.  Filters come from forms in which rows may be left
unfinished: a filter without a column or without a value is blank and counts for nothing.
-/

namespace Granary

namespace Filter

inductive Operator where
  | eq | neq | gt | lt | gte | lte | like | between
  deriving DecidableEq, Repr, Inhabited

/-- How a filter joins the ones before it. -/
inductive Logic where
  | and | or
  deriving DecidableEq, Repr, Inhabited

/-- Whether the rows that satisfy the comparison are kept or left out. -/
inductive Mode where
  | keep | leaveOut
  deriving DecidableEq, Repr, Inhabited

namespace Operator

def choice : Data.Choice Operator where
  variants := [(.eq, ["="]), (.neq, ["!=", "<>"]), (.gt, [">"]), (.lt, ["<"]), (.gte, [">="]),
    (.lte, ["<="]), (.like, ["LIKE", "like"]), (.between, ["BETWEEN", "between"])]
  other := none

def name : Operator → String
  | .eq => "="
  | .neq => "!="
  | .gt => ">"
  | .lt => "<"
  | .gte => ">="
  | .lte => "<="
  | .like => "like"
  | .between => "between"

end Operator

namespace Logic

def choice : Data.Choice Logic where
  variants := [(.and, ["AND", "and"]), (.or, ["OR", "or"])]
  other := none

def name : Logic → String
  | .and => "and"
  | .or => "or"

end Logic

namespace Mode

def choice : Data.Choice Mode where
  variants := [(.keep, ["INCLUDE", "include"]), (.leaveOut, ["EXCLUDE", "exclude"])]
  other := none

def name : Mode → String
  | .keep => "include"
  | .leaveOut => "exclude"

end Mode

end Filter

structure Filter where
  column : Option String := none
  operator : Filter.Operator := .eq
  /-- What the column is compared with; null when no value was given. -/
  value : Json := .null
  logic : Filter.Logic := .and
  mode : Filter.Mode := .keep
  deriving BEq, Repr, Inhabited

namespace Filter

/-- The text that a scalar is bound as. -/
def scalarText : Json → Option String
  | .string s => some s
  | .number n => some n.text
  | .bool b => some (toString b)
  | _ => none

def isScalar (v : Json) : Bool := (scalarText v).isSome

/-- Whether a value counts as not given. -/
def noValue : Json → Bool
  | .null => true
  | .string s => Text.allBlank s
  | _ => false

/-- Whether the filter is unfinished and contributes nothing. -/
def isBlank (f : Filter) : Bool := (f.column.map Text.allBlank).getD true || noValue f.value

/-- The column as written, empty when none was given. -/
def columnText (f : Filter) : String := f.column.getD ""

/-- What a filter says about the value it needs. -/
def validate (f : Filter) : Except Refusal Unit :=
  if f.isBlank then .ok ()
  else
    match f.operator, f.value with
    | .between, .array items =>
      if items.length = 2 ∧ items.all isScalar then .ok ()
      else .error (.betweenWantsTwo f.columnText)
    | .between, _ => .error (.betweenWantsPair f.columnText)
    | _, value => if isScalar value then .ok () else .error (.wantsSingleValue f.columnText)

def decode : Data.Decoder Json Filter :=
  Data.record "FilterDescriptor" <|
    mk <$> Data.fieldOr "column" none (Data.optional Data.text)
      <*> Data.fieldOr "operator" .eq Operator.choice.decode
      <*> Data.fieldOr "value" .null Json.asIs
      <*> Data.fieldOr "logic" .and Logic.choice.decode
      <*> Data.fieldOr "mode" .keep Mode.choice.decode

def toJson (f : Filter) : Json :=
  Json.ofFields [("column", Json.ofOption .string f.column), ("operator", .string f.operator.name),
    ("value", f.value), ("logic", .string f.logic.name), ("mode", .string f.mode.name)]

/-- The filters of a request: whatever is not a list of objects counts as no filters. -/
def decodeAll : Data.Decoder Json (List Filter)
  | .array items =>
    (items.filter fun item => match item with | .object _ => true | _ => false).mapM decode
  | _ => .ok []

end Filter

end Granary
