import Granary.Data.Decoder
import Granary.Named

/-!
# TOML values

A document is a table.  A table remembers how it came about, because that decides which later lines
may still add to it.
-/

namespace Granary

namespace Toml

/-- How a table came about. -/
inductive Origin where
  /-- Written as a value, between braces. -/
  | braces
  /-- By a header of its own. -/
  | header
  /-- As a part of the path of some header. -/
  | path
  /-- As a part of the dotted key of an assignment. -/
  | dotted
  deriving DecidableEq, Repr, Inhabited

end Toml

inductive Toml where
  | string (value : String)
  | integer (value : Int)
  | float (value : Float)
  | boolean (value : Bool)
  /-- A date, a time of day or both, of which nothing is kept. -/
  | moment
  | array (items : List Toml)
  | table (origin : Toml.Origin) (entries : List (String × Toml))
  /-- The tables of one repeated header. -/
  | tables (items : List (List (String × Toml)))
  deriving Repr, Inhabited

namespace Toml

def foundIn : Toml → Data.Found
  | .string s => .string s
  | .integer n => .number (.int n)
  | .float x => .number (.float x)
  | .boolean b => .bool b
  | .array _ | .tables _ => .sequence
  | .moment | .table .. => .map

/-- Values are of one kind each.  A moment counts as a table without fields that anyone asks for. -/
instance : Data.Form Toml where
  shape
    | .array items => .list items
    | .tables items => .list (items.map (.table .header))
    | .table _ entries => .map entries
    | .moment => .map []
    | _ => .scalar
  text?
    | .string s => some s
    | _ => none
  integer?
    | .integer n => some n
    | _ => none
  bool?
    | .boolean b => some b
    | _ => none
  isNull _ := false
  found := foundIn
  exact := false

end Toml

end Granary
