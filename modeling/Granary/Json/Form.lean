import Granary.Data.Decoder

/-!
# JSON as a data format

Every value is of exactly one kind; nothing is converted.
-/

namespace Granary.Json

def foundIn : Json → Data.Found
  | .null => .null
  | .bool b => .bool b
  | .number n => .number n
  | .string s => .string s
  | .array _ => .sequence
  | .object _ => .map

instance : Data.Form Json where
  shape
    | .array items => .list items
    | .object fields => .map fields
    | _ => .scalar
  text? := string?
  integer?
    | .number (.int n) => some n
    | _ => none
  bool?
    | .bool b => some b
    | _ => none
  isNull
    | .null => true
    | _ => false
  found := foundIn
  exact := true

/-- A value taken as it is. -/
def asIs : Data.Decoder Json Json := .ok

end Granary.Json
