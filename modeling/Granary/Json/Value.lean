import Granary.Decimal.Shortest

/-!
# JSON values

Numbers are integers of one machine word, signed or unsigned, or doubles.  The fields of an object
stand in the order of their names, each name once; inserting a field again replaces its value.
-/

namespace Granary

/-- A number of a JSON text.  Integers lie between `-2 ^ 63` and `2 ^ 64 - 1`, doubles are
finite. -/
inductive Number where
  | int (value : Int)
  | float (value : Float)
  deriving BEq, Repr, Inhabited

namespace Number

/-- Positional for leading digits from the fifth decimal place to the sixteenth place before the
point, scientific beyond. -/
def style : Decimal.Style := ⟨-5, 15⟩

def text : Number → String
  | .int n => toString n
  | .float x => (style.float? x).getD "null"

/-- The value as an unsigned word. -/
def asNat? : Number → Option Nat
  | .int n => if 0 ≤ n then some n.toNat else none
  | .float _ => none

def toFloat : Number → Float
  | .int n => Float.ofInt n
  | .float x => x

end Number

/-- A JSON value. -/
inductive Json where
  | null
  | bool (value : Bool)
  | number (value : Number)
  | string (value : String)
  | array (items : List Json)
  | object (fields : List (String × Json))
  deriving BEq, Repr, Inhabited

namespace Json

/-- Adds a field at its place among fields in the order of their names, replacing one of the same
name. -/
def insertField (name : String) (value : Json) : List (String × Json) → List (String × Json)
  | [] => [(name, value)]
  | (other, old) :: rest =>
    if name = other then (name, value) :: rest
    else if name < other then (name, value) :: (other, old) :: rest
    else (other, old) :: insertField name value rest

/-- The object with the given fields; of fields with one name the last one counts. -/
def ofFields (fields : List (String × Json)) : Json :=
  .object (fields.foldl (fun acc f => insertField f.1 f.2 acc) [])

def int (n : Int) : Json := .number (.int n)

def nat (n : Nat) : Json := .number (.int n)

def strings (xs : List String) : Json := .array (xs.map .string)

/-- `null` for a missing value. -/
def ofOption {α : Type} (f : α → Json) : Option α → Json
  | some a => f a
  | none => .null

/-- The value of a field, `null` if there is none. -/
def field (j : Json) (name : String) : Json :=
  match j with
  | .object fields => ((fields.find? (·.1 == name)).map (·.2)).getD .null
  | _ => .null

/-- The value of a field that is present. -/
def field? (j : Json) (name : String) : Option Json :=
  match j with
  | .object fields => (fields.find? (·.1 == name)).map (·.2)
  | _ => none

def string? : Json → Option String
  | .string s => some s
  | _ => none

def items : Json → List Json
  | .array xs => xs
  | _ => []

end Json

end Granary
