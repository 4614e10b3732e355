import Granary.Data.Decoder
import Granary.Yaml.Scalar

/-!
# YAML values

A scalar keeps its text as it is written, since what a text stands for depends on what is asked of
it.
-/

namespace Granary

inductive Yaml where
  | scalar (scalar : Yaml.Scalar) (tag : Option String)
  | sequence (items : List Yaml)
  | mapping (entries : List (Yaml × Yaml))
  deriving Repr, Inhabited

namespace Yaml

/-- The tag of nulls. -/
def nullTag : String := "tag:yaml.org,2002:null"

def isNullWord (s : String) : Bool := s = "null" || s = "Null" || s = "NULL" || s = "~"

/-- Whether a scalar is null: only plain ones are, and those with another tag are not. -/
def isNullScalar (s : Scalar) (tag : Option String) : Bool :=
  s.plain &&
    match tag with
    | none => s.text.isEmpty || isNullWord s.text
    | some tag => tag == nullTag && isNullWord s.text

/-- The digits behind a mark that tells their base. -/
def based? : List Char → Option Nat
  | '0' :: 'x' :: digits => Text.numeral? 16 digits
  | '0' :: 'o' :: digits => Text.numeral? 8 digits
  | '0' :: 'b' :: digits => Text.numeral? 2 digits
  | _ => none

/-- The number of a plain scalar.  Decimal digits do not begin with a needless zero. -/
def number? (s : Scalar) : Option Nat :=
  let digits := match s.text.toList with
    | '+' :: digits => digits
    | digits => digits
  if !s.plain then none
  else if digits.head? = some '0' ∧ digits.length > 1 then based? digits
  else Text.numeral? 10 digits

def text? : Yaml → Option String
  | .scalar s _ => some s.text
  | _ => none

/-- The entries of a mapping whose keys are all scalars. -/
def named? (entries : List (Yaml × Yaml)) : Option (List (String × Yaml)) :=
  entries.mapM fun e => e.1.text?.map (·, e.2)

def foundIn : Yaml → Data.Found
  | .scalar s _ => .string s.text
  | .sequence _ => .sequence
  | .mapping _ => .map

/-- Every scalar is a text; a plain one may be a number or null as well. -/
instance : Data.Form Yaml where
  shape
    | .scalar .. => .scalar
    | .sequence items => .list items
    | .mapping entries => match named? entries with
      | some fields => .map fields
      | none => .scalar
  text? := text?
  integer?
    | .scalar s _ => (number? s).map Int.ofNat
    | _ => none
  bool? _ := none
  isNull
    | .scalar s tag => isNullScalar s tag
    | _ => false
  found := foundIn
  exact := true

end Yaml

end Granary
