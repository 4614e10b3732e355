import Granary.Json.Value
import Granary.Refusal
import Granary.Text.Quoted

/-!
# What can be wrong with a value

A decoder expects a value of some kind and reports what it found instead.
-/

namespace Granary.Data

/-- The kind of value that was found. -/
inductive Found where
  | null
  | bool (value : Bool)
  | number (value : Number)
  | string (value : String)
  | sequence
  | map
  deriving Repr

def Found.text : Found → String
  | .null => "null"
  | .bool b => s!"boolean `{b}`"
  | .number (.int n) => s!"integer `{n}`"
  | .number x => s!"floating point `{x.text}`"
  | .string s => "string " ++ Text.quote s
  | .sequence => "sequence"
  | .map => "map"

/-- An integer type: its name and its least and greatest value. -/
structure Width where
  name : String
  least : Int
  greatest : Int
  deriving DecidableEq, Repr

namespace Width

def byte : Width := ⟨"u8", 0, 255⟩
def port : Width := ⟨"u16", 0, 65535⟩
def word : Width := ⟨"u64", 0, twoTo 64 - 1⟩
def size : Width := ⟨"usize", 0, twoTo 64 - 1⟩
def small : Width := ⟨"i32", -(twoTo 31 : Int), twoTo 31 - 1⟩

end Width

/-- The kind of value that was expected. -/
inductive Expected where
  | string
  | boolean
  | sequence
  | integer (width : Width)
  | record (name : String)
  | choice
  | unit
  | oneField
  | map
  | tuple (size : Nat)
  | array (length : Nat)
  deriving DecidableEq, Repr

def Expected.text : Expected → String
  | .string => "a string"
  | .boolean => "a boolean"
  | .sequence => "a sequence"
  | .integer width => width.name
  | .record name => s!"struct {name}"
  | .choice => "string or map"
  | .unit => "unit"
  | .oneField => "map with a single key"
  | .map => "a map"
  | .tuple size => s!"a tuple of size {size}"
  | .array length => s!"an array of length {length}"

/-- Why a value cannot be decoded. -/
inductive Fault where
  | missingField (name : String)
  | duplicateField (name : String)
  | wrongType (found : Found) (expected : Expected)
  | wrongValue (found : Found) (expected : Expected)
  /-- A record written as a list ends before a field that has no default. -/
  | tooShort (length : Nat) (record : String) (fields : Nat)
  /-- A record written as a list has more items than the record has fields. -/
  | tooLong (length : Nat)
  | wrongLength (length : Nat) (expected : Expected)
  | unknownVariant (given : String) (known : List String)
  | refused (reason : Refusal)
  deriving Repr

def Fault.message : Fault → String
  | .missingField name => s!"missing field `{name}`"
  | .duplicateField name => s!"duplicate field `{name}`"
  | .wrongType found expected => s!"invalid type: {found.text}, expected {expected.text}"
  | .wrongValue found expected => s!"invalid value: {found.text}, expected {expected.text}"
  | .tooShort length record fields =>
    let unit := if fields = 1 then "element" else "elements"
    s!"invalid length {length}, expected struct {record} with {fields} {unit}"
  | .tooLong length => s!"invalid length {length}, expected fewer elements in array"
  | .wrongLength length expected => s!"invalid length {length}, expected {expected.text}"
  | .unknownVariant given known =>
    let names := ", ".intercalate (known.map fun name => s!"`{name}`")
    s!"unknown variant `{given}`, expected one of {names}"
  | .refused reason => reason.message

end Granary.Data
