import Granary.Decimal.Reading
import Granary.Json.Text
import Granary.Named
import Granary.Postgres.Calendar
import Granary.Postgres.Decode
import Granary.Text.Split

/-!
# Cells of scripted results

A script gives the cells of its result as JSON values, each written in the way that is usual for the
type of its column, or as octets.  Here they become what a server sends.
-/

namespace Granary.Rehearsal

open Postgres (Cell Date DayTime Octets ValueType)
open Postgres.Wire (ofInteger ofNatural ofText ofTruth)

namespace Cells

/-- The types by their names. -/
def typeNames : Named ValueType :=
  [("bool", .bool), ("int2", .int2), ("int4", .int4), ("int8", .int8), ("oid", .oid),
    ("float4", .float4), ("float8", .float8), ("numeric", .numeric), ("date", .date),
    ("time", .time), ("timestamp", .timestamp), ("timestamptz", .timestamptz), ("json", .json),
    ("jsonb", .jsonb), ("uuid", .uuid), ("inet", .inet), ("text", .text), ("varchar", .text),
    ("bpchar", .text), ("name", .text), ("unknown", .text)]

def typeOf (name : String) : ValueType := (typeNames.get? name).getD .other

/-! ## Numbers -/

/-- Digits in groups of four, of which the last is filled up with zeros. -/
def groupsOf : List Nat → List Nat
  | a :: b :: c :: d :: rest => Text.ofDigits 10 [a, b, c, d] :: groupsOf rest
  | [] => []
  | few => [Text.ofDigits 10 ((few ++ [0, 0, 0]).take 4)]

/-- Groups without the zeros at their end. -/
def trimZeros (groups : List Nat) : List Nat := (groups.reverse.dropWhile (· == 0)).reverse

/-- A decimal number in groups of four digits. -/
def numeric (sign : Nat) (whole fraction : List Nat) : Octets :=
  let filled := List.replicate ((4 - whole.length % 4) % 4) 0 ++ whole
  let groups := groupsOf filled ++ groupsOf fraction
  let kept := groups.dropWhile (· == 0)
  let weight : Int := (filled.length / 4 : Nat) - 1 - (groups.length - kept.length : Nat)
  let sent := trimZeros kept
  ofNatural 2 sent.length ++ ofInteger 2 (if sent.isEmpty then 0 else weight) ++ ofNatural 2 sign ++
    ofNatural 2 fraction.length ++ sent.flatMap (ofNatural 2)

def numericOf? (s : String) : Option Octets := do
  if s = "NaN" then return numeric 0xC000 [] []
  let (sign, cs) := match s.toList with
    | '-' :: rest => (0x4000, rest)
    | cs => (0, cs)
  let (whole, rest) := Decimal.digits cs
  let fraction ← match rest with
    | [] => some []
    | '.' :: more => if more.all Char.isDigit then some more else none
    | _ => none
  return numeric sign (whole.map Decimal.digitValue) (fraction.map Decimal.digitValue)

/-- A double, also one that JSON has no number for. -/
def float? : Json → Option Float
  | .number n => some n.toFloat
  | .string s => Decimal.float? s
  | _ => none

/-! ## Moments -/

/-- A number up to a separator, and what follows the separator. -/
def numberTo (separator : String) (s : String) : Option (Nat × String) := do
  let (digits, rest) ← Text.cut separator s
  return (← Text.numeral? 10 digits.toList, rest)

def date? (s : String) : Option Date := do
  let (negative, s) := match s.toList with
    | '-' :: rest => (true, String.ofList rest)
    | '+' :: rest => (false, String.ofList rest)
    | _ => (false, s)
  let (year, rest) ← numberTo "-" s
  let (month, rest) ← numberTo "-" rest
  let day ← Text.numeral? 10 rest.toList
  return ⟨if negative then -year else year, month, day⟩

/-- The microseconds of a fraction of a second. -/
def fraction? (s : String) : Option Nat :=
  Text.numeral? 10 ((s.toList ++ List.replicate 6 '0').take 6)

/-- The microseconds of a time of day. -/
def time? (s : String) : Option Int := do
  let (hour, rest) ← numberTo ":" s
  let (minute, rest) ← numberTo ":" rest
  let (second, micro) ← match Text.cut "." rest with
    | some (second, fraction) => do pure (← Text.numeral? 10 second.toList, ← fraction? fraction)
    | none => do pure (← Text.numeral? 10 rest.toList, 0)
  return (((hour * 60 + minute) * 60 + second) * 1000000 + micro : Nat)

/-- A time of day without its offset, and the offset in microseconds. -/
def withoutOffset (s : String) : Option (String × Int) :=
  let offset (sign : Int) (parts : String × String) : Option (String × Int) := do
    let (hour, rest) ← numberTo ":" parts.2
    let minute ← Text.numeral? 10 rest.toList
    return (parts.1, sign * ((hour * 60 + minute) * 60 * 1000000 : Nat))
  match Text.cut "Z" s, Text.cut "+" s, Text.cut "-" s with
  | some (time, _), _, _ => some (time, 0)
  | none, some parts, _ => offset 1 parts
  | none, none, some parts => offset (-1) parts
  | none, none, none => some (s, 0)

/-- The microseconds of a moment, which has a `T` between its day and its time of day. -/
def moment? (s : String) : Option Int := do
  let (day, rest) ← Text.cut "T" s
  let (time, offset) ← withoutOffset rest
  return (← date? day).days * DayTime.fullDay + (← time? time) - offset

/-! ## Identifiers and addresses -/

/-- The octets of digits in base sixteen. -/
def hexOctets? : List Char → Option Octets
  | a :: b :: rest => do
    return UInt8.ofNat (← Text.numeral? 16 [a, b]) :: (← hexOctets? rest)
  | [] => some []
  | [_] => none

def uuid? (s : String) : Option Octets := hexOctets? (s.toList.filter (· != '-'))

/-- The parts of a text between separators; the first argument bounds their number. -/
def partsOf (separator : String) : Nat → String → List String
  | 0, s => [s]
  | fuel + 1, s =>
    match Text.cut separator s with
    | some (part, rest) => part :: partsOf separator fuel rest
    | none => [s]

/-- Four octets in decimal. -/
def four? (s : String) : Option Octets :=
  (partsOf "." s.length s).mapM fun part => (Text.numeral? 10 part.toList).map UInt8.ofNat

/-- Groups of base sixteen, the last of which may be four octets in decimal. -/
def groups? (s : String) : Option Octets :=
  if s.isEmpty then some []
  else do
    let parts ← (partsOf ":" s.length s).mapM fun part =>
      if Text.occursIn "." part then four? part
      else (Text.numeral? 16 part.toList).map (ofNatural 2)
    return parts.flatten

/-- Sixteen octets; where two colons stand together, groups of zeros are left out. -/
def sixteen? (s : String) : Option Octets :=
  match Text.cut "::" s with
  | some (before, after) => do
    let front ← groups? before
    let back ← groups? after
    return front ++ List.replicate (16 - front.length - back.length) 0 ++ back
  | none => groups? s

def address? (s : String) : Option Octets :=
  if Text.occursIn ":" s then (sixteen? s).map fun o => [3, 128, 0, 16] ++ o
  else (four? s).map fun o => [2, 32, 0, 4] ++ o

/-! ## Cells -/

/-- The octets of a value of a type. -/
def octets? (type : ValueType) (v : Json) : Option Octets :=
  match type, v with
  | .bool, .bool b => some (ofTruth b)
  | .int2, .number (.int n) => some (ofInteger 2 n)
  | .int4, .number (.int n) => some (ofInteger 4 n)
  | .int8, .number (.int n) => some (ofInteger 8 n)
  | .oid, .number (.int n) => some (ofInteger 4 n)
  | .float4, v => (float? v).map fun x => ofNatural 4 x.toFloat32.toBits.toNat
  | .float8, v => (float? v).map fun x => ofNatural 8 x.toBits.toNat
  | .numeric, .string s => numericOf? s
  | .date, .string s => (date? s).map fun d => ofInteger 4 d.days
  | .time, .string s => (time? s).map (ofInteger 8)
  | .timestamp, .string s => (moment? s).map (ofInteger 8)
  | .timestamptz, .string s => (moment? s).map (ofInteger 8)
  | .json, .object [("json", j)] => some (ofText j.compact)
  | .jsonb, .object [("json", j)] => some (1 :: ofText j.compact)
  | .uuid, .string s => uuid? s
  | .inet, .string s => address? s
  | _, .string s => some (ofText s)
  | _, _ => none

/-- The octets of a list of numbers. -/
def given (items : List Json) : Octets := items.map fun
  | .number (.int n) => UInt8.ofNat n.toNat
  | _ => 0

/-- A cell of a column: null, octets as they are, or a value of the type. -/
def cell (type : ValueType) (v : Json) : Cell :=
  match v with
  | .null => none
  | .object [("raw", .array items)] => some (given items)
  | v => octets? type v

end Cells

end Granary.Rehearsal
