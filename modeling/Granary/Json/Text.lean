import Granary.Json.Value

/-!
# The compact text of a JSON value

No blanks between tokens; strings escape quotes, backslashes and control characters only.
-/

namespace Granary.Json

/-- Four digits in base sixteen. -/
def hex4 (n : Nat) : List Char :=
  let ds := Nat.toDigits 16 n
  List.replicate (4 - ds.length) '0' ++ ds

/-- One character of a string. -/
def escapeChar (c : Char) : List Char :=
  if c = '"' then ['\\', '"']
  else if c = '\\' then ['\\', '\\']
  else if c = '\n' then ['\\', 'n']
  else if c = '\r' then ['\\', 'r']
  else if c = '\t' then ['\\', 't']
  else if c = '\x08' then ['\\', 'b']
  else if c = '\x0c' then ['\\', 'f']
  else if c.toNat < 0x20 then '\\' :: 'u' :: hex4 c.toNat
  else [c]

/-- A string between its quotes. -/
def quoted (s : String) : List Char := '"' :: s.toList.flatMap escapeChar ++ ['"']

mutual

def chars : Json → List Char
  | .null => ['n', 'u', 'l', 'l']
  | .bool true => ['t', 'r', 'u', 'e']
  | .bool false => ['f', 'a', 'l', 's', 'e']
  | .number n => n.text.toList
  | .string s => quoted s
  | .array items => '[' :: itemChars items ++ [']']
  | .object fields => '{' :: fieldChars fields ++ ['}']

/-- The items of an array with commas between them. -/
def itemChars : List Json → List Char
  | [] => []
  | [item] => chars item
  | item :: next :: rest => chars item ++ ',' :: itemChars (next :: rest)

/-- The fields of an object with commas between them. -/
def fieldChars : List (String × Json) → List Char
  | [] => []
  | [(name, value)] => quoted name ++ ':' :: chars value
  | (name, value) :: next :: rest =>
    quoted name ++ ':' :: (chars value ++ ',' :: fieldChars (next :: rest))

end

/-- The text of a value without blanks. -/
def compact (j : Json) : String := String.ofList (chars j)

end Granary.Json
