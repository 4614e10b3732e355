import Granary.Text.Casing
import Granary.Text.HiddenTable

/-!
# Quoted text

Diagnostics show a text between double quotes, with an escape for every character that would not
be seen as itself.
-/

namespace Granary.Text

/-- Characters that a diagnostic writes by code point. -/
def isHidden (c : Char) : Bool := within HiddenTable.ranges c

/-- The digits of a number in base sixteen, lower case, without leading zeros. -/
def hexDigits (n : Nat) : List Char := Nat.toDigits 16 n

/-- One character of a quoted text. -/
def quoteChar (c : Char) : List Char :=
  if c = '\x00' then ['\\', '0']
  else if c = '\t' then ['\\', 't']
  else if c = '\r' then ['\\', 'r']
  else if c = '\n' then ['\\', 'n']
  else if c = '\\' then ['\\', '\\']
  else if c = '"' then ['\\', '"']
  else if isHidden c then '\\' :: 'u' :: '{' :: hexDigits c.toNat ++ ['}']
  else [c]

/-- A text as a diagnostic shows it. -/
def quote (s : String) : String :=
  String.ofList ('"' :: s.toList.flatMap quoteChar ++ ['"'])

/-- A list of texts as a diagnostic shows it. -/
def quoteList (xs : List String) : String :=
  "[" ++ ", ".intercalate (xs.map quote) ++ "]"

/-- The fields of a record as a diagnostic shows them, between braces; `more` stands for fields that
are not shown. -/
def showRecord (name : String) (fields : List (String × String)) (more : Bool := false) : String :=
  let shown := fields.map (fun f => f.1 ++ ": " ++ f.2) ++ if more then [".."] else []
  name ++ " \x7b " ++ ", ".intercalate shown ++ " \x7d"

/-- What a diagnostic shows in place of a password. -/
def hidden : String := quote "***"

end Granary.Text
