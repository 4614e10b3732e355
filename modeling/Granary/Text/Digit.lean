/-!
# Digits

Digits in bases up to sixteen, in either letter case, and the numbers that they denote.
-/

namespace Granary.Text

/-- The value of a digit in a base up to sixteen. -/
def digit? (base : Nat) (c : Char) : Option Nat :=
  let value? :=
    if c.isDigit then some (c.toNat - '0'.toNat)
    else if 'a' ≤ c ∧ c ≤ 'f' then some (c.toNat - 'a'.toNat + 10)
    else if 'A' ≤ c ∧ c ≤ 'F' then some (c.toNat - 'A'.toNat + 10)
    else none
  value?.filter (· < base)

/-- The number with the given digits, the most significant first. -/
def ofDigits (base : Nat) (digits : List Nat) : Nat := digits.foldl (fun n d => n * base + d) 0

/-- The number that a text of digits denotes; an empty text denotes none. -/
def numeral? (base : Nat) (cs : List Char) : Option Nat :=
  if cs.isEmpty then none else (cs.mapM (digit? base)).map (ofDigits base)

/-- The character with the code that some digits denote in base sixteen. -/
def coded? (digits : List Char) : Option Char :=
  match numeral? 16 digits with
  | some n => if n.isValidChar then some (Char.ofNat n) else none
  | none => none

end Granary.Text
