import Granary.Postgres.Wire

/-!
# Network addresses

Addresses of four octets are written in decimal, those of sixteen in groups of four digits of base
sixteen, the longest run of zero groups left out.
-/

namespace Granary.Postgres.Address

/-- The octets of an address in decimal. -/
def fourText (octets : Octets) : String :=
  ".".intercalate (octets.map fun o => toString o.toNat)

/-- A number in base sixteen. -/
def hexText (n : Nat) : String := String.ofList (Nat.toDigits 16 n)

/-- Two octets at a time. -/
def groups : Octets → List Nat
  | a :: b :: rest => Wire.natural [a, b] :: groups rest
  | _ => []

/-- The length of the run of zeros at the front. -/
def zeros (gs : List Nat) : Nat := (gs.takeWhile (· == 0)).length

/-- The start and the length of the longest run of zeros, the first of several; `start` groups have
been passed. -/
def longestFrom (start : Nat) : List Nat → Nat × Nat
  | [] => (start, 0)
  | g :: rest =>
    let here := zeros (g :: rest)
    let later := longestFrom (start + 1) rest
    if here ≥ later.2 then (start, here) else later

def joined (gs : List Nat) : String := ":".intercalate (gs.map hexText)

/-- Groups with the longest run of at least two zeros left out. -/
def groupsText (gs : List Nat) : String :=
  let (start, length) := longestFrom 0 gs
  if length < 2 then joined gs
  else joined (gs.take start) ++ "::" ++ joined (gs.drop (start + length))

/-- An address of sixteen octets; one that stands for an address of four ends like that. -/
def sixteenText (octets : Octets) : String :=
  if octets.take 12 = List.replicate 10 0 ++ [255, 255] then
    "::ffff:" ++ fourText (octets.drop 12)
  else groupsText (groups octets)

/-- The text of an address: its family, the length of its mask, a mark, its length and its
octets. -/
def text? : Octets → Option String
  | family :: mask :: _ :: length :: octets =>
    if family = 2 ∧ mask ≤ 32 ∧ length = 4 ∧ octets.length = 4 then some (fourText octets)
    else if family = 3 ∧ mask ≤ 128 ∧ length = 16 ∧ octets.length = 16 then
      some (sixteenText octets)
    else none
  | _ => none

end Granary.Postgres.Address
