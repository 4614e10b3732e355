import Granary.Power

/-!
# Values on the wire

PostgreSQL sends the cells of a result as octets, integers with the most significant octet first.
A cell without octets is null.
-/

namespace Granary.Postgres

abbrev Octets := List UInt8

/-- A cell of a result; `none` is null. -/
abbrev Cell := Option Octets

namespace Wire

/-- The unsigned number that octets write. -/
def natural (octets : Octets) : Nat := octets.foldl (fun n o => n * 256 + o.toNat) 0

/-- The number that octets write in two's complement. -/
def integer (octets : Octets) : Int :=
  let n := natural octets
  let span := twoTo (8 * octets.length)
  if 2 * n < span then n else n - span

/-- An unsigned number of so many octets. -/
def sized? (size : Nat) (octets : Octets) : Option Nat :=
  if octets.length = size then some (natural octets) else none

/-- A signed number of so many octets. -/
def signed? (size : Nat) (octets : Octets) : Option Int :=
  if octets.length = size then some (integer octets) else none

def text? (octets : Octets) : Option String := String.fromUTF8? ⟨octets.toArray⟩

/-- Only a single octet is a truth value; any but zero is true. -/
def truth? : Octets → Option Bool
  | [o] => some (o != 0)
  | _ => none

/-- The last `size` octets of a number. -/
def ofNatural : Nat → Nat → Octets
  | 0, _ => []
  | size + 1, n => ofNatural size (n / 256) ++ [UInt8.ofNat n]

/-- A number in two's complement of so many octets. -/
def ofInteger (size : Nat) (n : Int) : Octets := ofNatural size (n % (twoTo (8 * size) : Int)).toNat

def ofText (s : String) : Octets := s.toUTF8.data.toList

def ofTruth (b : Bool) : Octets := [if b then 1 else 0]

@[simp] theorem length_ofNatural (size n : Nat) : (ofNatural size n).length = size := by
  induction size generalizing n with
  | zero => rfl
  | succ size ih => simp [ofNatural, ih]

theorem natural_append_singleton (octets : Octets) (o : UInt8) :
    natural (octets ++ [o]) = natural octets * 256 + o.toNat := by simp [natural]

theorem natural_ofNatural (size n : Nat) : natural (ofNatural size n) = n % twoTo (8 * size) := by
  induction size generalizing n with
  | zero => simp [ofNatural, natural, twoTo, Nat.mod_one]
  | succ size ih =>
    have span : twoTo (8 * (size + 1)) = 256 * twoTo (8 * size) := by
      rw [Nat.mul_succ, twoTo_add, Nat.mul_comm]
    rw [ofNatural, natural_append_singleton, ih, span, Nat.mod_mul]
    have : (UInt8.ofNat n).toNat = n % 256 := by simp
    omega

end Wire

end Granary.Postgres
