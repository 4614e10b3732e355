import Granary.Power

/-!
# Finite binary64 numbers as fractions

A finite double is a sign, a natural mantissa and a power of two.  The reals that round to it form
an interval around it; its ends belong to it exactly when the mantissa is even.
-/

namespace Granary.Decimal

/-- The magnitude `mantissa · 2 ^ exponent` of a finite double. -/
structure Binary where
  mantissa : Nat
  exponent : Int
  deriving Repr, DecidableEq

/-- Sign bit of a double. -/
def signBit (x : Float) : Bool := x.toBits.toNat / twoTo 63 % 2 == 1

/-- The magnitude of a finite double; `none` for infinities and NaN. -/
def magnitude? (x : Float) : Option Binary :=
  let bits : Nat := x.toBits.toNat
  let fraction : Nat := bits % twoTo 52
  let biased : Nat := bits / twoTo 52 % twoTo 11
  if biased = 2047 then none
  else if biased = 0 then some ⟨fraction, -1074⟩
  else some ⟨fraction + twoTo 52, (biased : Int) - 1075⟩

/-- The reals that round to a magnitude, as fractions over one denominator. -/
structure Interval where
  low : Nat
  value : Nat
  high : Nat
  denominator : Nat
  closed : Bool

/-- Half of the gap to each neighbour; below a power of two the gap is half as wide. -/
def Binary.interval (b : Binary) : Interval :=
  let quarter := b.exponent - 2
  let scale := twoTo quarter.toNat
  let narrow := b.mantissa = twoTo 52 ∧ b.exponent > -1074
  { low := (4 * b.mantissa - if narrow then 1 else 2) * scale
    value := 4 * b.mantissa * scale
    high := (4 * b.mantissa + 2) * scale
    denominator := twoTo (-quarter).toNat
    closed := b.mantissa % 2 = 0 }

/-- Whether `digits · 10 ^ power` lies in the interval. -/
def Interval.holds (i : Interval) (digits : Nat) (power : Int) : Bool :=
  let point := digits * tenTo power.toNat * i.denominator
  let unit := tenTo (-power).toNat
  if i.closed then i.low * unit ≤ point && point ≤ i.high * unit
  else i.low * unit < point && point < i.high * unit

end Granary.Decimal
