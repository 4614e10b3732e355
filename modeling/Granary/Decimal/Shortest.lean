import Granary.Decimal.Binary

/-!
# The shortest decimal that reads back

For every finite double there is a least number of significant digits with which a decimal can
lie among the reals that round to it; of the decimals with so many digits the one nearest to the
double is its text.  Where positional notation ends is the decision of a `Style`.
-/

namespace Granary.Decimal

/-- A decimal `digits · 10 ^ power`. -/
structure Scaled where
  digits : Nat
  power : Int
  deriving Repr, DecidableEq

/-- The exponent of the leading digit of `num / den`, searched from below. -/
def leadingBelow (num den : Nat) : Nat → Nat → Int
  | 0, j => -(j : Int)
  | fuel + 1, j => if num * tenTo j ≥ den then -(j : Int) else leadingBelow num den fuel (j + 1)

/-- The exponent of the leading digit of a positive fraction. -/
def leading (num den : Nat) : Int :=
  if num ≥ den then ((Nat.toDigits 10 (num / den)).length : Int) - 1
  else leadingBelow num den 330 1

/-- The neighbour of the interval's value on the grid `10 ^ power` that lies in the interval, the
nearer one if both do. -/
def Interval.onGrid (i : Interval) (power : Int) : Option Scaled :=
  let num := i.value * tenTo (-power).toNat
  let den := i.denominator * tenTo power.toNat
  let below := num / den
  let above := below + 1
  let nearerBelow := 2 * (num % den) < den || (2 * (num % den) == den && below % 2 == 0)
  match i.holds below power, i.holds above power with
  | true, true => some ⟨if nearerBelow then below else above, power⟩
  | true, false => some ⟨below, power⟩
  | false, true => some ⟨above, power⟩
  | false, false => none

/-- The first grid with a point in the interval, from coarse to fine. -/
def Interval.coarsest (i : Interval) : Nat → Int → Scaled
  | 0, power => ⟨i.value * tenTo (-power).toNat / (i.denominator * tenTo power.toNat), power⟩
  | finer + 1, power => (i.onGrid power).getD (i.coarsest finer (power - 1))

/-- Trailing zeros moved into the power of ten. -/
def Scaled.trimmed (s : Scaled) : Nat → Scaled
  | 0 => s
  | fuel + 1 =>
    if s.digits ≠ 0 ∧ s.digits % 10 = 0 then Scaled.trimmed ⟨s.digits / 10, s.power + 1⟩ fuel else s

/-- The shortest decimal that rounds to a positive magnitude. -/
def Binary.shortest (b : Binary) : Scaled :=
  let i := b.interval
  (i.coarsest 17 (leading i.value i.denominator)).trimmed 20

/-- Which decimal exponents of the leading digit are written positionally. -/
structure Style where
  least : Int
  most : Int

/-- A positive decimal in the given style: positional with at least one digit after the point, or
scientific with a signed exponent. -/
def Style.text (style : Style) (s : Scaled) : List Char :=
  let ds := Nat.toDigits 10 s.digits
  let top := (ds.length : Int) - 1 + s.power
  if style.least ≤ top ∧ top ≤ style.most then
    if s.power ≥ 0 then ds ++ List.replicate s.power.toNat '0' ++ ['.', '0']
    else if top ≥ 0 then ds.take (top.toNat + 1) ++ '.' :: ds.drop (top.toNat + 1)
    else '0' :: '.' :: List.replicate (-top - 1).toNat '0' ++ ds
  else
    let mantissa := match ds with
      | d :: rest@(_ :: _) => d :: '.' :: rest
      | short => short
    mantissa ++ ['e', if top < 0 then '-' else '+'] ++ Nat.toDigits 10 top.natAbs

/-- The text of a finite double; `none` for infinities and NaN. -/
def Style.float? (style : Style) (x : Float) : Option String :=
  (magnitude? x).map fun b =>
    let body := if b.mantissa = 0 then ['0', '.', '0'] else style.text b.shortest
    String.ofList (if signBit x then '-' :: body else body)

end Granary.Decimal
