import Granary.Json.Value
import Granary.Postgres.Wire

/-!
# Decimal numbers

A decimal number arrives as groups of four digits.  It is kept in ninety-six bits with at most
twenty-eight digits behind the point: a whole part that needs more has no value, a fraction that
needs more is rounded.
-/

namespace Granary.Postgres

/-- The number `mantissa / 10 ^ scale`. -/
structure Numeric where
  mantissa : Nat
  scale : Nat
  deriving DecidableEq, Repr, Inhabited

namespace Numeric

/-- One more than the greatest mantissa. -/
def room : Nat := twoTo 96

/-- The most digits behind the point. -/
def deepest : Nat := 28

/-- A quotient rounded to the nearest number, a half to the even one. -/
def halfEven (n d : Nat) : Nat :=
  let q := n / d
  let r := n % d
  if 2 * r < d ∨ (2 * r = d ∧ q % 2 = 0) then q else q + 1

/-- The number with as many digits as there is room for, `cut` or more of which are dropped. -/
def fitFrom (x : Numeric) (cut : Nat) : Option Numeric :=
  if cut > x.scale then none
  else
    let mantissa := halfEven x.mantissa (tenTo cut)
    if mantissa < room then some ⟨mantissa, x.scale - cut⟩ else fitFrom x (cut + 1)
termination_by x.scale + 1 - cut

/-- The number with as many digits as there is room for. -/
def fit (x : Numeric) : Option Numeric := fitFrom x 0

/-- The sum of two numbers, as far as there is room for it. -/
def add (x y : Numeric) : Option Numeric :=
  let scale := max x.scale y.scale
  fit ⟨x.mantissa * tenTo (scale - x.scale) + y.mantissa * tenTo (scale - y.scale), scale⟩

/-- Digits and a scale of their own, without zeros at the end; the first argument bounds the zeros
that are taken away. -/
def stripFrom : Nat → Numeric → Numeric
  | 0, x => x
  | fuel + 1, x =>
    if x.scale ≠ 0 ∧ x.mantissa % 10 = 0 then stripFrom fuel ⟨x.mantissa / 10, x.scale - 1⟩ else x

/-- The number without zeros at the end of its fraction. -/
def strip (x : Numeric) : Numeric := stripFrom x.scale x

/-- The number with no more than so many digits behind the point, a half rounded up. -/
def limit (scale : Nat) (x : Numeric) : Numeric :=
  if x.scale ≤ scale then x
  else
    let cut := tenTo (x.scale - scale)
    ⟨(x.mantissa + cut / 2) / cut, scale⟩

/-- The most groups of zeros that there is room for. -/
def mostZeros : Nat := 7

/-- The whole part, of which `missing` groups of zeros are not sent. -/
def whole (groups : List Nat) (missing : Nat) : Option Numeric :=
  if missing > mostZeros then none
  else
    let n := groups.foldl (fun n g => n * 10000 + g) 0 * tenTo (4 * missing)
    if n < room then some ⟨n, 0⟩ else none

/-- Adds the groups behind the point; the last digit of the first one counts `10 ^ -place`.  The
group behind the last digit that is kept only decides how that digit is rounded. -/
def addFraction (x : Numeric) (place : Nat) : List Nat → Option Numeric
  | [] => some x
  | group :: rest => do
    let x ←
      if place ≤ deepest then add x ⟨group, place⟩
      else if place = deepest + 4 ∧ group ≥ 5000 then add x ⟨1, deepest⟩
      else some x
    addFraction x (place + 4) rest

/-- The number of some groups, of which the first counts `10000 ^ weight`. -/
def ofGroups (groups : List Nat) (weight : Int) (scale : Nat) : Option Numeric := do
  let wholes := (weight + 1).toNat
  let whole ← whole (groups.take wholes) (wholes - groups.length)
  let x ← addFraction whole (4 * ((-weight - 1).toNat + 1)) (groups.drop wholes)
  return limit scale x

/-- Octets in pairs. -/
def pairs : Octets → List Nat
  | a :: b :: rest => Wire.natural [a, b] :: pairs rest
  | _ => []

/-- A power of ten by repeated squaring, as it comes out in doubles. -/
def powerOf (base : Float) (exponent : Nat) (result : Float) : Float :=
  if exponent = 0 then result
  else
    let result := if exponent % 2 = 1 then result * base else result
    powerOf (base * base) (exponent / 2) result
termination_by exponent

/-- The whole part and the fraction added as doubles, and the sum rounded at its last digit. -/
def toFloat (x : Numeric) : Float :=
  let unit := tenTo x.scale
  let whole := Float.ofNat (x.mantissa / unit)
  let fraction := Float.ofNat (x.mantissa % unit) / Float.ofNat unit
  if x.scale = 0 ∨ fraction == 0.0 then whole
  else
    let power := powerOf 10.0 x.scale 1.0
    ((whole + fraction) * power).round / power

/-- A whole number that one word holds is an integer, every other number a double. -/
def toJson (negative : Bool) (x : Numeric) : Json :=
  let x := x.strip
  let n : Int := if negative then -x.mantissa else x.mantissa
  if x.scale = 0 ∧ -(twoTo 63 : Int) ≤ n ∧ n < twoTo 63 then Json.int n
  else .number (.float (if negative then -x.toFloat else x.toFloat))

/-- A decimal number from its octets: the number of groups, the weight of the first, a sign, the
digits behind the point and the groups. -/
def decode? (octets : Octets) : Option Json :=
  match pairs octets with
  | count :: weight :: sign :: scale :: groups =>
    if groups.length < count ∨ (sign ≠ 0 ∧ sign ≠ 0x4000) then none
    else
      let weight : Int := if weight < 32768 then weight else weight - 65536
      (ofGroups (groups.take count) weight scale).map (toJson (sign = 0x4000))
  | _ => none

end Numeric

end Granary.Postgres
