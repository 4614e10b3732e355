/-!
# Reading decimals as doubles

Two readers.  `float?` takes a whole text, allows a bare point and the words for infinity and
NaN, and rounds once.  `scaled?` takes the digits that a data format has collected in one machine
word and scales them by powers of ten in double arithmetic, so its last bit may differ.
-/

namespace Granary.Decimal

def digitValue (c : Char) : Nat := c.toNat - '0'.toNat

/-- The leading digits of a text and what follows them. -/
def digits (cs : List Char) : List Char × List Char :=
  (cs.takeWhile Char.isDigit, cs.dropWhile Char.isDigit)

def natOfDigits (ds : List Char) : Nat := ds.foldl (fun n d => n * 10 + digitValue d) 0

/-- An exponent part, `none` when the letter is not followed by digits. -/
def exponent? : List Char → Option Int
  | [] => some 0
  | c :: rest =>
    if c = 'e' ∨ c = 'E' then
      let (negative, ds) := match rest with
        | '-' :: r => (true, r)
        | '+' :: r => (false, r)
        | r => (false, r)
      if ds.isEmpty || !ds.all Char.isDigit then none
      else some (if negative then -(natOfDigits ds : Int) else natOfDigits ds)
    else none

/-- The double nearest to `mantissa · 10 ^ power`. -/
def nearest (mantissa : Nat) (power : Int) : Float :=
  let top := ((Nat.toDigits 10 mantissa).length : Int) + power
  if mantissa = 0 ∨ top < -330 then 0.0
  else if top > 330 then 1.0 / 0.0
  else Float.ofScientific mantissa (power < 0) power.natAbs

/-- An unsigned decimal: digits with an optional point among them and an optional exponent. -/
def unsignedFloat? (cs : List Char) : Option Float :=
  let word := String.ofList (cs.map Char.toLower)
  if word = "inf" ∨ word = "infinity" then some (1.0 / 0.0)
  else if word = "nan" then some (0.0 / 0.0)
  else
    let (whole, rest) := digits cs
    let (fraction, rest) := match rest with
      | '.' :: r => digits r
      | r => ([], r)
    if whole.isEmpty && fraction.isEmpty then none
    else (exponent? rest).map fun e =>
      nearest (natOfDigits (whole ++ fraction)) (e - fraction.length)

/-- A signed decimal, or a word for infinity or NaN in any letter case. -/
def float? (s : String) : Option Float :=
  match s.toList with
  | '-' :: rest => (unsignedFloat? rest).map fun x => -x
  | '+' :: rest => unsignedFloat? rest
  | cs => unsignedFloat? cs

/-- The double `10 ^ n` for `n ≤ 308`. -/
def powerOfTen (n : Nat) : Float := Float.ofScientific 1 false n

/-- `x · 10 ^ power` by one multiplication or division; powers below the table are reached by
dividing first by its last entry.  `none` when the result is too large. -/
def scaleBy (x : Float) (power : Int) : Option Float :=
  if power.natAbs ≤ 308 then
    if power ≥ 0 then
      let y := x * powerOfTen power.toNat
      if y.isInf then none else some y
    else some (x / powerOfTen power.natAbs)
  else if x == 0.0 then some x
  else if h : power ≥ 0 then none
  else scaleBy (x / powerOfTen 308) (power + 308)
termination_by power.natAbs
decreasing_by omega

/-- A word of digits scaled by a power of ten. -/
def scaled? (word : Nat) (power : Int) : Option Float := scaleBy word.toUInt64.toFloat power

end Granary.Decimal
