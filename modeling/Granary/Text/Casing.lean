import Granary.Text.CaseTable

/-!
# Lower case

Names of tables and columns are compared in lower case.  The mapping is the one of Unicode: a
capital sigma at the end of a word becomes the final sigma, the dotted capital I becomes two
characters, and every other character becomes at most one other.
-/

namespace Granary.Text

def within (ranges : List (Nat × Nat)) (c : Char) : Bool :=
  ranges.any fun r => r.1 ≤ c.toNat && c.toNat ≤ r.2

/-- The property Cased. -/
def isCased (c : Char) : Bool :=
  c.isAlpha || within CaseTable.casedRanges c

/-- The property Case_Ignorable. -/
def isCaseIgnorable (c : Char) : Bool := within CaseTable.ignorableRanges c

/-- The lower case of one character that maps to one character. -/
def lowerChar (c : Char) : Char :=
  if c.toNat < 0x80 then c.toLower
  else
    match CaseTable.lowercaseRuns.find? (·.covers c.toNat) with
    | some run => Char.ofNat (c.toNat + run.shift).toNat
    | none => c

/-- Whether the nearest character that is not case-ignorable is a cased one. -/
def meetsCased (cs : List Char) : Bool :=
  match cs.dropWhile isCaseIgnorable with
  | c :: _ => isCased c
  | [] => false

/-- The lower case of a character standing between `before`, nearest first, and `after`. -/
def lowerBetween (before : List Char) (c : Char) (after : List Char) : List Char :=
  if c = 'Σ' then [if meetsCased before && !meetsCased after then 'ς' else 'σ']
  else if c = 'İ' then ['i', '\u0307']
  else [lowerChar c]

def lowerFrom (before : List Char) : List Char → List Char
  | [] => []
  | c :: after => lowerBetween before c after ++ lowerFrom (c :: before) after

/-- The lower case of a text. -/
def lowercase (s : String) : String := String.ofList (lowerFrom [] s.toList)

/-- The lower case of the ASCII letters alone. -/
def asciiLower (s : String) : String := s.map Char.toLower

/-- The upper case of the ASCII letters alone. -/
def asciiUpper (s : String) : String := s.map Char.toUpper

/-- Equality up to the case of ASCII letters. -/
def sameAscii (a b : String) : Bool := asciiLower a == asciiLower b

end Granary.Text
