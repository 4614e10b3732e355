/-!
# Blank characters

The characters of the Unicode property White_Space, and texts without such characters at either
end.  Names, references and filter values count as empty when nothing is left of them after
trimming.
-/

namespace Granary.Text

/-- The Unicode property White_Space. -/
def isBlank (c : Char) : Bool :=
  let n := c.toNat
  (9 ≤ n && n ≤ 13) || n == 0x20 || n == 0x85 || n == 0xA0 || n == 0x1680 ||
    (0x2000 ≤ n && n ≤ 0x200A) || n == 0x2028 || n == 0x2029 || n == 0x202F ||
    n == 0x205F || n == 0x3000

/-- The characters left after removing blanks from both ends. -/
def trimChars (cs : List Char) : List Char :=
  ((cs.dropWhile isBlank).reverse.dropWhile isBlank).reverse

/-- A text without blanks at its ends. -/
def trim (s : String) : String := String.ofList (trimChars s.toList)

/-- A text of which nothing but blanks remains. -/
def allBlank (s : String) : Bool := s.toList.all isBlank

end Granary.Text
