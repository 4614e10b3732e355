import Granary.Text.Digit

/-!
# Places in a YAML text

Indentation decides about the structure of a YAML text, so a reader carries along the line and the
column of the text that is still unread.  Line ends of all kinds are made alike before reading.
-/

namespace Granary.Yaml

/-- The end of a line, once line ends have been made alike. -/
def isBreak (c : Char) : Bool := c = '\n' || c = '\u2028' || c = '\u2029'

/-- A blank within a line. -/
def isBlank (c : Char) : Bool := c = ' ' || c = '\t'

def isSpace (c : Char) : Bool := isBlank c || isBreak c

/-- A character that a YAML text may hold. -/
def isAllowed (c : Char) : Bool :=
  let n := c.toNat
  n = 0x09 || n = 0x0A || n = 0x0D || (0x20 ≤ n && n ≤ 0x7E) || n = 0x85 ||
    (0xA0 ≤ n && n ≤ 0xD7FF) || (0xE000 ≤ n && n ≤ 0xFFFD) || 0x10000 ≤ n

/-- Characters with line ends made alike. -/
def alike : List Char → List Char
  | '\r' :: '\n' :: rest => '\n' :: alike rest
  | '\r' :: rest => '\n' :: alike rest
  | '\x85' :: rest => '\n' :: alike rest
  | c :: rest => c :: alike rest
  | [] => []

/-- The unread part of a text and where it begins. -/
structure Place where
  unread : List Char
  line : Nat := 0
  column : Nat := 0
  /-- How many characters have been read. -/
  index : Nat := 0
  deriving Repr, Inhabited

namespace Place

/-- The place behind the next character. -/
def next (p : Place) : Place :=
  match p.unread with
  | [] => p
  | c :: rest =>
    if isBreak c then ⟨rest, p.line + 1, 0, p.index + 1⟩
    else ⟨rest, p.line, p.column + 1, p.index + 1⟩

/-- The place so many characters further on. -/
def skip : Nat → Place → Place
  | 0, p => p
  | n + 1, p => skip n p.next

/-- The place behind the characters of a kind. -/
def skipWhile (kind : Char → Bool) (p : Place) : Place := p.skip (p.unread.takeWhile kind).length

/-- Whether a blank, the end of a line or the end of the text comes so many characters later. -/
def endsAfter (n : Nat) (p : Place) : Bool := (p.unread[n]?).all isSpace

def startsWith (c : Char) (p : Place) : Bool := p.unread.head? == some c

/-- Whether a line begins here that ends or begins a document. -/
def atMark (p : Place) : Bool :=
  p.column == 0 && (p.unread.take 3 == ['-', '-', '-'] || p.unread.take 3 == ['.', '.', '.']) &&
    p.endsAfter 3

/-- The blanks and line ends that come next, and the place behind them. -/
def space (p : Place) : List Char × Place := (p.unread.takeWhile isSpace, p.skipWhile isSpace)

end Place

/-- What blanks and line ends between words stand for: themselves within a line, a space for the end
of one line, and the further line ends for the ends of several. -/
def folded (space : List Char) : List Char :=
  match space.dropWhile isBlank with
  | [] => space
  | first :: rest =>
    let further := rest.filter isBreak
    if first ≠ '\n' then first :: further
    else if further.isEmpty then [' ']
    else further

/-- Whether blanks and line ends go beyond the line. -/
def breaksLine (space : List Char) : Bool := space.any isBreak

end Granary.Yaml
