import Granary.Error
import Granary.Text.Split

/-!
# File name patterns

A question mark stands for one character, an asterisk for any text, brackets for one character of a
set, and two asterisks, as a whole part of a path, for directories of any depth.  All other
characters stand for themselves.
-/

namespace Granary.Files

/-- A range of characters from the first to the second. -/
abbrev Range := Char × Char

def Range.contains (r : Range) (c : Char) : Bool := r.1 ≤ c && c ≤ r.2

inductive Piece where
  | char (c : Char)
  | anyChar
  | anyText
  | within (ranges : List Range)
  | outside (ranges : List Range)
  /-- Directories of any depth. -/
  | anyDepth
  deriving DecidableEq, Repr

/-- The ranges between brackets. -/
def rangesOf : List Char → List Range
  | a :: '-' :: b :: rest => (a, b) :: rangesOf rest
  | a :: rest => (a, a) :: rangesOf rest
  | [] => []

/-- The set that stands behind an opening bracket, and the text behind the closing one.  A set is
not empty: a closing bracket at its front belongs to it. -/
def bracketed? (cs : List Char) : Option (Piece × List Char) :=
  match cs with
  | '!' :: c :: rest =>
    (Text.cutAt [']'] rest).map fun (set, rest) => (.outside (rangesOf (c :: set)), rest)
  | '!' :: [] => none
  | c :: rest =>
    (Text.cutAt [']'] rest).map fun (set, rest) => (.within (rangesOf (c :: set)), rest)
  | [] => none

/-- What separates the parts of a path. -/
def separator : Char := '/'

/-- The pieces of a pattern of which `length` characters make the whole; `before` is the character
in front.  `fuel` bounds the number of pieces. -/
def piecesFrom (length : Nat) : Nat → Option Char → List Char → Except PatternFault (List Piece)
  | _, _, [] => .ok []
  | 0, _, _ => .ok []
  | fuel + 1, before, c :: rest =>
    let position := length - (c :: rest).length
    if c = '?' then (piecesFrom length fuel (some c) rest).map (.anyChar :: ·)
    else if c = '*' then
      let more := rest.takeWhile (· == '*')
      let after := rest.drop more.length
      if more.length > 1 then .error (.longWildcard (position + 2))
      else if more.isEmpty then (piecesFrom length fuel (some c) rest).map (.anyText :: ·)
      else if before.any (· != separator) then .error (.partialRecursion (position - 1))
      else if after.head?.any (· != separator) then .error (.partialRecursion (position + 2))
      else (piecesFrom length fuel (some c) after).map (.anyDepth :: ·)
    else if c = '[' then
      match bracketed? rest with
      | some (piece, after) => (piecesFrom length fuel (some ']') after).map (piece :: ·)
      | none => .error (.badRange position)
    else (piecesFrom length fuel (some c) rest).map (.char c :: ·)

def pieces (cs : List Char) : Except PatternFault (List Piece) :=
  piecesFrom cs.length cs.length none cs

/-- Whether a text matches some pieces. -/
def matchesText : List Piece → List Char → Bool
  | [], cs => cs.isEmpty
  | .anyText :: rest, cs | .anyDepth :: rest, cs =>
    (List.range (cs.length + 1)).any fun n => matchesText rest (cs.drop n)
  | _ :: _, [] => false
  | .char d :: rest, c :: cs => c == d && matchesText rest cs
  | .anyChar :: rest, _ :: cs => matchesText rest cs
  | .within ranges :: rest, c :: cs => ranges.any (·.contains c) && matchesText rest cs
  | .outside ranges :: rest, c :: cs => !ranges.any (·.contains c) && matchesText rest cs

/-- The text that pieces without any wildcard stand for. -/
def literal? : List Piece → Option (List Char)
  | [] => some []
  | .char c :: rest => (literal? rest).map (c :: ·)
  | _ => none

/-- A part of a pattern, which is about one part of a path. -/
inductive Part where
  /-- A name to look up. -/
  | literal (name : String)
  | wild (pieces : List Piece)
  /-- Directories of any depth. -/
  | deep
  deriving DecidableEq, Repr

namespace Part

def ofPieces (pieces : List Piece) : Part :=
  match literal? pieces with
  | some name => .literal (String.ofList name)
  | none => if pieces = [.anyDepth] then .deep else .wild pieces

/-- Whether a name matches. -/
def accepts (p : Part) (name : String) : Bool :=
  match p with
  | .literal own => own == name
  | .wild pieces => matchesText pieces name.toList
  | .deep => true

end Part

/-- A pattern for paths, part by part; deep parts do not follow each other. -/
abbrev Pattern := List Part

/-- Of deep parts in a row the last one stays. -/
def merged : Pattern → Pattern
  | .deep :: .deep :: rest => merged (.deep :: rest)
  | part :: rest => part :: merged rest
  | [] => []

/-- The pattern of a text, which must be well-formed as a whole and part by part. -/
def Pattern.parse (s : String) : Except PatternFault Pattern := do
  let _ ← pieces s.toList
  let parts ← (Text.parts separator s.toList).mapM pieces
  return merged (parts.map Part.ofPieces)

end Granary.Files
