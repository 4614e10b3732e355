import Granary.Toml.Scalar

/-!
# Reading TOML

A document is read line by line: comments, headers and assignments.  A text that is not TOML is not
told where it stops being TOML.
-/

namespace Granary.Toml.Reader

/-! ## Between the items -/

/-- The text behind a comment, if there is one; none if the comment holds a control character. -/
def afterComment (cs : List Char) : Option (List Char) :=
  match cs with
  | '#' :: rest => some (rest.dropWhile isPlain)
  | _ => some cs

/-- The text behind the blanks, the comment and the end of a line. -/
def afterRest (cs : List Char) : Option (List Char) := do
  match ← afterComment (skipSpace cs) with
  | [] => some []
  | rest => afterLine? rest

/-- Skips blanks, comments and ends of lines, as between the items of an array. -/
def skipLines : Nat → List Char → List Char
  | 0, cs => cs
  | fuel + 1, cs =>
    match (afterComment (skipSpace cs)).bind afterLine? with
    | some rest => skipLines fuel rest
    | none => skipSpace cs

def skipAll (cs : List Char) : List Char := skipLines cs.length cs

/-! ## Keys -/

def isBare (c : Char) : Bool := c.isAlphanum || c = '-' || c = '_'

/-- One part of a key. -/
def keyPart (cs : List Char) : Option (String × List Char) :=
  match cs with
  | '"' :: rest => (quoted rest).map fun (body, rest) => (String.ofList body, rest)
  | '\'' :: rest => (literal rest).map fun (body, rest) => (String.ofList body, rest)
  | _ =>
    let name := cs.takeWhile isBare
    if name.isEmpty then none else some (String.ofList name, cs.dropWhile isBare)

/-- The most parts that a key may have, and the most values that may stand in one another. -/
def deepest : Nat := 79

/-- A key of at most so many parts, with the blanks around it. -/
def keyParts : Nat → Read (List String)
  | 0, _ => none
  | parts + 1, cs => do
    let (name, rest) ← keyPart (skipSpace cs)
    match skipSpace rest with
    | '.' :: rest => do
      let (names, rest) ← keyParts parts rest
      return (name :: names, rest)
    | rest => return ([name], rest)

def key (cs : List Char) : Option (Key × List Char) := do
  let (parts, rest) ← keyParts deepest cs
  return (⟨parts.dropLast, ← parts.getLast?⟩, rest)

/-! ## Values -/

/-- The items of an array behind its bracket, each read by `item`. -/
def items (item : Read Toml) : Nat → Read (List Toml)
  | 0, _ => none
  | fuel + 1, cs =>
    match skipAll cs with
    | ']' :: rest => some ([], rest)
    | cs => do
      let (first, rest) ← item cs
      match skipAll rest with
      | ',' :: rest =>
        let (others, rest) ← items item fuel rest
        return (first :: others, rest)
      | ']' :: rest => return ([first], rest)
      | _ => none

/-- One assignment, without what follows its value. -/
def assignment (item : Read Toml) : Read (Key × Toml) := fun cs => do
  let (key, rest) ← key cs
  let (value, rest) ← item (skipSpace (← after '=' rest))
  return ((key, value), rest)

/-- The assignments between braces, behind the opening one; there is at least one. -/
def pairs (item : Read Toml) : Nat → Read (List (Key × Toml))
  | 0, _ => none
  | fuel + 1, cs => do
    let (first, rest) ← assignment item cs
    match skipSpace rest with
    | ',' :: rest =>
      let (others, rest) ← pairs item fuel rest
      return (first :: others, rest)
    | '}' :: rest => return ([first], rest)
    | _ => none

/-- A table between braces, behind the opening one. -/
def braces (item : Read Toml) (cs : List Char) : Option (Toml × List Char) :=
  match skipSpace cs with
  | '}' :: rest => some (.table .braces [], rest)
  | rest => do
    let (found, rest) ← pairs item rest.length rest
    return (← ofPairs found, rest)

/-- A value that may hold values in one another to the given depth. -/
def value : Nat → Read Toml
  | depth, cs =>
    match cs with
    | '[' :: rest =>
      match depth with
      | 0 => none
      | depth + 1 =>
        (items (value depth) (rest.length + 1) rest).map fun (xs, rest) => (.array xs, rest)
    | '{' :: rest =>
      match depth with
      | 0 => none
      | depth + 1 => braces (value depth) rest
    | 't' :: 'r' :: 'u' :: 'e' :: rest => some (.boolean true, rest)
    | 'f' :: 'a' :: 'l' :: 's' :: 'e' :: rest => some (.boolean false, rest)
    | c :: _ =>
      if c = '"' ∨ c = '\'' then (string cs).map fun (s, rest) => (.string s, rest)
      else numeric cs
    | [] => none

/-! ## Lines -/

/-- A header between its brackets. -/
def header (cs : List Char) : Option (Line × List Char) :=
  match cs with
  | '[' :: '[' :: rest => do
    let (key, rest) ← key rest
    return (.repeated key, ← after ']' (← after ']' rest))
  | _ => do
    let (key, rest) ← key (cs.drop 1)
    return (.header key, ← after ']' rest)

/-- A line that says something. -/
def line (cs : List Char) : Option (Line × List Char) :=
  match cs with
  | '[' :: _ => header cs
  | _ => do
    let ((key, value), rest) ← assignment (value deepest) cs
    return (.assignment key value, rest)

/-- The lines of a document. -/
def lines : Nat → List Char → Option (List Line)
  | 0, _ => none
  | fuel + 1, cs =>
    match skipAll cs with
    | [] => some []
    | '#' :: rest => if rest.all isPlain then some [] else none
    | cs => do
      let (first, rest) ← line cs
      return first :: (← lines fuel (← afterRest rest))

end Granary.Toml.Reader

namespace Granary.Toml

/-- The table that a text writes; a byte order mark in front of it is skipped. -/
def read (s : String) : Option Toml := do
  let cs := match s.toList with
    | '\ufeff' :: rest => rest
    | cs => cs
  ofLines (← Reader.lines (cs.length + 1) cs)

end Granary.Toml
