import Granary.Yaml.Scalar

/-!
# YAML tokens

Tokens are read one after another.  Indentation opens and closes collections, and a colon turns what
stands before it on its line into a key: the tokens of a key are then put in front of what has been
read since.
-/

namespace Granary.Yaml

inductive Token where
  /-- The version of YAML that a document is written in. -/
  | version
  /-- What a handle of tags stands for. -/
  | handle (name stem : String)
  | documentStart
  | documentEnd
  | blockSequence
  | blockMapping
  /-- The end of a collection that is written by indentation. -/
  | blockEnd
  /-- The hyphen of an item. -/
  | item
  | sequenceStart
  | sequenceEnd
  | mappingStart
  | mappingEnd
  | comma
  | key
  | value
  | anchor (name : String)
  | reference (name : String)
  /-- A tag with the handle that it is written with and the rest of it. -/
  | tag (handle rest : String)
  | scalar (scalar : Scalar)
  deriving DecidableEq, Repr, Inhabited

/-- Something that is a key if a colon follows on its line. -/
structure PossibleKey where
  /-- How many tokens stand before it. -/
  position : Nat
  place : Place
  /-- Whether nothing else could stand there. -/
  required : Bool
  deriving Repr, Inhabited

/-- What has been read so far, and what must be known to go on. -/
structure Lexer where
  place : Place
  tokens : List Token := []
  /-- The column of the innermost collection that is written by indentation, below zero outside of
  all. -/
  indent : Int := -1
  outer : List Int := []
  /-- How many brackets are open. -/
  flow : Nat := 0
  keyAllowed : Bool := true
  possible : Option PossibleKey := none
  /-- The possible keys outside of the open brackets. -/
  waiting : List (Option PossibleKey) := []
  deriving Repr, Inhabited

namespace Lexer

/-- The most characters between the start of a key and its colon. -/
def longestKey : Nat := 1024

def column (x : Lexer) : Int := x.place.column

def emit (x : Lexer) (token : Token) : Lexer := { x with tokens := x.tokens ++ [token] }

def insert (x : Lexer) (position : Nat) (token : Token) : Lexer :=
  { x with tokens := x.tokens.take position ++ token :: x.tokens.drop position }

/-- Reads so many characters. -/
def advance (x : Lexer) (n : Nat) : Lexer := { x with place := x.place.skip n }

/-- Opens a collection if the column is deeper than the indentation. -/
def openBlock (x : Lexer) (column : Int) (position : Nat) (token : Token) : Lexer :=
  if x.flow = 0 ∧ x.indent < column then
    { x with indent := column, outer := x.indent :: x.outer }.insert position token
  else x

/-- Closes the collections that are deeper than a column. -/
def closeDeeper (column : Int) : Int → List Int → List Token → Int × List Int × List Token
  | indent, [], tokens => (indent, [], tokens)
  | indent, next :: rest, tokens =>
    if indent > column then closeDeeper column next rest (tokens ++ [.blockEnd])
    else (indent, next :: rest, tokens)

def closeBlocks (x : Lexer) (column : Int) : Lexer :=
  if x.flow = 0 then
    let (indent, outer, tokens) := closeDeeper column x.indent x.outer x.tokens
    { x with indent, outer, tokens }
  else x

/-- Gives up the possible key, which must not be one that is required. -/
def dropKey (x : Lexer) : Option Lexer :=
  if x.possible.any (·.required) then none else some { x with possible := none }

/-- Remembers that a key may begin here. -/
def markKey (x : Lexer) : Option Lexer := do
  if x.keyAllowed then
    let required := x.flow = 0 && x.indent == x.column
    let x ← x.dropKey
    return { x with possible := some ⟨x.tokens.length, x.place, required⟩ }
  else return x

/-- Whether a possible key is too far back to be one. -/
def isStale (x : Lexer) (k : PossibleKey) : Bool :=
  k.place.line < x.place.line || k.place.index + longestKey < x.place.index

/-- Gives up a possible key that is too far back. -/
def freshen (x : Lexer) (k : Option PossibleKey) : Option (Option PossibleKey) :=
  match k with
  | some k => if x.isStale k then if k.required then none else some none else some (some k)
  | none => some none

def dropStale (x : Lexer) : Option Lexer := do
  return { x with possible := ← x.freshen x.possible, waiting := ← x.waiting.mapM x.freshen }

/-- Skips blanks, comments and line ends.  A tab may stand for a blank only where no key can begin,
and outside of brackets a new line may begin with a key. -/
def skipSpace : Nat → Lexer → Lexer
  | 0, x => x
  | fuel + 1, x =>
    let tabs := x.flow > 0 || !x.keyAllowed
    let place := x.place.skipWhile fun c => c = ' ' || (tabs && c = '\t')
    let place := if place.startsWith '#' then place.skipWhile (!isBreak ·) else place
    match place.unread with
    | c :: _ =>
      if isBreak c then
        skipSpace fuel { x with place := place.next, keyAllowed := x.keyAllowed || x.flow == 0 }
      else { x with place }
    | [] => { x with place }

/-! ## Tokens of one character -/

/-- A bracket or a brace opens. -/
def openFlow (x : Lexer) (token : Token) : Option Lexer := do
  let x ← x.markKey
  let x := (x.emit token).advance 1
  return { x with flow := x.flow + 1, keyAllowed := true, possible := none,
                  waiting := x.possible :: x.waiting }

/-- A bracket or a brace closes. -/
def closeFlow (x : Lexer) (token : Token) : Option Lexer := do
  let x ← x.dropKey
  let x := (x.emit token).advance 1
  return { x with flow := x.flow - 1, keyAllowed := false, possible := x.waiting.head?.join,
                  waiting := x.waiting.drop 1 }

def comma (x : Lexer) : Option Lexer := do
  let x ← x.dropKey
  return { (x.emit .comma).advance 1 with keyAllowed := true }

/-- The hyphen of an item. -/
def item (x : Lexer) : Option Lexer := do
  if x.flow = 0 ∧ !x.keyAllowed then none
  else
    let x := x.openBlock x.column x.tokens.length .blockSequence
    let x ← x.dropKey
    return { (x.emit .item).advance 1 with keyAllowed := true }

/-- The question mark of a key. -/
def key (x : Lexer) : Option Lexer := do
  if x.flow = 0 ∧ !x.keyAllowed then none
  else
    let x := x.openBlock x.column x.tokens.length .blockMapping
    let x ← x.dropKey
    return { (x.emit .key).advance 1 with keyAllowed := x.flow == 0 }

/-- The colon of a value.  What may be a key becomes one. -/
def value (x : Lexer) : Option Lexer :=
  match x.possible with
  | some k =>
    let x := (x.insert k.position .key).openBlock k.place.column k.position .blockMapping
    some { (x.emit .value).advance 1 with possible := none, keyAllowed := false }
  | none =>
    if x.flow = 0 ∧ !x.keyAllowed then none
    else
      let x := x.openBlock x.column x.tokens.length .blockMapping
      some { (x.emit .value).advance 1 with keyAllowed := x.flow == 0 }

/-! ## Names -/

def isNameChar (c : Char) : Bool := c.isAlphanum || c = '_' || c = '-'

/-- The name of an anchor, behind its sign. -/
def anchorName (p : Place) : Option (String × Place) :=
  let name := p.unread.takeWhile isNameChar
  let p := p.skip name.length
  let ends := p.unread.head?.all fun c =>
    isSpace c || ['?', ':', ',', ']', '}', '%', '@', '`'].contains c
  if name.isEmpty || !ends then none else some (String.ofList name, p)

def anchor (x : Lexer) (token : String → Token) : Option Lexer := do
  let x ← x.markKey
  let (name, place) ← anchorName x.place.next
  return { x.emit (token name) with place, keyAllowed := false }

/-- A character that a tag may hold. -/
def isTagChar (inFlow : Bool) (c : Char) : Bool :=
  isNameChar c || (!inFlow && (c = ',' || c = '[' || c = ']')) ||
    [';', '/', '?', ':', '@', '&', '=', '+', '$', '.', '!', '~', '*', '\'', '(', ')', '%'].contains
      c

/-- The handle and the rest of a tag. -/
def tagParts (inFlow : Bool) (p : Place) : Option (String × String × Place) :=
  let body := p.next
  if body.startsWith '<' then
    let name := (body.next.unread).takeWhile (isTagChar false)
    let p := body.next.skip name.length
    if name.isEmpty || !p.startsWith '>' then none else some ("", String.ofList name, p.next)
  else
    let name := body.unread.takeWhile isNameChar
    let p := body.skip name.length
    if p.startsWith '!' then
      let rest := p.next.unread.takeWhile (isTagChar inFlow)
      if rest.isEmpty then none
      else some ("!" ++ String.ofList name ++ "!", String.ofList rest, p.next.skip rest.length)
    else
      let rest := body.unread.takeWhile (isTagChar inFlow)
      some ("!", String.ofList rest, body.skip rest.length)

def tag (x : Lexer) : Option Lexer := do
  let x ← x.markKey
  let (handle, rest, place) ← tagParts (x.flow > 0) x.place
  if place.endsAfter 0 || (x.flow > 0 && place.startsWith ',') then
    return { x.emit (.tag handle rest) with place, keyAllowed := false }
  else none

/-! ## Scalars and documents -/

def quoted (x : Lexer) (quote : Char) : Option Lexer := do
  let x ← x.markKey
  let (scalar, place) ← Yaml.quoted quote x.place
  return { x.emit (.scalar scalar) with place, keyAllowed := false }

def plain (x : Lexer) : Option Lexer := do
  let x ← x.markKey
  let (scalar, space, place) ← Yaml.plain (x.flow > 0) (x.indent + 1) x.place
  return { x.emit (.scalar scalar) with place, keyAllowed := breaksLine space }

def block (x : Lexer) (literal : Bool) : Option Lexer := do
  let x ← x.dropKey
  let (scalar, place) ← Yaml.block literal x.indent x.place.next
  return { x.emit (.scalar scalar) with place, keyAllowed := true }

/-- Leaves all collections. -/
def leave (x : Lexer) : Option Lexer := do
  let x ← (x.closeBlocks (-1)).dropKey
  return { x with keyAllowed := false }

/-- A line that begins or ends a document. -/
def mark (x : Lexer) (token : Token) : Option Lexer := do
  let x ← x.leave
  return (x.emit token).advance 3

/-- What the words of a directive declare. -/
def directiveOf (words : List String) : Option Token :=
  match words with
  | ["%YAML", version] => if version = "1.1" ∨ version = "1.2" then some .version else none
  | ["%TAG", name, stem] => some (.handle name stem)
  | _ => none

/-- The words of a line up to a comment. -/
def wordsOf (cs : List Char) : List String :=
  let step (c : Char) (words : List (List Char)) : List (List Char) :=
    if isBlank c then [] :: words
    else match words with
      | word :: rest => (c :: word) :: rest
      | [] => [[c]]
  let words := (cs.foldr step [[]]).filter (!·.isEmpty)
  (words.takeWhile fun word => word.head? != some '#').map String.ofList

def directive (x : Lexer) : Option Lexer := do
  let x ← x.leave
  let text := x.place.unread.takeWhile (!isBreak ·)
  let token ← directiveOf (wordsOf text)
  return (x.emit token).advance text.length

/-! ## All tokens -/

/-- Whether a plain scalar can begin with a character, given whether a blank follows. -/
def beginsPlain (c : Char) (blankFollows inFlow : Bool) : Bool :=
  if c = '-' then !blankFollows
  else if c = '?' ∨ c = ':' then !inFlow && !blankFollows
  else !(isSpace c || isFlowMark c ||
    ['#', '&', '*', '!', '|', '>', '\'', '"', '%', '@', '`'].contains c)

/-- Reads the token that begins here. -/
def read (x : Lexer) (c : Char) : Option Lexer :=
  let ends := x.place.endsAfter 1
  let inFlow : Bool := x.flow > 0
  if x.place.column = 0 ∧ c = '%' then x.directive
  else if x.place.atMark then x.mark (if c = '-' then .documentStart else .documentEnd)
  else if c = '[' then x.openFlow .sequenceStart
  else if c = '{' then x.openFlow .mappingStart
  else if c = ']' then x.closeFlow .sequenceEnd
  else if c = '}' then x.closeFlow .mappingEnd
  else if c = ',' then x.comma
  else if c = '-' ∧ ends then x.item
  else if c = '?' ∧ (inFlow ∨ ends) then x.key
  else if c = ':' ∧ (inFlow ∨ ends) then x.value
  else if c = '*' then x.anchor .reference
  else if c = '&' then x.anchor .anchor
  else if c = '!' then x.tag
  else if c = '|' ∧ !inFlow then x.block true
  else if c = '>' ∧ !inFlow then x.block false
  else if c = '\'' ∨ c = '"' then x.quoted c
  else if beginsPlain c ends inFlow then x.plain
  else none

/-- Reads all tokens; the first argument bounds their number. -/
def run : Nat → Lexer → Option (List Token)
  | 0, _ => none
  | fuel + 1, x => do
    let x := x.skipSpace (x.place.unread.length + 1)
    let x := (← x.dropStale).closeBlocks x.column
    match x.place.unread with
    | [] => return (← x.leave).tokens
    | c :: _ => run fuel (← x.read c)

end Lexer

/-- The tokens of a text; a byte order mark in front of it is skipped. -/
def tokens (s : String) : Option (List Token) :=
  let cs := match s.toList with
    | '\ufeff' :: rest => rest
    | cs => cs
  if cs.all isAllowed then
    let cs := alike cs
    Lexer.run (cs.length + 2) { place := { unread := cs } }
  else none

end Granary.Yaml
