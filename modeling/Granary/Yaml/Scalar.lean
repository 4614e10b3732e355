import Granary.Yaml.Place

/-!
# YAML scalars

A scalar is written plain, between quotes, or as a block of lines.  Each reader gives the text of
one scalar and the place behind it; `none` says that the text is not YAML.
-/

namespace Granary.Yaml

structure Scalar where
  text : String
  /-- Whether it is written without quotes and not as a block. -/
  plain : Bool
  deriving DecidableEq, Repr, Inhabited

/-! ## Between quotes -/

/-- The character of an escape, and the length of the escape behind its backslash. -/
def escape? : List Char → Option (Char × Nat)
  | 'x' :: cs => if cs.length < 2 then none else (Text.coded? (cs.take 2)).map (·, 3)
  | 'u' :: cs => if cs.length < 4 then none else (Text.coded? (cs.take 4)).map (·, 5)
  | 'U' :: cs => if cs.length < 8 then none else (Text.coded? (cs.take 8)).map (·, 9)
  | c :: _ =>
    let simple : List (Char × Char) :=
      [('0', '\x00'), ('a', '\x07'), ('b', '\x08'), ('t', '\t'), ('\t', '\t'), ('n', '\n'),
        ('v', '\x0b'), ('f', '\x0c'), ('r', '\r'), ('e', '\x1b'), (' ', ' '), ('"', '"'),
        ('\'', '\''), ('/', '/'), ('\\', '\\'), ('N', '\x85'), ('_', '\xa0'), ('L', '\u2028'),
        ('P', '\u2029')]
    (simple.lookup c).map (·, 1)
  | [] => none

/-- What stands between quotes; `read` is what has been read of it, in reverse. -/
def quotedFrom (quote : Char) : Nat → List Char → Place → Option (List Char × Place)
  | 0, _, _ => none
  | fuel + 1, read, p =>
    if p.atMark then none
    else
      match p.unread with
      | [] => none
      | c :: rest =>
        if c = quote then
          if quote = '\'' ∧ rest.head? = some '\'' then quotedFrom quote fuel (c :: read) (p.skip 2)
          else some (read.reverse, p.next)
        else if c = '\\' ∧ quote = '"' then
          match rest with
          | d :: _ =>
            if isBreak d then
              let (space, p) := p.next.next.space
              quotedFrom quote fuel ((space.filter isBreak).reverse ++ read) p
            else
              match escape? rest with
              | some (e, length) => quotedFrom quote fuel (e :: read) (p.skip (length + 1))
              | none => none
          | [] => none
        else if isSpace c then
          let (space, p) := p.space
          quotedFrom quote fuel ((folded space).reverse ++ read) p
        else quotedFrom quote fuel (c :: read) p.next

/-- A scalar between quotes. -/
def quoted (quote : Char) (p : Place) : Option (Scalar × Place) := do
  let (text, p) ← quotedFrom quote (p.unread.length + 1) [] p.next
  return (⟨String.ofList text, false⟩, p)

/-! ## Plain -/

/-- A character that ends a plain scalar inside brackets. -/
def isFlowMark (c : Char) : Bool := c = ',' || c = '[' || c = ']' || c = '{' || c = '}'

/-- The characters of a plain scalar up to a blank or a mark, and what follows them. -/
def plainWord (inFlow : Bool) : List Char → Option (List Char)
  | [] => some []
  | c :: rest =>
    if isSpace c then some []
    else if c = ':' ∧ rest.head?.all isSpace then some []
    else if inFlow && isFlowMark c then some []
    else if inFlow && c = ':' && rest.head?.any fun d => isFlowMark d || d = '?' then none
    else (plainWord inFlow rest).map (c :: ·)

/-- Whether a tab stands where a line must be indented. -/
def tabInIndent (indent : Int) : Nat → List Char → Bool
  | _, [] => false
  | column, c :: rest =>
    if isBreak c then tabInIndent indent 0 rest
    else (c == '\t' && (column : Int) < indent) || tabInIndent indent (column + 1) rest

/-- The words of a plain scalar; `space` has been read behind the words `read`, and the lines of the
scalar must be indented by `indent`. -/
def plainFrom (inFlow : Bool) (indent : Int) :
    Nat → List Char → List Char → Place → Option (List Char × List Char × Place)
  | 0, _, _, _ => none
  | fuel + 1, read, space, p =>
    if p.atMark || p.startsWith '#' then some (read, space, p)
    else
      match plainWord inFlow p.unread with
      | none => none
      | some word =>
        let read := if word.isEmpty then read else read ++ folded space ++ word
        let space := if word.isEmpty then space else []
        let p := p.skip word.length
        let (more, after) := p.space
        if more.isEmpty then some (read, space, p)
        else if tabInIndent indent 0 (more.dropWhile (!isBreak ·)) then none
        else if !inFlow && (after.column : Int) < indent then some (read, more, after)
        else plainFrom inFlow indent fuel read more after

/-- A plain scalar, the blanks and line ends behind it, and the place behind those. -/
def plain (inFlow : Bool) (indent : Int) (p : Place) : Option (Scalar × List Char × Place) := do
  let (text, space, p) ← plainFrom inFlow indent (p.unread.length + 1) [] [] p
  return (⟨String.ofList text, true⟩, space, p)

/-! ## Blocks -/

/-- What becomes of the line ends at the end of a block. -/
inductive Chomping where
  | strip | clip | keep
  deriving DecidableEq, Repr

/-- The marks behind the sign of a block: how its end is treated and how deep it is indented. -/
def blockMarks (p : Place) : Option (Chomping × Option Nat × Place) :=
  let chomping? (c : Char) : Option Chomping :=
    if c = '-' then some .strip else if c = '+' then some .keep else none
  let depth? (c : Char) : Option Nat := Text.digit? 10 c
  match p.unread with
  | c :: rest =>
    match chomping? c with
    | some chomping =>
      match rest.head?.bind depth? with
      | some 0 => none
      | some depth => some (chomping, some depth, p.skip 2)
      | none => some (chomping, none, p.next)
    | none =>
      match depth? c with
      | some 0 => none
      | some depth =>
        match rest.head?.bind chomping? with
        | some chomping => some (chomping, some depth, p.skip 2)
        | none => some (.clip, some depth, p.next)
      | none => some (.clip, none, p)
  | [] => some (.clip, none, p)

/-- The place behind the rest of a line that holds nothing but a comment. -/
def afterHeader (p : Place) : Option Place :=
  let p := p.skipWhile isBlank
  let p := if p.startsWith '#' then p.skipWhile (!isBreak ·) else p
  match p.unread with
  | [] => some p
  | c :: _ => if isBreak c then some p.next else none

/-- The empty lines before the next line of a block: their ends, the greatest column that their
blanks reach, and the place of the next line's text.  An unknown depth is taken for the next line's
own. -/
def emptyLines (depth : Option Nat) :
    Nat → Nat → List Char → Place → Option (Nat × List Char × Place)
  | 0, _, _, _ => none
  | fuel + 1, deepest, ends, p =>
    let blanks := (p.unread.takeWhile (· == ' ')).length
    let p := p.skip (match depth with
      | some depth => min blanks (depth - p.column)
      | none => blanks)
    let deepest := max deepest p.column
    let shallow := match depth with
      | some depth => p.column < depth
      | none => true
    match p.unread with
    | c :: _ =>
      if shallow && c = '\t' then none
      else if isBreak c then emptyLines depth fuel deepest (ends ++ [c]) p.next
      else some (deepest, ends, p)
    | [] => some (deepest, ends, p)

/-- The lines of a block as far as they are indented; `first` is the end of the line before, `ends`
are the line ends behind it, and `indented` tells whether that line began with a blank. -/
def blockLines (literal : Bool) (depth : Nat) :
    Nat → List Char → List Char → List Char → Bool → Place →
      Option (List Char × List Char × List Char × Place)
  | 0, _, _, _, _, _ => none
  | fuel + 1, read, first, ends, indented, p =>
    match p.unread with
    | [] => some (read, first, ends, p)
    | c :: _ =>
      if p.column ≠ depth then some (read, first, ends, p)
      else
        let foldable := !literal && first = ['\n'] && !indented && !isBlank c
        let joint := if !foldable then first else if ends.isEmpty then [' '] else []
        let text := p.unread.takeWhile (!isBreak ·)
        let p := p.skip text.length
        let first := p.unread.take 1
        match emptyLines (some depth) (p.unread.length + 1) 0 [] p.next with
        | none => none
        | some (_, more, after) =>
          blockLines literal depth fuel (read ++ joint ++ ends ++ text) first more (isBlank c) after

/-- A block of lines, behind its sign; `outer` is the indentation of what holds it. -/
def block (literal : Bool) (outer : Int) (p : Place) : Option (Scalar × Place) := do
  let (chomping, depth, p) ← blockMarks p
  let p ← afterHeader p
  let least := max (outer + 1) 1
  let given := depth.map fun d => ((max outer 0) + d).toNat
  let (deepest, ends, p) ← emptyLines given (p.unread.length + 1) 0 [] p
  let depth := given.getD (max deepest least.toNat)
  let (text, first, ends, p) ←
    blockLines literal depth (p.unread.length + 1) [] [] ends false p
  let tail := match chomping with
    | .strip => []
    | .clip => first
    | .keep => first ++ ends
  return (⟨String.ofList (text ++ tail), false⟩, p)

end Granary.Yaml
