import Granary.Decimal.Reading
import Granary.Text.Digit
import Granary.Toml.Table

/-!
# TOML strings, numbers and moments

Each reader takes one item from the front of a text and gives it with the rest.
-/

namespace Granary.Toml.Reader

/-- A reader of one item. -/
abbrev Read (α : Type) := List Char → Option (α × List Char)

/-- A blank within a line. -/
def isSpace (c : Char) : Bool := c = ' ' || c = '\t'

def skipSpace (cs : List Char) : List Char := cs.dropWhile isSpace

/-- A character that may stand within a line. -/
def isPlain (c : Char) : Bool := c = '\t' || (c.toNat ≥ 0x20 && c.toNat != 0x7F)

/-- The text behind the end of a line. -/
def afterLine? : List Char → Option (List Char)
  | '\n' :: cs => some cs
  | '\r' :: '\n' :: cs => some cs
  | _ => none

/-! ## Strings -/

/-- The character that an escape stands for, and the length of the escape behind its backslash. -/
def escape? : List Char → Option (Char × Nat)
  | 'b' :: _ => some ('\x08', 1)
  | 't' :: _ => some ('\t', 1)
  | 'n' :: _ => some ('\n', 1)
  | 'f' :: _ => some ('\x0c', 1)
  | 'r' :: _ => some ('\r', 1)
  | '"' :: _ => some ('"', 1)
  | '\\' :: _ => some ('\\', 1)
  | 'u' :: cs => if cs.length < 4 then none else (Text.coded? (cs.take 4)).map (·, 5)
  | 'U' :: cs => if cs.length < 8 then none else (Text.coded? (cs.take 8)).map (·, 9)
  | _ => none

/-- A string within a line, behind its opening quote. -/
def quoted : List Char → Option (List Char × List Char)
  | [] => none
  | c :: cs =>
    if c = '"' then some ([], cs)
    else if c = '\\' then do
      let (d, length) ← escape? cs
      let (body, rest) ← quoted (cs.drop length)
      return (d :: body, rest)
    else if isPlain c then do
      let (body, rest) ← quoted cs
      return (c :: body, rest)
    else none
termination_by cs => cs.length
decreasing_by
  all_goals
    simp only [List.length_cons, List.length_drop]
    omega

/-- A string within a line that has no escapes, behind its opening quote. -/
def literal (cs : List Char) : Option (List Char × List Char) :=
  let body := cs.takeWhile (· != '\'')
  match cs.drop body.length with
  | _ :: rest => if body.all isPlain then some (body, rest) else none
  | [] => none

/-- How many quotes the text begins with. -/
def quotes (quote : Char) (cs : List Char) : Nat := (cs.takeWhile (· == quote)).length

/-- Whether a backslash before this text takes away the end of its line. -/
def endsLine (cs : List Char) : Bool := (afterLine? (skipSpace cs)).isSome

/-- A string over several lines, behind its opening quotes.  It ends with three quotes, and up to
two more may stand before them.  While `folding`, blanks and ends of lines are left out. -/
def manyLines (quote : Char) (escapes : Bool) : Bool → Read (List Char)
  | _, [] => none
  | folding, c :: cs =>
    if folding && isSpace c then manyLines quote escapes true cs
    else
      match afterLine? (c :: cs) with
      | some rest =>
        if folding then manyLines quote escapes true (cs.drop (cs.length - rest.length))
        else do
          let (body, rest) ← manyLines quote escapes false (cs.drop (cs.length - rest.length))
          return ('\n' :: body, rest)
      | none =>
        let run := quotes quote (c :: cs)
        if 3 ≤ run then
          let extra := min (run - 3) 2
          some (List.replicate extra quote, (c :: cs).drop (extra + 3))
        else if escapes && c = '\\' then
          if endsLine cs then manyLines quote escapes true cs
          else do
            let (d, length) ← escape? cs
            let (body, rest) ← manyLines quote escapes false (cs.drop length)
            return (d :: body, rest)
        else if isPlain c then do
          let (body, rest) ← manyLines quote escapes false cs
          return (c :: body, rest)
        else none
termination_by _ cs => cs.length
decreasing_by
  all_goals
    simp only [List.length_cons, List.length_drop]
    omega

/-- A string over several lines; the end of a line right behind the opening quotes is left out. -/
def block (quote : Char) (escapes : Bool) (cs : List Char) : Option (List Char × List Char) :=
  manyLines quote escapes false ((afterLine? cs).getD cs)

/-- A string of any kind. -/
def string (cs : List Char) : Option (String × List Char) :=
  let body := match cs with
    | '"' :: '"' :: '"' :: rest => block '"' true rest
    | '"' :: rest => quoted rest
    | '\'' :: '\'' :: '\'' :: rest => block '\'' false rest
    | '\'' :: rest => literal rest
    | _ => none
  body.map fun (body, rest) => (String.ofList body, rest)

/-! ## Numbers -/

/-- Digits that may have single underscores between them, as far as they go. -/
def digitsIn (base : Nat) : List Char → List Nat × List Char
  | '_' :: c :: cs =>
    match Text.digit? base c with
    | some d => let (ds, rest) := digitsIn base cs; (d :: ds, rest)
    | none => ([], '_' :: c :: cs)
  | c :: cs =>
    match Text.digit? base c with
    | some d => let (ds, rest) := digitsIn base cs; (d :: ds, rest)
    | none => ([], c :: cs)
  | [] => ([], [])

/-- At least one digit. -/
def someDigits (base : Nat) (cs : List Char) : Option (List Nat × List Char) :=
  match cs with
  | c :: _ => if (Text.digit? base c).isSome then some (digitsIn base cs) else none
  | [] => none

/-- Digits of which the first is no zero, unless it is the only one. -/
def wholeDigits (cs : List Char) : Option (List Nat × List Char) :=
  match cs with
  | '0' :: rest => some ([0], rest)
  | _ => someDigits 10 cs

/-- Whether a sign is a minus, and the text behind the sign. -/
def sign (cs : List Char) : Bool × List Char :=
  match cs with
  | '-' :: rest => (true, rest)
  | '+' :: rest => (false, rest)
  | _ => (false, cs)

/-- An integer, if one signed word holds it. -/
def word? (n : Int) : Option Toml :=
  if -(twoTo 63 : Int) ≤ n ∧ n < twoTo 63 then some (.integer n) else none

def based (base : Nat) (cs : List Char) : Option (Toml × List Char) := do
  let (ds, rest) ← someDigits base cs
  return (← word? (Text.ofDigits base ds), rest)

/-- The exponent behind its letter. -/
def exponent (cs : List Char) : Option (Int × List Char) := do
  let (negative, cs) := sign cs
  let (ds, rest) ← someDigits 10 cs
  let n : Int := Text.ofDigits 10 ds
  return (if negative then -n else n, rest)

def signedFloat (negative : Bool) (x : Float) : Toml := .float (if negative then -x else x)

/-- A finite float with the given digits; on the side of minus it may be too large. -/
def float? (negative : Bool) (digits : List Nat) (power : Int) : Option Toml :=
  let x := Decimal.nearest (Text.ofDigits 10 digits) power
  if x.isInf && !negative then none else some (signedFloat negative x)

/-- What follows the digits before the point. -/
def number (negative : Bool) (whole : List Nat) (cs : List Char) : Option (Toml × List Char) :=
  match cs with
  | '.' :: cs => do
    let (fraction, rest) ← someDigits 10 cs
    let (power, rest) ← match rest with
      | 'e' :: r | 'E' :: r => exponent r
      | r => some (0, r)
    return (← float? negative (whole ++ fraction) (power - fraction.length), rest)
  | 'e' :: cs | 'E' :: cs => do
    let (power, rest) ← exponent cs
    return (← float? negative whole power, rest)
  | rest => do
    let n : Int := Text.ofDigits 10 whole
    return (← word? (if negative then -n else n), rest)

/-- A decimal number with its sign. -/
def decimal (cs : List Char) : Option (Toml × List Char) :=
  match sign cs with
  | (negative, 'i' :: 'n' :: 'f' :: rest) => some (signedFloat negative (1.0 / 0.0), rest)
  | (negative, 'n' :: 'a' :: 'n' :: rest) => some (signedFloat negative (0.0 / 0.0), rest)
  | (negative, rest) => do
    let (whole, rest) ← wholeDigits rest
    number negative whole rest

/-! ## Moments -/

/-- A number of exactly two digits between two bounds. -/
def twoDigits (least greatest : Nat) : List Char → Option (Nat × List Char)
  | a :: b :: rest => do
    let n ← Text.numeral? 10 [a, b]
    if least ≤ n ∧ n ≤ greatest then some (n, rest) else none
  | _ => none

/-- The text behind one character. -/
def after (c : Char) : List Char → Option (List Char)
  | d :: rest => if d = c then some rest else none
  | [] => none

def daysInMonth (year month : Nat) : Nat :=
  if month = 2 then if year % 4 = 0 ∧ (year % 100 ≠ 0 ∨ year % 400 = 0) then 29 else 28
  else if month = 4 ∨ month = 6 ∨ month = 9 ∨ month = 11 then 30
  else 31

/-- Whether the text begins as dates do: four digits and a hyphen. -/
def startsDate : List Char → Bool
  | a :: b :: c :: d :: '-' :: _ => [a, b, c, d].all Char.isDigit
  | _ => false

/-- Whether the text begins as times of day do: two digits and a colon. -/
def startsTime : List Char → Bool
  | a :: b :: ':' :: _ => a.isDigit && b.isDigit
  | _ => false

/-- The text behind a date. -/
def afterDate (cs : List Char) : Option (List Char) := do
  let year ← Text.numeral? 10 (cs.take 4)
  let (month, rest) ← twoDigits 1 12 (← after '-' (cs.drop 4))
  let (_, rest) ← twoDigits 1 (daysInMonth year month) (← after '-' rest)
  return rest

/-- The text behind a time of day. -/
def afterTime (cs : List Char) : Option (List Char) := do
  let (_, rest) ← twoDigits 0 23 cs
  let (_, rest) ← twoDigits 0 59 (← after ':' rest)
  let (_, rest) ← twoDigits 0 60 (← after ':' rest)
  match rest with
  | '.' :: c :: more => if c.isDigit then some (more.dropWhile Char.isDigit) else none
  | '.' :: [] => none
  | rest => some rest

/-- The text behind the offset of a time of day, if there is one. -/
def afterOffset (cs : List Char) : Option (List Char) :=
  match cs with
  | 'Z' :: rest | 'z' :: rest => some rest
  | '+' :: rest | '-' :: rest => do
    let (_, rest) ← twoDigits 0 23 rest
    let (_, rest) ← twoDigits 0 59 (← after ':' rest)
    return rest
  | rest => some rest

/-- The text behind a date that may have a time of day. -/
def afterMoment (cs : List Char) : Option (List Char) := do
  let rest ← afterDate cs
  match rest with
  | c :: time =>
    if (c = 'T' ∨ c = 't' ∨ c = ' ') ∧ startsTime time then afterOffset (← afterTime time)
    else some rest
  | [] => some []

/-- A value that begins with a digit or a sign. -/
def numeric (cs : List Char) : Option (Toml × List Char) :=
  if startsDate cs then (afterMoment cs).map (.moment, ·)
  else if startsTime cs then (afterTime cs).map (.moment, ·)
  else
    match cs with
    | '0' :: 'x' :: rest => based 16 rest
    | '0' :: 'o' :: rest => based 8 rest
    | '0' :: 'b' :: rest => based 2 rest
    | _ => decimal cs

end Granary.Toml.Reader
