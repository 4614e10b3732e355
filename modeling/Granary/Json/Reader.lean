import Granary.Json.Value
import Granary.Decimal.Reading

/-!
# Reading JSON texts

A text is one value between blanks.  The first place where it stops being JSON is reported by
line and by the bytes of that line.  Values may be nested 127 deep.
-/

namespace Granary.Json.Reader

/-- Why a text is not JSON. -/
inductive SyntaxCause where
  | endInArray | endInObject | endInString | endInValue
  | wantsColon | wantsCommaInArray | wantsCommaInObject | wantsWord | wantsValue
  | wantsName
  | badEscape | badNumber | numberTooLarge | controlInString
  | loneSurrogate | brokenPair
  | trailingComma | trailingText
  | tooDeep
  deriving DecidableEq, Repr

def SyntaxCause.message : SyntaxCause → String
  | .endInArray => "EOF while parsing a list"
  | .endInObject => "EOF while parsing an object"
  | .endInString => "EOF while parsing a string"
  | .endInValue => "EOF while parsing a value"
  | .wantsColon => "expected `:`"
  | .wantsCommaInArray => "expected `,` or `]`"
  | .wantsCommaInObject => "expected `,` or `\x7d`"
  | .wantsWord => "expected ident"
  | .wantsValue => "expected value"
  | .wantsName => "key must be a string"
  | .badEscape => "invalid escape"
  | .badNumber => "invalid number"
  | .numberTooLarge => "number out of range"
  | .controlInString => "control character (\\u0000-\\u001F) found while parsing a string"
  | .loneSurrogate => "lone leading surrogate in hex escape"
  | .brokenPair => "unexpected end of hex escape"
  | .trailingComma => "trailing comma"
  | .trailingText => "trailing characters"
  | .tooDeep => "recursion limit exceeded"

/-- A cause and the text that was still unread there. -/
structure Stop where
  cause : SyntaxCause
  unread : List Char

/-- What a reader took from the front of a text, and the rest. -/
abbrev Step (α : Type) := Except Stop (α × List Char)

/-- Stops in front of the next character. -/
def stopAt {α : Type} (cause : SyntaxCause) (cs : List Char) : Except Stop α := .error ⟨cause, cs⟩

/-- Stops behind the next character, as a reader does that has only looked at it. -/
def stopAfter {α : Type} (cause : SyntaxCause) (cs : List Char) : Except Stop α :=
  .error ⟨cause, cs.drop 1⟩

def isSpace (c : Char) : Bool := c = ' ' || c = '\n' || c = '\t' || c = '\r'

def skipSpace (cs : List Char) : List Char := cs.dropWhile isSpace

/-- The rest of a word such as `null`, of which the first letter is read. -/
def word : List Char → List Char → Step Unit
  | [], cs => .ok ((), cs)
  | _ :: _, [] => stopAt .endInValue []
  | w :: ws, c :: cs => if w = c then word ws cs else stopAt .wantsWord cs

def hexValue? (c : Char) : Option Nat :=
  if c.isDigit then some (c.toNat - '0'.toNat)
  else if 'a' ≤ c ∧ c ≤ 'f' then some (c.toNat - 'a'.toNat + 10)
  else if 'A' ≤ c ∧ c ≤ 'F' then some (c.toNat - 'A'.toNat + 10)
  else none

/-- Four digits in base sixteen. -/
def hexUnit : List Char → Step Nat
  | a :: b :: c :: d :: rest =>
    match hexValue? a, hexValue? b, hexValue? c, hexValue? d with
    | some a, some b, some c, some d => .ok (((a * 16 + b) * 16 + c) * 16 + d, rest)
    | _, _, _, _ => stopAt .badEscape rest
  | _ => stopAt .endInString []

/-- The second half of a pair of code units, after the first. -/
def lowUnit (high : Nat) (cs : List Char) : Step Char :=
  match cs with
  | [] => stopAt .endInString []
  | '\\' :: [] => stopAt .endInString []
  | '\\' :: 'u' :: rest =>
    match hexUnit rest with
    | .error e => .error e
    | .ok (low, rest) =>
      if low < 0xDC00 ∨ low > 0xDFFF then stopAt .loneSurrogate rest
      else .ok (Char.ofNat (0x10000 + (high - 0xD800) * 0x400 + (low - 0xDC00)), rest)
  | '\\' :: _ :: rest => stopAt .brokenPair rest
  | _ :: rest => stopAt .brokenPair rest

/-- The character of an escape by code units, after its `u`. -/
def unicodeEscape (cs : List Char) : Step Char :=
  match hexUnit cs with
  | .error e => .error e
  | .ok (unit, rest) =>
    if 0xDC00 ≤ unit ∧ unit ≤ 0xDFFF then stopAt .loneSurrogate rest
    else if 0xD800 ≤ unit ∧ unit ≤ 0xDBFF then lowUnit unit rest
    else .ok (Char.ofNat unit, rest)

/-- The character of an escape after its backslash. -/
def escape : List Char → Step Char
  | [] => stopAt .endInString []
  | c :: rest =>
    if c = '"' ∨ c = '\\' ∨ c = '/' then .ok (c, rest)
    else if c = 'b' then .ok ('\x08', rest)
    else if c = 'f' then .ok ('\x0c', rest)
    else if c = 'n' then .ok ('\n', rest)
    else if c = 'r' then .ok ('\r', rest)
    else if c = 't' then .ok ('\t', rest)
    else if c = 'u' then unicodeEscape rest
    else stopAt .badEscape rest

/-- The characters of a string up to its closing quote; `fuel` bounds their number. -/
def stringBody : Nat → List Char → List Char → Step String
  | 0, _, cs => stopAt .endInString cs
  | _ + 1, _, [] => stopAt .endInString []
  | fuel + 1, acc, c :: cs =>
    if c = '"' then .ok (String.ofList acc.reverse, cs)
    else if c = '\\' then
      match escape cs with
      | .ok (d, rest) => stringBody fuel (d :: acc) rest
      | .error e => .error e
    else if c.toNat < 0x20 then stopAt .controlInString cs
    else stringBody fuel (c :: acc) cs

/-- A string after its opening quote. -/
def readString (cs : List Char) : Step String := stringBody (cs.length + 1) [] cs

/-- The largest unsigned word. -/
def wordMax : Nat := twoTo 64 - 1

/-- Takes digits into one word while they fit; gives the word, the count taken and the rest. -/
def takeWord : Nat → Nat → List Char → Nat × Nat × List Char
  | word, n, c :: cs =>
    if c.isDigit && word * 10 + Decimal.digitValue c ≤ wordMax then
      takeWord (word * 10 + Decimal.digitValue c) (n + 1) cs
    else (word, n, c :: cs)
  | word, n, [] => (word, n, [])

def signed (negative : Bool) (x : Float) : Json := .number (.float (if negative then -x else x))

def scaledNumber (negative : Bool) (word : Nat) (power : Int) (cs : List Char) : Step Json :=
  match Decimal.scaled? word power with
  | some x => .ok (signed negative x, cs)
  | none => stopAt .numberTooLarge cs

/-- The exponent after its letter. -/
def exponentPart (negative : Bool) (word : Nat) (power : Int) (cs : List Char) : Step Json :=
  let (down, cs) := match cs with
    | '-' :: r => (true, r)
    | '+' :: r => (false, r)
    | r => (false, r)
  match cs with
  | [] => stopAt .endInValue []
  | c :: rest =>
    if c.isDigit then
      let (ds, rest) := Decimal.digits cs
      let e : Int := Decimal.natOfDigits ds
      scaledNumber negative word (if down then power - e else power + e) rest
    else stopAt .badNumber rest

/-- What follows the digits of a number: an exponent or nothing. -/
def exponentOrEnd (negative : Bool) (word : Nat) (power : Int) (cs : List Char) : Step Json :=
  match cs with
  | c :: rest =>
    if c = 'e' ∨ c = 'E' then exponentPart negative word power rest
    else scaledNumber negative word power cs
  | [] => scaledNumber negative word power []

/-- The fraction after the point.  Digits that no longer fit the word are dropped. -/
def fractionPart (negative : Bool) (word : Nat) (power : Int) (cs : List Char) : Step Json :=
  let (word, taken, rest) := takeWord word 0 cs
  let dropped := rest.takeWhile Char.isDigit
  if taken = 0 ∧ dropped.isEmpty then
    if rest.isEmpty then stopAt .endInValue [] else stopAfter .badNumber rest
  else exponentOrEnd negative word (power - taken) (rest.drop dropped.length)

/-- What follows the integer digits; digits that no longer fit the word count as powers of ten. -/
def afterInteger (negative : Bool) (word : Nat) (cs : List Char) : Step Json :=
  let surplus := cs.takeWhile Char.isDigit
  let rest := cs.drop surplus.length
  let power : Int := surplus.length
  match rest with
  | '.' :: more => fractionPart negative word power more
  | c :: more =>
    if c = 'e' ∨ c = 'E' then exponentPart negative word power more
    else finish surplus.isEmpty power rest
  | [] => finish surplus.isEmpty power []
where
  /-- A number without point and exponent: an integer if one word holds it and it is no minus
  zero. -/
  finish (whole : Bool) (power : Int) (rest : List Char) : Step Json :=
    if whole then
      if !negative then .ok (Json.int word, rest)
      else if word = 0 ∨ word > twoTo 63 then .ok (signed true (Float.ofNat word), rest)
      else .ok (Json.int (-(word : Int)), rest)
    else scaledNumber negative word power rest

/-- A number after its sign. -/
def readNumber (negative : Bool) (cs : List Char) : Step Json :=
  match cs with
  | '0' :: c :: rest =>
    if c.isDigit then stopAfter .badNumber (c :: rest) else afterInteger negative 0 (c :: rest)
  | '0' :: [] => afterInteger negative 0 []
  | c :: rest =>
    if c.isDigit then
      let (word, _, rest) := takeWord 0 0 (c :: rest)
      afterInteger negative word rest
    else stopAt .badNumber rest
  | [] => stopAt .badNumber []

mutual

/-- One value; `depth` containers may still be opened.  `fuel` bounds the steps taken. -/
def readValue : Nat → Nat → List Char → Step Json
  | 0, _, cs => stopAt .tooDeep cs
  | fuel + 1, depth, cs =>
    match skipSpace cs with
    | [] => stopAt .endInValue []
    | c :: rest =>
      if c = 'n' then (word ['u', 'l', 'l'] rest).map fun r => (.null, r.2)
      else if c = 't' then (word ['r', 'u', 'e'] rest).map fun r => (.bool true, r.2)
      else if c = 'f' then (word ['a', 'l', 's', 'e'] rest).map fun r => (.bool false, r.2)
      else if c = '-' then readNumber true rest
      else if c.isDigit then readNumber false (c :: rest)
      else if c = '"' then (readString rest).map fun r => (.string r.1, r.2)
      else if c = '[' then
        if depth ≤ 1 then stopAfter .tooDeep (c :: rest)
        else readItems fuel (depth - 1) true [] rest
      else if c = '{' then
        if depth ≤ 1 then stopAfter .tooDeep (c :: rest)
        else readFields fuel (depth - 1) true [] rest
      else stopAfter .wantsValue (c :: rest)

/-- The items of an array after those in `acc`, which are in reverse. -/
def readItems : Nat → Nat → Bool → List Json → List Char → Step Json
  | 0, _, _, _, cs => stopAt .tooDeep cs
  | fuel + 1, depth, first, acc, cs =>
    match skipSpace cs with
    | [] => stopAt .endInArray []
    | c :: rest =>
      if c = ']' then .ok (.array acc.reverse, rest)
      else
        let start : Except Stop (List Char) :=
          if first then .ok (c :: rest)
          else if c = ',' then
            match skipSpace rest with
            | [] => stopAt .endInValue []
            | ']' :: more => stopAfter .trailingComma (']' :: more)
            | more => .ok more
          else stopAfter .wantsCommaInArray (c :: rest)
        match start with
        | .error e => .error e
        | .ok start =>
          match readValue fuel depth start with
          | .error e => .error e
          | .ok (item, rest) => readItems fuel depth false (item :: acc) rest

/-- The fields of an object after those in `acc`. -/
def readFields : Nat → Nat → Bool → List (String × Json) → List Char → Step Json
  | 0, _, _, _, cs => stopAt .tooDeep cs
  | fuel + 1, depth, first, acc, cs =>
    match skipSpace cs with
    | [] => stopAt .endInObject []
    | c :: rest =>
      if c = '}' then .ok (.object acc, rest)
      else
        let start : Except Stop (List Char) :=
          if first then
            if c = '"' then .ok rest else stopAfter .wantsName (c :: rest)
          else if c = ',' then
            match skipSpace rest with
            | [] => stopAt .endInValue []
            | '"' :: more => .ok more
            | '}' :: more => stopAfter .trailingComma ('}' :: more)
            | more => stopAfter .wantsName more
          else stopAfter .wantsCommaInObject (c :: rest)
        match start with
        | .error e => .error e
        | .ok start =>
          match readString start with
          | .error e => .error e
          | .ok (name, rest) =>
            match skipSpace rest with
            | ':' :: rest =>
              match readValue fuel depth rest with
              | .error e => .error e
              | .ok (v, rest) => readFields fuel depth false (insertField name v acc) rest
            | [] => stopAt .endInObject []
            | other => stopAfter .wantsColon other

end

end Granary.Json.Reader

namespace Granary.Json

/-- A place in a text: lines count from one, columns in bytes. -/
structure Place where
  line : Nat
  column : Nat
  deriving DecidableEq, Repr

/-- The place reached after reading some characters. -/
def placeAfter (cs : List Char) : Place :=
  cs.foldl (fun p c => if c = '\n' then ⟨p.line + 1, 0⟩ else ⟨p.line, p.column + c.utf8Size⟩) ⟨1, 0⟩

/-- Why and where a text is not JSON. -/
structure SyntaxFault where
  cause : Reader.SyntaxCause
  place : Place
  deriving DecidableEq, Repr

def SyntaxFault.message (f : SyntaxFault) : String :=
  s!"{f.cause.message} at line {f.place.line} column {f.place.column}"

/-- The value of a text. -/
def read (s : String) : Except SyntaxFault Json :=
  let cs := s.toList
  let fault (stop : Reader.Stop) : SyntaxFault :=
    ⟨stop.cause, placeAfter (cs.take (cs.length - stop.unread.length))⟩
  match Reader.readValue (2 * cs.length + 2) 128 cs with
  | .error stop => .error (fault stop)
  | .ok (j, rest) =>
    match Reader.skipSpace rest with
    | [] => .ok j
    | _ :: more => .error (fault ⟨.trailingText, more⟩)

end Granary.Json
