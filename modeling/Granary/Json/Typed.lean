import Granary.Json.Form
import Granary.Json.Reader
import Granary.Named

/-!
# Reading typed values from JSON texts

A reader for values of one type stops at the first place of a text that is no JSON or holds a value
of another type, whichever comes first.
-/

namespace Granary.Json.Typed

open Reader (SyntaxCause skipSpace)

/-- Why a text does not hold what is asked for. -/
inductive Cause where
  | text (cause : SyntaxCause)
  | value (fault : Data.Fault)
  deriving Repr

def Cause.message : Cause → String
  | .text cause => cause.message
  | .value fault => fault.message

/-- A cause and the text that was still unread there. -/
structure Stop where
  cause : Cause
  unread : List Char
  deriving Repr

/-- Reads a value of one type from the front of a text and gives the rest. -/
abbrev Reading (α : Type) := List Char → Except Stop (α × List Char)

/-- Reads a value as a part of another one. -/
abbrev Part (σ : Type) := σ → Reading σ

variable {α σ : Type}

def ofText (r : Reader.Step α) : Except Stop (α × List Char) :=
  r.mapError fun stop => ⟨.text stop.cause, stop.unread⟩

def fault (fault : Data.Fault) (unread : List Char) : Except Stop (α × List Char) :=
  .error ⟨.value fault, unread⟩

/-- How deep the values may be nested that are passed over. -/
def depth : Nat := 127

/-- Reads a value of any type. -/
def anything : Reading Json := fun cs => ofText (Reader.readValue (2 * cs.length + 2) depth cs)

/-- Stops at a value that is not of the expected type: in front of a collection, behind other
values. -/
def unexpected (expected : Data.Expected) (cs : List Char) : Except Stop (α × List Char) :=
  match cs with
  | '[' :: _ => fault (.wrongType .sequence expected) cs
  | '{' :: _ => fault (.wrongType .map expected) cs
  | _ => do
    let (found, rest) ← anything cs
    fault (.wrongType (foundIn found) expected) rest

def text : Reading String := fun cs =>
  match skipSpace cs with
  | '"' :: rest => ofText (Reader.readString rest)
  | cs => unexpected .string cs

/-! ## Lists -/

/-- Goes to the next item of a list, or behind the list if there is none. -/
def nextItem (first : Bool) (cs : List Char) : Except Stop (Bool × List Char) :=
  match skipSpace cs with
  | [] => ofText (Reader.stopAt .endInArray [])
  | ']' :: rest => .ok (false, rest)
  | c :: rest =>
    if first then .ok (true, c :: rest)
    else if c = ',' then
      match skipSpace rest with
      | [] => ofText (Reader.stopAt .endInValue [])
      | ']' :: more => ofText (Reader.stopAfter .trailingComma (']' :: more))
      | more => .ok (true, more)
    else ofText (Reader.stopAfter .wantsCommaInArray (c :: rest))

/-- Goes behind a list that must end here. -/
def endOfList (cs : List Char) : Except Stop (Unit × List Char) :=
  match skipSpace cs with
  | [] => ofText (Reader.stopAt .endInArray [])
  | ']' :: rest => .ok ((), rest)
  | ',' :: rest =>
    match skipSpace rest with
    | ']' :: more => ofText (Reader.stopAfter .trailingComma (']' :: more))
    | more => ofText (Reader.stopAfter .trailingText more)
  | more => ofText (Reader.stopAfter .trailingText more)

/-- The items of a list up to its end; the first argument bounds their number. -/
def itemsFrom (item : Reading α) : Nat → Bool → Reading (List α)
  | 0, _, cs => .ok ([], cs)
  | fuel + 1, first, cs => do
    let (more, cs) ← nextItem first cs
    if more then
      let (a, cs) ← item cs
      let (rest, cs) ← itemsFrom item fuel false cs
      return (a :: rest, cs)
    else return ([], cs)

def listOf (item : Reading α) : Reading (List α) := fun cs =>
  match skipSpace cs with
  | '[' :: rest => itemsFrom item (rest.length + 1) true rest
  | cs => unexpected .sequence cs

/-- Reads parts from the items of a list, which has no further items; tells how many there are. -/
def partsFrom : List (Part σ) → Nat → σ → Reading (σ × Nat)
  | [], count, s, cs => do
    let (_, cs) ← endOfList cs
    return ((s, count), cs)
  | part :: parts, count, s, cs => do
    let (more, cs) ← nextItem (count == 0) cs
    if more then
      let (s, cs) ← part s cs
      partsFrom parts (count + 1) s cs
    else return ((s, count), cs)

/-- Reads all parts from a list of as many items. -/
def exactly (expected : Data.Expected) (parts : List (Part σ)) (start : σ) : Reading σ := fun cs =>
  match skipSpace cs with
  | '[' :: rest => do
    let ((s, count), cs) ← partsFrom parts 0 start rest
    if count < parts.length then fault (.wrongLength count expected) cs else return (s, cs)
  | cs => unexpected expected cs

/-! ## Objects -/

/-- Goes behind the next name in an object and the name itself, or behind the object. -/
def nextName (first : Bool) (cs : List Char) : Except Stop (Option String × List Char) :=
  let named (cs : List Char) : Except Stop (Option String × List Char) := do
    let (name, cs) ← ofText (Reader.readString cs)
    return (some name, cs)
  match skipSpace cs with
  | [] => ofText (Reader.stopAt .endInObject [])
  | '}' :: rest => .ok (none, rest)
  | c :: rest =>
    if first then
      if c = '"' then named rest else ofText (Reader.stopAfter .wantsName (c :: rest))
    else if c = ',' then
      match skipSpace rest with
      | [] => ofText (Reader.stopAt .endInValue [])
      | '"' :: more => named more
      | '}' :: more => ofText (Reader.stopAfter .trailingComma ('}' :: more))
      | more => ofText (Reader.stopAfter .wantsName more)
    else ofText (Reader.stopAfter .wantsCommaInObject (c :: rest))

/-- Goes behind the colon. -/
def colon (cs : List Char) : Except Stop (Unit × List Char) :=
  match skipSpace cs with
  | ':' :: rest => .ok ((), rest)
  | [] => ofText (Reader.stopAt .endInObject [])
  | more => ofText (Reader.stopAfter .wantsColon more)

/-- The values of an object under their names. -/
def namedFrom (value : Reading α) : Nat → Bool → Named α → Reading (Named α)
  | 0, _, read, cs => .ok (read, cs)
  | fuel + 1, first, read, cs => do
    match ← nextName first cs with
    | (none, cs) => return (read, cs)
    | (some name, cs) =>
      let (_, cs) ← colon cs
      let (a, cs) ← value cs
      namedFrom value fuel false (read.set name a) cs

/-- An object whose values are of one type; of values with one name the last one counts. -/
def namedOf (value : Reading α) : Reading (Named α) := fun cs =>
  match skipSpace cs with
  | '{' :: rest => namedFrom value (rest.length + 1) true [] rest
  | cs => unexpected .map cs

/-- Reads parts by their names, each at most once, and passes over other names. -/
def fieldsFrom (parts : Named (Part σ)) : Nat → List String → Bool → σ → Reading σ
  | 0, _, _, s, cs => .ok (s, cs)
  | fuel + 1, seen, first, s, cs => do
    match ← nextName first cs with
    | (none, cs) => return (s, cs)
    | (some name, cs) =>
      match parts.get? name with
      | some part =>
        if seen.contains name then fault (.duplicateField name) (skipSpace cs)
        else
          let (_, cs) ← colon cs
          let (s, cs) ← part s cs
          fieldsFrom parts fuel (name :: seen) false s cs
      | none =>
        let (_, cs) ← colon cs
        let (_, cs) ← anything cs
        fieldsFrom parts fuel seen false s cs

/-- A record of which every part may be left out, written as an object or as the list of its
parts. -/
def record (name : String) (parts : Named (Part σ)) (start : σ) : Reading σ := fun cs =>
  match skipSpace cs with
  | '{' :: rest => fieldsFrom parts (rest.length + 1) [] true start rest
  | '[' :: rest => do
    let ((s, _), cs) ← partsFrom (parts.map (·.2)) 0 start rest
    return (s, cs)
  | cs => unexpected (.record name) cs

/-! ## Whole texts -/

/-- Why and where a text does not hold what is asked for. -/
structure Mistake where
  cause : Cause
  place : Place
  deriving Repr

def Mistake.message (m : Mistake) : String :=
  s!"{m.cause.message} at line {m.place.line} column {m.place.column}"

/-- The value that a text holds. -/
def read (reading : Reading α) (s : String) : Except Mistake α :=
  let cs := s.toList
  let mistake (stop : Stop) : Mistake :=
    ⟨stop.cause, placeAfter (cs.take (cs.length - stop.unread.length))⟩
  match reading cs with
  | .error stop => .error (mistake stop)
  | .ok (a, rest) =>
    match skipSpace rest with
    | [] => .ok a
    | _ :: more => .error (mistake ⟨.text .trailingText, more⟩)

end Granary.Json.Typed
