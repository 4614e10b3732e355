import Granary.Named
import Granary.Yaml.Token
import Granary.Yaml.Value

/-!
# Reading YAML

A text holds one document.  Its tokens are made into a value by the grammar of YAML; an anchor names
the value that follows it, and a reference stands for the value named last by its anchor.
-/

namespace Granary.Yaml

/-- The tokens that are left, and what handles and anchors stand for. -/
structure Composer where
  tokens : List Token
  /-- What the declared handles of tags stand for. -/
  handles : Named String := []
  anchors : Named Yaml := []
  deriving Inhabited

/-- What stands in front of a value. -/
structure Properties where
  anchor : Option String := none
  tag : Option String := none

/-- Nothing written where a value may stand. -/
def absent (tag : Option String) : Yaml := .scalar ⟨"", true⟩ tag

/-! ## Which tokens end an empty value -/

def endsItem : Token → Bool
  | .item | .blockEnd => true
  | _ => false

def endsPart : Token → Bool
  | .key | .value | .blockEnd => true
  | _ => false

def endsListed : Token → Bool
  | .item | .key | .value | .blockEnd => true
  | _ => false

def endsSequenceKey : Token → Bool
  | .value | .comma | .sequenceEnd => true
  | _ => false

def endsSequenceValue : Token → Bool
  | .comma | .sequenceEnd => true
  | _ => false

def endsMappingKey : Token → Bool
  | .value | .comma | .mappingEnd => true
  | _ => false

def endsMappingValue : Token → Bool
  | .comma | .mappingEnd => true
  | _ => false

def endsDocument : Token → Bool
  | .version | .handle .. | .documentStart | .documentEnd => true
  | _ => false

namespace Composer

/-- Leaves the next token. -/
def drop (c : Composer) : Composer := { c with tokens := c.tokens.drop 1 }

def nextIs (c : Composer) (kind : Token → Bool) : Bool := c.tokens.head?.any kind

/-- Names a value. -/
def name (c : Composer) (anchor : Option String) (value : Yaml) : Composer :=
  match anchor with
  | some anchor => { c with anchors := c.anchors.set anchor value }
  | none => c

/-- A tag in full.  Two handles need no declaration. -/
def fullTag (c : Composer) (handle rest : String) : Option String :=
  if handle.isEmpty then some rest
  else
    match c.handles.get? handle with
    | some stem => some (stem ++ rest)
    | none =>
      if handle = "!" then some ("!" ++ rest)
      else if handle = "!!" then some ("tag:yaml.org,2002:" ++ rest)
      else none

/-- The anchor and the tag in front of a value, in either order. -/
def properties (c : Composer) : Option (Properties × Composer) :=
  match c.tokens with
  | .anchor a :: .tag h t :: rest
  | .tag h t :: .anchor a :: rest =>
    (c.fullTag h t).map fun tag => (⟨some a, some tag⟩, { c with tokens := rest })
  | .anchor a :: rest => some (⟨some a, none⟩, { c with tokens := rest })
  | .tag h t :: rest => (c.fullTag h t).map fun tag => (⟨none, some tag⟩, { c with tokens := rest })
  | _ => some ({}, c)

/-! ## Values

`block` tells whether collections may be written by indentation here, `listed` whether a sequence
may stand at the indentation of the key that it belongs to.  `fuel` bounds the steps taken. -/

mutual

def node : Nat → Bool → Bool → Composer → Option (Yaml × Composer)
  | 0, _, _, _ => none
  | fuel + 1, block, listed, c =>
    match c.tokens with
    | .reference name :: _ => do return (← c.anchors.get? name, c.drop)
    | _ => do
      let (p, c) ← c.properties
      let (value, c) ← content fuel block listed p c
      return (value, c.name p.anchor value)

/-- A value behind its properties. -/
def content : Nat → Bool → Bool → Properties → Composer → Option (Yaml × Composer)
  | 0, _, _, _, _ => none
  | fuel + 1, block, listed, p, c =>
    let other := if p.anchor.isSome || p.tag.isSome then some (absent p.tag, c) else none
    match c.tokens with
    | .scalar s :: _ => some (.scalar s p.tag, c.drop)
    | .sequenceStart :: _ => flowItems fuel true [] c.drop
    | .mappingStart :: _ => flowPairs fuel true [] c.drop
    | .blockSequence :: _ => if block then blockItems fuel [] c.drop else other
    | .blockMapping :: _ => if block then blockPairs fuel [] c.drop else other
    | .item :: _ => if listed then listedItems fuel [] c else other
    | _ => other

/-- A value, or none if a token of the given kind comes next. -/
def nodeOr : Nat → (Token → Bool) → Bool → Bool → Composer → Option (Yaml × Composer)
  | 0, _, _, _, _ => none
  | fuel + 1, ends, block, listed, c =>
    if c.nextIs ends then some (absent none, c) else node fuel block listed c

/-- The items of a sequence that is indented; `read` is in reverse. -/
def blockItems : Nat → List Yaml → Composer → Option (Yaml × Composer)
  | 0, _, _ => none
  | fuel + 1, read, c =>
    match c.tokens with
    | .item :: _ => do
      let (item, c) ← nodeOr fuel endsItem true false c.drop
      blockItems fuel (item :: read) c
    | .blockEnd :: _ => some (.sequence read.reverse, c.drop)
    | _ => none

/-- The items of a sequence that is not indented. -/
def listedItems : Nat → List Yaml → Composer → Option (Yaml × Composer)
  | 0, _, _ => none
  | fuel + 1, read, c =>
    match c.tokens with
    | .item :: _ => do
      let (item, c) ← nodeOr fuel endsListed true false c.drop
      listedItems fuel (item :: read) c
    | _ => some (.sequence read.reverse, c)

/-- The pairs of a mapping that is indented. -/
def blockPairs : Nat → List (Yaml × Yaml) → Composer → Option (Yaml × Composer)
  | 0, _, _ => none
  | fuel + 1, read, c =>
    match c.tokens with
    | .key :: _ => do
      let (key, c) ← nodeOr fuel endsPart true true c.drop
      let (value, c) ← valueOr fuel endsPart true c
      blockPairs fuel ((key, value) :: read) c
    | .blockEnd :: _ => some (.mapping read.reverse, c.drop)
    | _ => none

/-- The value of a key; without a colon there is none. -/
def valueOr : Nat → (Token → Bool) → Bool → Composer → Option (Yaml × Composer)
  | 0, _, _, _ => none
  | fuel + 1, ends, block, c =>
    match c.tokens with
    | .value :: _ => nodeOr fuel ends block block c.drop
    | _ => some (absent none, c)

/-- The items of a sequence between brackets. -/
def flowItems : Nat → Bool → List Yaml → Composer → Option (Yaml × Composer)
  | 0, _, _, _ => none
  | fuel + 1, first, read, c =>
    match c.tokens with
    | .sequenceEnd :: _ => some (.sequence read.reverse, c.drop)
    | next :: _ =>
      if !first && next != .comma then none
      else
        let c := if first then c else c.drop
        match c.tokens with
        | .sequenceEnd :: _ => some (.sequence read.reverse, c.drop)
        | .key :: _ => do
          let (pair, c) ← flowPair fuel c.drop
          flowItems fuel false (pair :: read) c
        | _ => do
          let (item, c) ← node fuel false false c
          flowItems fuel false (item :: read) c
    | [] => none

/-- A mapping of one pair that is an item between brackets.  Where the key is missing, the token
that tells so is passed over. -/
def flowPair : Nat → Composer → Option (Yaml × Composer)
  | 0, _ => none
  | fuel + 1, c => do
    let (key, c) ←
      if c.nextIs endsSequenceKey then some (absent none, c.drop) else node fuel false false c
    let (value, c) ← valueOr fuel endsSequenceValue false c
    return (.mapping [(key, value)], c)

/-- The pairs of a mapping between braces. -/
def flowPairs : Nat → Bool → List (Yaml × Yaml) → Composer → Option (Yaml × Composer)
  | 0, _, _, _ => none
  | fuel + 1, first, read, c =>
    match c.tokens with
    | .mappingEnd :: _ => some (.mapping read.reverse, c.drop)
    | next :: _ =>
      if !first && next != .comma then none
      else
        let c := if first then c else c.drop
        match c.tokens with
        | .mappingEnd :: _ => some (.mapping read.reverse, c.drop)
        | .key :: _ => do
          let (key, c) ← nodeOr fuel endsMappingKey false false c.drop
          let (value, c) ← valueOr fuel endsMappingValue false c
          flowPairs fuel false ((key, value) :: read) c
        | _ => do
          let (key, c) ← node fuel false false c
          flowPairs fuel false ((key, absent none) :: read) c
    | [] => none

end

/-- The directives in front of a document. -/
def directives (c : Composer) (versioned : Bool) : List Token → Option Composer
  | .version :: rest => if versioned then none else directives c true rest
  | .handle name stem :: rest =>
    if c.handles.contains name then none
    else directives { c with handles := c.handles.set name stem } versioned rest
  | rest => some { c with tokens := rest }

end Composer

/-- The only document of a text. -/
def document (tokens : List Token) : Option Yaml := do
  let fuel := 6 * tokens.length + 6
  let (value, c) ← match tokens with
    | [] => none
    | first :: _ =>
      if endsDocument first then do
        let c ← Composer.directives { tokens := [] } false tokens
        if c.nextIs (· == .documentStart) then
          let c := c.drop
          if c.tokens.isEmpty || c.nextIs endsDocument then some (absent none, c)
          else c.node fuel true false
        else none
      else Composer.node fuel true false { tokens }
  if (c.tokens.dropWhile (· == .documentEnd)).isEmpty then some value else none

/-- The value of a text. -/
def read (s : String) : Option Yaml := (tokens s).bind document

end Granary.Yaml
