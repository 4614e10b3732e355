import Granary.Data.Fault

/-!
# Decoding values of a data format

A format presents its values as scalars, lists and maps (`Form`).  A record is written as a map
from field names, where unknown names are ignored, or as the list of its fields in order.  The
fields of a map are decoded in the order in which the map has them, so of several faults the one
met first is reported, and a missing field only when all that are there are sound.
-/

namespace Granary.Data

/-- How a value is composed. -/
inductive Shape (ν : Type) where
  | scalar
  | list (items : List ν)
  | map (entries : List (String × ν))

/-- A data format: how its values `ν` are read. -/
class Form (ν : Type) where
  shape : ν → Shape ν
  text? : ν → Option String
  integer? : ν → Option Int
  bool? : ν → Option Bool
  isNull : ν → Bool
  found : ν → Found
  /-- Whether a list may not hold more items than a record has fields. -/
  exact : Bool

export Form (shape text? integer? bool? isNull found)

variable {ν α β : Type} [Form ν]

abbrev Decoder (ν α : Type) := ν → Except Fault α

def text : Decoder ν String := fun v =>
  match text? v with
  | some s => .ok s
  | none => .error (.wrongType (found v) .string)

def boolean : Decoder ν Bool := fun v =>
  match bool? v with
  | some b => .ok b
  | none => .error (.wrongType (found v) .boolean)

/-- An integer of the given width. -/
def integer (width : Width) : Decoder ν Int := fun v =>
  match integer? v with
  | some n =>
    if width.least ≤ n ∧ n ≤ width.greatest then .ok n
    else .error (.wrongValue (found v) (.integer width))
  | none => .error (.wrongType (found v) (.integer width))

/-- An unsigned integer of the given width. -/
def natural (width : Width) : Decoder ν Nat := fun v => (integer width v).map Int.toNat

/-- A list of values, the first bad one of which is reported. -/
def listOf (item : Decoder ν α) : Decoder ν (List α) := fun v =>
  match shape v with
  | .list items => items.mapM item
  | _ => .error (.wrongType (found v) .sequence)

/-- `none` for a null. -/
def optional (inner : Decoder ν α) : Decoder ν (Option α) := fun v =>
  if isNull v then .ok none else (inner v).map some

/-- The default for a null. -/
def nullOr (default : α) (inner : Decoder ν α) : Decoder ν α := fun v =>
  if isNull v then .ok default else inner v

/-- The variants of an enumeration with the names that each may be written as. -/
structure Choice (α : Type) where
  variants : List (α × List String)
  /-- What every other name stands for. -/
  other : Option α

namespace Choice

def named? (c : Choice α) (name : String) : Option α :=
  ((c.variants.find? fun v => v.2.contains name).map (·.1)).or c.other

def ofName (c : Choice α) (name : String) : Except Fault α :=
  match c.named? name with
  | some a => .ok a
  | none => .error (.unknownVariant name (c.variants.flatMap (·.2)))

/-- A variant written as its name, or as a map from its name to null. -/
def decode (c : Choice α) : Decoder ν α := fun v =>
  match shape v with
  | .map [(name, inner)] => do
    let a ← c.ofName name
    if isNull inner then pure a else throw (.wrongType (found inner) .unit)
  | .map _ => .error (.wrongValue .map .oneField)
  | .list _ => .error (.wrongType (found v) .choice)
  | .scalar =>
    match text? v with
    | some name => c.ofName name
    | none => .error (.wrongType (found v) .choice)

end Choice

/-- When a field may be left out. -/
inductive Need where
  | always
  /-- Only where the record is written as a map. -/
  | inList
  | never
  deriving DecidableEq, Repr

/-- One field of a record as far as writing goes. -/
structure Rule (ν : Type) where
  name : String
  aliases : List String
  need : Need
  check : Decoder ν Unit

def Rule.answersTo (r : Rule ν) (name : String) : Bool := r.name == name || r.aliases.contains name

/-- The fields of a record and how the record is made of them. -/
structure Fields (ν α : Type) where
  rules : List (Rule ν)
  build : (String → Option ν) → Except Fault α

namespace Fields

instance : Functor (Fields ν) where
  map f x := ⟨x.rules, fun get => (x.build get).map f⟩

instance : Seq (Fields ν) where
  seq f x := ⟨f.rules ++ (x ()).rules, fun get => do return (← f.build get) (← (x ()).build get)⟩

end Fields

/-- A field that must be there. -/
def field (name : String) (d : Decoder ν α) (aliases : List String := []) : Fields ν α where
  rules := [⟨name, aliases, .always, fun v => (d v).map fun _ => ()⟩]
  build get := match get name with
    | some v => d v
    | none => .error (.missingField name)

/-- A field with a default. -/
def fieldOr (name : String) (default : α) (d : Decoder ν α) (aliases : List String := []) :
    Fields ν α where
  rules := [⟨name, aliases, .never, fun v => (d v).map fun _ => ()⟩]
  build get := match get name with
    | some v => d v
    | none => .ok default

/-- A field that is `none` when a map leaves it out. -/
def fieldOption (name : String) (d : Decoder ν α) (aliases : List String := []) :
    Fields ν (Option α) where
  rules := [⟨name, aliases, .inList, fun v => (optional d v).map fun _ => ()⟩]
  build get := match get name with
    | some v => optional d v
    | none => .ok none

/-- The values found for fields, by name. -/
abbrev Slots (ν : Type) := List (String × ν)

def Slots.get (slots : Slots ν) (name : String) : Option ν := (slots.find? (·.1 == name)).map (·.2)

/-- The slots of a record written as a map. -/
def slotsOfMap (rules : List (Rule ν)) : Slots ν → List (String × ν) → Except Fault (Slots ν)
  | slots, [] => .ok slots
  | slots, (name, v) :: rest =>
    match rules.find? (·.answersTo name) with
    | none => slotsOfMap rules slots rest
    | some rule =>
      if (slots.get rule.name).isSome then .error (.duplicateField rule.name)
      else
        match rule.check v with
        | .error e => .error e
        | .ok () => slotsOfMap rules (slots ++ [(rule.name, v)]) rest

/-- The slots of a record written as a list; `index` counts the fields before these. -/
def slotsOfList (record : String) (fields : Nat) :
    Nat → List (Rule ν) → List ν → Except Fault (Slots ν)
  | _, [], _ => .ok []
  | index, rule :: rules, [] =>
    if rule.need = .never then slotsOfList record fields (index + 1) rules []
    else .error (.tooShort index record fields)
  | index, rule :: rules, v :: rest => do
    rule.check v
    return (rule.name, v) :: (← slotsOfList record fields (index + 1) rules rest)

/-- A record of the given name. -/
def record (name : String) (fields : Fields ν α) : Decoder ν α := fun v =>
  match shape v with
  | .map entries => do fields.build (← slotsOfMap fields.rules [] entries).get
  | .list items => do
    let slots ← slotsOfList name fields.rules.length 0 fields.rules items
    if Form.exact ν && items.length > fields.rules.length then throw (.tooLong items.length)
    fields.build slots.get
  | .scalar => .error (.wrongType (found v) (.record name))

end Granary.Data
