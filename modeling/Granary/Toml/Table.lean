import Granary.Toml.Value

/-!
# Building tables

Headers and assignments are placed one after another.  A table can be declared once, a key can be
assigned once, and a table that was written in one way cannot be continued in another.
-/

namespace Granary.Toml

/-- The entries of a table. -/
abbrev Entries := Named Toml

/-- Changes the table at the end of a path of a header; tables that are missing on the way come
about, and of a repeated header the last table is meant. -/
def reach (change : Entries → Option Entries) : List String → Entries → Option Entries
  | [], entries => change entries
  | name :: rest, entries =>
    match entries.get? name with
    | none => do return entries.set name (.table .path (← reach change rest []))
    | some (.table .braces _) => none
    | some (.table origin inner) => do
      return entries.set name (.table origin (← reach change rest inner))
    | some (.tables items) => do
      let last ← items.getLast?
      return entries.set name (.tables (items.dropLast ++ [← reach change rest last]))
    | some _ => none

/-- Declares a table by a header of its own. -/
def declare (name : String) (entries : Entries) : Option Entries :=
  match entries.get? name with
  | none => some (entries.set name (.table .header []))
  | some (.table .path inner) => some (entries.set name (.table .header inner))
  | some _ => none

/-- Adds a table for a repeated header. -/
def addTable (name : String) (entries : Entries) : Option Entries :=
  match entries.get? name with
  | none => some (entries.set name (.tables [[]]))
  | some (.tables items) => some (entries.set name (.tables (items ++ [[]])))
  | some _ => none

/-- Assigns a value to a dotted key, given as its qualifiers and its last part. -/
def assign (value : Toml) (name : String) : List String → Entries → Option Entries
  | [], entries => if entries.contains name then none else some (entries ++ [(name, value)])
  | qualifier :: rest, entries =>
    match entries.get? qualifier with
    | none => do return entries.set qualifier (.table .dotted (← assign value name rest []))
    | some (.table .dotted inner) => do
      return entries.set qualifier (.table .dotted (← assign value name rest inner))
    | some (.table .path inner) =>
      if rest.isEmpty then none
      else do return entries.set qualifier (.table .path (← assign value name rest inner))
    | some (.tables items) =>
      if rest.isEmpty then none
      else do
        let last ← items.getLast?
        return entries.set qualifier (.tables (items.dropLast ++ [← assign value name rest last]))
    | some _ => none

/-- A key of several parts. -/
structure Key where
  qualifiers : List String
  name : String
  deriving DecidableEq, Repr, Inhabited

def Key.parts (k : Key) : List String := k.qualifiers ++ [k.name]

/-- One line of a document. -/
inductive Line where
  | header (key : Key)
  | repeated (key : Key)
  | assignment (key : Key) (value : Toml)
  deriving Repr, Inhabited

/-- A document whose lines up to some line are placed. -/
structure Document where
  entries : Entries := []
  /-- The path of the last header. -/
  here : List String := []
  deriving Repr, Inhabited

def Document.place (d : Document) : Line → Option Document
  | .header key => do
    return ⟨← reach (declare key.name) key.qualifiers d.entries, key.parts⟩
  | .repeated key => do
    return ⟨← reach (addTable key.name) key.qualifiers d.entries, key.parts⟩
  | .assignment key value => do
    return { d with entries := ← reach (assign value key.name key.qualifiers) d.here d.entries }

/-- The table of a document. -/
def ofLines (lines : List Line) : Option Toml := do
  return .table .header (← lines.foldlM Document.place {}).entries

/-- A table written between braces. -/
def ofPairs (pairs : List (Key × Toml)) : Option Toml := do
  let entries ← pairs.foldlM
    (fun (entries : Entries) p => assign p.2 p.1.name p.1.qualifiers entries) []
  return .table .braces entries

end Granary.Toml
