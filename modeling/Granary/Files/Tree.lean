import Granary.Files.Pattern
import Granary.Named

/-!
# Trees of files

Directories hold files and directories by name.  A spot is an entry together with the directories
around it, so that a path may also lead upwards.
-/

namespace Granary.Files

inductive Entry where
  /-- A file with what reading it as a text gives. -/
  | file (content : Except FileFault String)
  | directory (entries : List (String × Entry))
  deriving Inhabited

/-- What reading an entry as a text gives. -/
def Entry.read : Entry → Except FileFault String
  | .file content => content
  | .directory _ => .error .isDirectory

def Entry.isDirectory : Entry → Bool
  | .file _ => false
  | .directory _ => true

/-- The entry with a new one put at a path, and directories on the way where there was nothing. -/
def Entry.put (e : Entry) (path : List String) (new : Entry) : Entry :=
  match path, e with
  | [], _ => new
  | name :: rest, .directory entries =>
    let inner := (Named.get? entries name).getD (.directory [])
    .directory (Named.set entries name (inner.put rest new))
  | _ :: _, .file content => .file content

/-- An entry and the directories around it, the nearest first. -/
structure Spot where
  entry : Entry
  around : List Entry := []
  deriving Inhabited

namespace Spot

/-- Where one part of a path leads. -/
def step? (s : Spot) (name : String) : Option Spot :=
  match s.entry with
  | .file _ => none
  | .directory entries =>
    if name = "" ∨ name = "." then some s
    else if name = ".." then
      match s.around with
      | outer :: around => some ⟨outer, around⟩
      | [] => none
    else (Named.get? entries name).map (⟨·, s.entry :: s.around⟩)

/-- Where a path leads; an empty text is no path. -/
def find? (s : Spot) (path : String) : Option Spot :=
  if path = "" then none
  else ((Text.parts separator path.toList).map String.ofList).foldlM step? s

/-- The entries of a directory in the order of their names. -/
def children (s : Spot) : List (String × Spot) :=
  match s.entry with
  | .file _ => []
  | .directory entries =>
    Named.sorted (entries.map fun e => (e.1, ⟨e.2, s.entry :: s.around⟩))

mutual

/-- All that an entry holds at any depth, each directory followed by what it holds. -/
def below (around : List Entry) : Entry → List (String × Spot)
  | .file _ => []
  | .directory entries =>
    (Named.sorted (branches (.directory entries :: around) entries)).flatMap (·.2)

/-- Each of some entries under its name, followed by all that it holds. -/
def branches (around : List Entry) : List (String × Entry) → List (String × List (String × Spot))
  | [] => []
  | (name, entry) :: rest =>
    (name, (name, ⟨entry, around⟩) :: below around entry) :: branches around rest

end

def descendants (s : Spot) : List (String × Spot) := below s.around s.entry

/-- The directory itself and the one around it, if the pieces begin with a point and match. -/
def dotted (s : Spot) (pieces : List Piece) : List Spot :=
  if pieces.head? = some (.char '.') then
    (["..", "."].filter fun name => matchesText pieces name.toList).filterMap s.step?
  else []

/-- Where a pattern leads. -/
def matching : Pattern → Spot → List Spot
  | [], s => [s]
  | .literal name :: rest, s =>
    match s.step? name with
    | some s => matching rest s
    | none => []
  | .wild pieces :: rest, s =>
    (s.dotted pieces).flatMap (matching rest) ++
      (s.children.filter fun c => matchesText pieces c.1.toList).flatMap fun c => matching rest c.2
  | [.deep], s => (s.descendants.map (·.2)).filter (·.entry.isDirectory)
  | .deep :: next :: rest, s =>
    (s.descendants.filter fun c => next.accepts c.1).flatMap fun c => matching rest c.2

end Spot

end Granary.Files
