import Granary.Datasource.Store
import Granary.Files.Tree
import Granary.Yaml.Reader

/-!
# Datasources in a folder

A folder holds one record a file, in YAML.  The path of the folder is a part of the pattern by which
its files are looked for.
-/

namespace Granary

/-- A record from a YAML text. -/
def Datasource.ofYaml (text : String) : Except Error Datasource :=
  match Yaml.read text with
  | some document => (decode document).mapError fun _ => .yaml
  | none => .error .yaml

namespace Store

open Files

/-- The patterns for the files of a folder, in the order in which the files are taken. -/
def filePatterns (folder : String) : List String := [folder ++ "/*.yml", folder ++ "/*.yaml"]

/-- Where a pattern leads from a directory. -/
def lookUp (here : Spot) (pattern : String) : Except Error (List Spot) := do
  return here.matching (← (Pattern.parse pattern).mapError .pattern)

/-- Adds the record of a file. -/
def insertFile (s : Store) (file : Spot) : Except Error Store := do
  let text ← file.entry.read.mapError .io
  return s.insert (← Datasource.ofYaml text)

/-- The records of a folder, whose path starts at the given directory. -/
def ofFolder (here : Spot) (folder : String) : Except Error Store := do
  if (here.find? folder).isNone then throw (.validation (.noDirectory folder))
  (filePatterns folder).foldlM (fun s pattern => do (← lookUp here pattern).foldlM insertFile s) {}

end Store

end Granary
