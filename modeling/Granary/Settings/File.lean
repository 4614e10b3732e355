import Granary.Settings
import Granary.Toml.Reader

/-!
# Settings in files

Settings are written in TOML.  They are looked for in a file that the environment names, then in the
working directory, then among the user's settings; a place that has no file, or a bad one, is passed
over.
-/

namespace Granary.Settings

/-- Valid settings from a text. -/
def ofText (text : String) : Except Error Settings := do
  let some document := Toml.read text | throw (.config .unparsable)
  let settings ← (decode document).mapError fun _ => .config .unparsable
  settings.validate.mapError .config
  return settings

/-- Valid settings from what reading a file gave. -/
def ofFile (content : Except FileFault String) : Except Error Settings :=
  match content with
  | .ok text => ofText text
  | .error fault => .error (.config (.unreadable fault))

/-- The first valid settings from the files of some places, or else the defaults. -/
def search (places : List (Except FileFault String)) : Settings :=
  (places.findSome? fun content => (ofFile content).toOption).getD {}

end Granary.Settings
