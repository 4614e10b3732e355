import Granary.CommandLine

/-!
# The program

Reads the files that are named on the command line and prints what the command leaves behind.
-/

namespace Granary.CommandLine

/-- The content of a file, or what the system reports about it. -/
def contentOf (path : String) : IO (Except FileFault String) := do
  try
    let bytes ← IO.FS.readBinFile path
    return match String.fromUTF8? bytes with
      | some text => .ok text
      | none => .error .notText
  catch
    | .noFileOrDirectory .. => return .error .missing
    | e => return .error (.stated (toString e))

end Granary.CommandLine

open Granary CommandLine in
def main (arguments : List String) : IO UInt32 := do
  let outcome := run (← arguments.mapM contentOf)
  IO.print outcome.output
  IO.eprint outcome.complaint
  return outcome.code.toUInt32
