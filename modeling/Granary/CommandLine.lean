import Granary.Compile.Statement
import Granary.Json.Reader
import Granary.Schema.Description

/-!
# The command line

The command compiles the request of one file for the schema that another one describes, and prints
the statement.
-/

namespace Granary.CommandLine

/-- What a run of the command leaves behind. -/
structure Outcome where
  code : Nat := 0
  output : String := ""
  complaint : String := ""
  deriving DecidableEq, Repr

/-- Why no statement is printed. -/
inductive Failure where
  | file (cause : FileFault)
  | schema (mistake : Json.Typed.Mistake)
  | request (fault : Json.SyntaxFault)
  | refused (cause : Error)
  deriving Repr

/-- The failure, and what lies beneath it where that is told apart. -/
def Failure.message : Failure → String
  | .file cause => cause.message
  | .schema mistake => mistake.message
  | .request fault => fault.message
  | .refused (.json cause) =>
    (Error.json cause).message ++ "\n\nCaused by:\n    " ++ cause.message
  | .refused cause => cause.message

def usage : String :=
  "Usage: print_sql <schema_json> <request_json>\n" ++
    "Example: cargo run --example print_sql -- demos/shop_schema.json demos/sales_by_region.json\n"

/-- The statement for the contents of a schema file and a request file. -/
def statement (schema request : Except FileFault String) : Except Failure Statement := do
  let description ← (Schema.Description.read (← schema.mapError .file)).mapError .schema
  let document ← (Json.read (← request.mapError .file)).mapError .request
  let request ← (Request.ofJson document).mapError .refused
  (request.compile (some description.snapshot)).mapError .refused

/-- A statement as it is printed: with placeholders, and then, if it has parameters, their values
and the statement that shows them in place. -/
def printed (s : Statement) : String :=
  let values := "-- params: " ++ Text.quoteList s.params ++ "\n"
  s.sql ++ "\n" ++ if s.params.isEmpty then "" else values ++ s.shown ++ "\n"

/-- Runs the command on the contents of the files that it is given; it reads the first two. -/
def run (files : List (Except FileFault String)) : Outcome :=
  match files with
  | schema :: request :: _ =>
    match statement schema request with
    | .ok s => { output := printed s }
    | .error failure => { code := 1, complaint := "Error: " ++ failure.message ++ "\n" }
  | _ => { code := 1, complaint := usage }

end Granary.CommandLine
