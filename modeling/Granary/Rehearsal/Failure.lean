/-!
# Planned failures

A rehearsal makes calls fail on demand.  A planned failure waits for the calls of its pattern, and
lets the first few of them pass.
-/

namespace Granary.Rehearsal

/-- A failure of the calls that a pattern describes. -/
structure Failure (π : Type) where
  pattern : π
  /-- How many of these calls pass first. -/
  after : Nat := 0
  deriving DecidableEq, Repr, Inhabited

namespace Failure

variable {π : Type}

/-- The pattern by which a call fails, and the failures that are planned from then on.  The first
one that is due decides, and those behind it do not count the call. -/
def check (applies : π → Bool) : List (Failure π) → Option π × List (Failure π)
  | [] => (none, [])
  | f :: rest =>
    if applies f.pattern then
      match f.after with
      | 0 => (some f.pattern, f :: rest)
      | n + 1 =>
        let (due, rest) := check applies rest
        (due, { f with after := n } :: rest)
    else
      let (due, rest) := check applies rest
      (due, f :: rest)

end Failure

end Granary.Rehearsal
