/-!
# Programs that ask

A program is a value: it is done, or it makes a call and goes on with the answer.  What the calls
mean is up to whoever runs it, so the same program can be run on stored tables, on a scripted
server, or expanded into smaller calls.

A loop that would end only when its surroundings let it end has an allowance; a program that has
used it up is spent, which is no failure and no result.
-/

namespace Granary

/-- A program that makes calls `Ask`, each with its own type of answer, and ends with an `α`. -/
inductive Program (Ask : Type) (Answer : Ask → Type) (α : Type) where
  | done (value : α)
  | ask (call : Ask) (next : Answer call → Program Ask Answer α)
  | spent

namespace Program

variable {Ask Ask' : Type} {Answer : Ask → Type} {Answer' : Ask' → Type} {α β σ : Type}

protected def bind (p : Program Ask Answer α) (f : α → Program Ask Answer β) :
    Program Ask Answer β :=
  match p with
  | .done a => f a
  | .ask call next => .ask call fun answer => (next answer).bind f
  | .spent => .spent

instance : Monad (Program Ask Answer) where
  pure := .done
  bind := Program.bind

/-- The program of one call. -/
def call (c : Ask) : Program Ask Answer (Answer c) := .ask c .done

/-- Runs a program on a state that answers calls; there is no result if the program is spent. -/
def run (handle : (c : Ask) → σ → Answer c × σ) : Program Ask Answer α → σ → Option α × σ
  | .done a, s => (some a, s)
  | .ask c next, s =>
    let (answer, s) := handle c s
    run handle (next answer) s
  | .spent, s => (none, s)

/-- Replaces every call by a program of other calls. -/
def expand (f : (c : Ask) → Program Ask' Answer' (Answer c)) :
    Program Ask Answer α → Program Ask' Answer' α
  | .done a => .done a
  | .ask c next => (f c).bind fun answer => expand f (next answer)
  | .spent => .spent

@[simp] theorem done_bind (a : α) (f : α → Program Ask Answer β) :
    (Program.done a : Program Ask Answer α).bind f = f a := rfl

@[simp] theorem bind_done (p : Program Ask Answer α) : p.bind .done = p := by
  induction p with
  | done a => rfl
  | ask c next ih => simp [Program.bind, ih]
  | spent => rfl

end Program

end Granary
