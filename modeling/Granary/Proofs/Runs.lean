import Granary.Program

/-!
# Runs of programs

What a program does depends on the answers to its calls.  Here the answers are a relation between
the states before and after a call, so that one program has many runs, and a run may be broken off
before any call.

`Safe` speaks of the program alone: whatever its calls are answered, it makes allowed calls only.
An invariant that every allowed call keeps is then kept by every run, which is `Runs.invariant`.

`Keeps` speaks of a program and a state: from there on something holds wherever a run is broken off,
and something of the result where it ends.  It is put together along the program, and `Runs.keeps`
says of every run what has been put together.
-/

namespace Granary
namespace Program

variable {Ask : Type} {Answer : Ask → Type} {α β σ : Type}

/-- A run from one state to another, with the result unless it was broken off. -/
inductive Runs (step : (c : Ask) → σ → Answer c → σ → Prop) :
    Program Ask Answer α → σ → Option α → σ → Prop where
  | done (a : α) (s : σ) : Runs step (.done a) s (some a) s
  | ask {c : Ask} {next : Answer c → Program Ask Answer α} {s t u : σ} {answer : Answer c}
      {out : Option α} (h : step c s answer t) (hrest : Runs step (next answer) t out u) :
      Runs step (.ask c next) s out u
  | stopped (p : Program Ask Answer α) (s : σ) : Runs step p s none s

/-- Running a program on a state that answers calls is one of its runs. -/
theorem Runs.of_run {step : (c : Ask) → σ → Answer c → σ → Prop}
    {handle : (c : Ask) → σ → Answer c × σ}
    (h : ∀ c s, step c s (handle c s).1 (handle c s).2) (p : Program Ask Answer α) (s : σ) :
    Runs step p s (p.run handle s).1 (p.run handle s).2 := by
  induction p generalizing s with
  | done a => exact .done a s
  | ask c next ih => exact .ask (h c s) (ih _ _)
  | spent => exact .stopped .spent s

theorem bind_assoc {δ : Type} (p : Program Ask Answer α) (f : α → Program Ask Answer β)
    (g : β → Program Ask Answer δ) : (p.bind f).bind g = p.bind fun a => (f a).bind g := by
  induction p with
  | done a => rfl
  | ask c next ih => exact congrArg (Program.ask c) (funext fun answer => ih answer)
  | spent => rfl

theorem expand_bind {Ask' : Type} {Answer' : Ask' → Type}
    (f : (c : Ask) → Program Ask' Answer' (Answer c)) (p : Program Ask Answer α)
    (g : α → Program Ask Answer β) :
    (p.bind g).expand f = (p.expand f).bind fun a => (g a).expand f := by
  induction p with
  | done a => rfl
  | ask c next ih =>
    show (f c).bind (fun answer => ((next answer).bind g).expand f) = _
    rw [expand, bind_assoc]
    exact congrArg (f c).bind (funext fun answer => ih answer)
  | spent => rfl

theorem run_bind {handle : (c : Ask) → σ → Answer c × σ} {p : Program Ask Answer α}
    {f : α → Program Ask Answer β} {s t : σ} {a : α} (h : p.run handle s = (some a, t)) :
    (p.bind f).run handle s = (f a).run handle t := by
  induction p generalizing s with
  | done b =>
    cases h
    rfl
  | ask c next ih => exact ih _ h
  | spent => cases h

/-- A part that succeeds hands its result on. -/
theorem run_bind_ok {ε : Type} {handle : (c : Ask) → σ → Answer c × σ}
    {x : ExceptT ε (Program Ask Answer) α} {f : α → ExceptT ε (Program Ask Answer) β} {s t : σ}
    {a : α} (h : x.run.run handle s = (some (.ok a), t)) :
    (x >>= f).run.run handle s = (f a).run.run handle t :=
  run_bind h

/-- A part that fails ends the whole. -/
theorem run_bind_error {ε : Type} {handle : (c : Ask) → σ → Answer c × σ}
    {x : ExceptT ε (Program Ask Answer) α} {f : α → ExceptT ε (Program Ask Answer) β} {s t : σ}
    {e : ε} (h : x.run.run handle s = (some (.error e), t)) :
    (x >>= f).run.run handle s = (some (.error e), t) :=
  run_bind h

/-- The program makes allowed calls only, and ends with what is wanted. -/
def Safe (allowed : Ask → Prop) (answers : (c : Ask) → Answer c → Prop) (wanted : α → Prop) :
    Program Ask Answer α → Prop
  | .done a => wanted a
  | .ask c next =>
    allowed c ∧ ∀ answer, answers c answer → (next answer).Safe allowed answers wanted
  | .spent => True

variable {allowed : Ask → Prop} {answers : (c : Ask) → Answer c → Prop}

theorem Safe.bind {wanted : α → Prop} {wanted' : β → Prop} {p : Program Ask Answer α}
    {f : α → Program Ask Answer β} (hp : p.Safe allowed answers wanted)
    (hf : ∀ a, wanted a → (f a).Safe allowed answers wanted') :
    (p.bind f).Safe allowed answers wanted' := by
  induction p with
  | done a => exact hf a hp
  | ask c next ih => exact ⟨hp.1, fun answer ha => ih answer (hp.2 answer ha)⟩
  | spent => trivial

theorem Safe.mono {wanted wanted' : α → Prop} {p : Program Ask Answer α}
    (h : ∀ a, wanted a → wanted' a) (hp : p.Safe allowed answers wanted) :
    p.Safe allowed answers wanted' := by
  induction p with
  | done a => exact h a hp
  | ask c next ih => exact ⟨hp.1, fun answer ha => ih answer (hp.2 answer ha)⟩
  | spent => trivial

/-- Fewer answers can only make a program safer. -/
theorem Safe.weaken {answers' : (c : Ask) → Answer c → Prop} {wanted : α → Prop}
    {p : Program Ask Answer α} (h : ∀ c answer, answers' c answer → answers c answer)
    (hp : p.Safe allowed answers wanted) : p.Safe allowed answers' wanted := by
  induction p with
  | done a => exact hp
  | ask c next ih => exact ⟨hp.1, fun answer ha => ih answer (hp.2 answer (h c answer ha))⟩
  | spent => trivial

section

variable {ε : Type}

/-- An attempt that makes allowed calls only, whatever they are answered. -/
def Only (allowed : Ask → Prop) (x : ExceptT ε (Program Ask Answer) α) : Prop :=
  x.run.Safe allowed (fun _ _ => True) fun _ => True

theorem Only.bind {x : ExceptT ε (Program Ask Answer) α}
    {f : α → ExceptT ε (Program Ask Answer) β} (hx : Only allowed x)
    (hf : ∀ a, Only allowed (f a)) : Only allowed (x >>= f) := by
  refine Safe.bind hx fun outcome _ => ?_
  cases outcome with
  | error e => trivial
  | ok a => exact hf a

theorem only_pure (a : α) : Only allowed (pure a : ExceptT ε (Program Ask Answer) α) := trivial

theorem only_throw (e : ε) : Only allowed (throw e : ExceptT ε (Program Ask Answer) α) := trivial

theorem only_lift (x : Except ε α) :
    Only allowed (liftM x : ExceptT ε (Program Ask Answer) α) := trivial

/-- A call whose answer is no more than handed on. -/
theorem only_ask {c : Ask} (hc : allowed c) (next : Answer c → Except ε α) :
    Only allowed (.mk (.ask c fun answer => .done (next answer)) :
      ExceptT ε (Program Ask Answer) α) :=
  ⟨hc, fun _ _ => trivial⟩

end

/-- The program makes allowed calls only, ends with what is wanted, and comes to be spent only if
that may be. -/
def Heeds (spent : Prop) (allowed : Ask → Prop) (answers : (c : Ask) → Answer c → Prop)
    (wanted : α → Prop) : Program Ask Answer α → Prop
  | .done a => wanted a
  | .ask c next =>
    allowed c ∧ ∀ answer, answers c answer → (next answer).Heeds spent allowed answers wanted
  | .spent => spent

section

variable {spent : Prop} {wanted : α → Prop} {p : Program Ask Answer α}

theorem Heeds.bind {wanted' : β → Prop} {f : α → Program Ask Answer β}
    (hp : p.Heeds spent allowed answers wanted)
    (hf : ∀ a, wanted a → (f a).Heeds spent allowed answers wanted') :
    (p.bind f).Heeds spent allowed answers wanted' := by
  induction p with
  | done a => exact hf a hp
  | ask c next ih => exact ⟨hp.1, fun answer ha => ih answer (hp.2 answer ha)⟩
  | spent => exact hp

theorem Heeds.mono {allowed' : Ask → Prop} {wanted' : α → Prop}
    (hallowed : ∀ c, allowed c → allowed' c) (hwanted : ∀ a, wanted a → wanted' a)
    (hp : p.Heeds spent allowed answers wanted) : p.Heeds spent allowed' answers wanted' := by
  induction p with
  | done a => exact hwanted a hp
  | ask c next ih => exact ⟨hallowed c hp.1, fun answer ha => ih answer (hp.2 answer ha)⟩
  | spent => exact hp

theorem Heeds.safe (hp : p.Heeds spent allowed answers wanted) :
    p.Safe allowed answers wanted := by
  induction p with
  | done a => exact hp
  | ask c next ih => exact ⟨hp.1, fun answer ha => ih answer (hp.2 answer ha)⟩
  | spent => trivial

end

/-- What every allowed call keeps, every run keeps. -/
theorem Runs.invariant {step : (c : Ask) → σ → Answer c → σ → Prop} {wanted : α → Prop}
    (inv : σ → Prop)
    (hstep : ∀ c s answer t, allowed c → inv s → step c s answer t → answers c answer ∧ inv t)
    {p : Program Ask Answer α} {s t : σ} {out : Option α} (h : Runs step p s out t)
    (hp : p.Safe allowed answers wanted) (hs : inv s) : inv t := by
  induction h with
  | done a s => exact hs
  | ask h _ ih =>
    obtain ⟨ha, ht⟩ := hstep _ _ _ _ hp.1 hs h
    exact ih (hp.2 _ ha) ht
  | stopped p s => exact hs

/-- A run that is not broken off ends with what is wanted. -/
theorem Runs.result {step : (c : Ask) → σ → Answer c → σ → Prop} {wanted : α → Prop}
    (inv : σ → Prop)
    (hstep : ∀ c s answer t, allowed c → inv s → step c s answer t → answers c answer ∧ inv t)
    {p : Program Ask Answer α} {s t : σ} {a : α} (h : Runs step p s (some a) t)
    (hp : p.Safe allowed answers wanted) (hs : inv s) : wanted a := by
  generalize hout : some a = out at h
  induction h with
  | done b s =>
    cases hout
    exact hp
  | ask h _ ih =>
    obtain ⟨ha, ht⟩ := hstep _ _ _ _ hp.1 hs h
    exact ih (hp.2 _ ha) ht hout
  | stopped p s => cases hout

section

variable {step : (c : Ask) → σ → Answer c → σ → Prop} {halt halt' : σ → Prop} {s : σ}

/-- From a state on, `halt` holds wherever the program may be broken off, and `post` where it
ends. -/
def Keeps (step : (c : Ask) → σ → Answer c → σ → Prop) (halt : σ → Prop) (post : α → σ → Prop) :
    Program Ask Answer α → σ → Prop
  | .done a, s => halt s ∧ post a s
  | .ask c next, s => halt s ∧ ∀ answer t, step c s answer t → (next answer).Keeps step halt post t
  | .spent, s => halt s

theorem Keeps.halted {post : α → σ → Prop} {p : Program Ask Answer α}
    (h : p.Keeps step halt post s) : halt s := by
  cases p with
  | done a => exact h.1
  | ask c next => exact h.1
  | spent => exact h

theorem Keeps.bind {mid : α → σ → Prop} {post : β → σ → Prop} {p : Program Ask Answer α}
    {f : α → Program Ask Answer β} (hp : p.Keeps step halt mid s)
    (hf : ∀ a t, halt t → mid a t → (f a).Keeps step halt post t) :
    (p.bind f).Keeps step halt post s := by
  induction p generalizing s with
  | done a => exact hf a s hp.1 hp.2
  | ask c next ih => exact ⟨hp.1, fun answer t ht => ih answer (hp.2 answer t ht)⟩
  | spent => exact hp

theorem Keeps.mono {post post' : α → σ → Prop} {p : Program Ask Answer α}
    (hhalt : ∀ t, halt t → halt' t) (hpost : ∀ a t, halt t → post a t → post' a t)
    (hp : p.Keeps step halt post s) : p.Keeps step halt' post' s := by
  induction p generalizing s with
  | done a => exact ⟨hhalt s hp.1, hpost a s hp.1 hp.2⟩
  | ask c next ih => exact ⟨hhalt s hp.1, fun answer t ht => ih answer (hp.2 answer t ht)⟩
  | spent => exact hhalt s hp

/-- A part of a program may keep more than the whole. -/
theorem Keeps.within {post : α → σ → Prop} {p : Program Ask Answer α}
    (hhalt : ∀ t, halt t → halt' t) (hp : p.Keeps step halt post s) :
    p.Keeps step halt' (fun a t => halt t ∧ post a t) s :=
  hp.mono hhalt fun _ _ ht h => ⟨ht, h⟩

/-- What has been put together along a program holds of every run. -/
theorem Runs.keeps {post : α → σ → Prop} {p : Program Ask Answer α} {t : σ} {out : Option α}
    (h : Runs step p s out t) (hp : p.Keeps step halt post s) :
    halt t ∧ ∀ a, out = some a → post a t := by
  induction h with
  | done a s => exact ⟨hp.1, fun b hb => Option.some.inj hb ▸ hp.2⟩
  | ask h _ ih => exact ih (hp.2 _ _ h)
  | stopped p s => exact ⟨hp.halted, fun _ hout => nomatch hout⟩

end

end Program
end Granary
