import Granary.Proofs.Schedule
import Mathlib.Data.List.Forall2
import Mathlib.Logic.Hydra

/-!
# Tasks side by side that may fail

Calls that may fail have more than one answer, so a task that makes them has no one result to come
to.  What can be said of it is where it may be found (`halt`) and what holds once it has ended
(`post`), whatever its calls are answered: `Division.Tends`.  As in `Division.Local` its calls touch
what its owner has and nothing else that is divided, so all this stays true in the company of other
tasks, wherever they are (`Attended`).

A pool ends when all its results have been collected, or when the first task that has not been
collected has failed.  The tasks behind that one are then dropped wherever they are, which is why
`halt` matters: `Concluded` says what is left by a pool.

No pool runs for ever, since every step takes away a call, a task that waits or a task that has
ended (`Pool.wellFounded_step`).
-/

namespace Granary
namespace Program

variable {Ask : Type} {Answer : Ask → Type} {ε α β γ σ ι ν : Type}

/-! ## Programs that are left to themselves -/

section

variable {step : (c : Ask) → σ → Answer c → σ → Prop} {s : σ}

/-- Whatever its calls are answered, a program gets an answer to each, is never spent, and ends
where `post` holds. -/
def Leads (step : (c : Ask) → σ → Answer c → σ → Prop) (post : α → σ → Prop) :
    Program Ask Answer α → σ → Prop
  | .done a, s => post a s
  | .ask c next, s => (∃ answer t, step c s answer t) ∧
    ∀ answer t, step c s answer t → (next answer).Leads step post t
  | .spent, _ => False

theorem Leads.bind {mid : α → σ → Prop} {post : β → σ → Prop} {p : Program Ask Answer α}
    {f : α → Program Ask Answer β} (hp : p.Leads step mid s)
    (hf : ∀ a t, mid a t → (f a).Leads step post t) : (p.bind f).Leads step post s := by
  induction p generalizing s with
  | done a => exact hf a s hp
  | ask c next ih => exact ⟨hp.1, fun answer t ht => ih answer (hp.2 answer t ht)⟩
  | spent => exact hp.elim

theorem Leads.mono {post post' : α → σ → Prop} {p : Program Ask Answer α}
    (h : ∀ a t, post a t → post' a t) (hp : p.Leads step post s) : p.Leads step post' s := by
  induction p generalizing s with
  | done a => exact h a s hp
  | ask c next ih => exact ⟨hp.1, fun answer t ht => ih answer (hp.2 answer t ht)⟩
  | spent => exact hp.elim

/-- A run that is not broken off has ended where every run ends. -/
theorem Leads.result {post : α → σ → Prop} {p : Program Ask Answer α} {a : α} {t : σ}
    (hp : p.Leads step post s) (h : Runs step p s (some a) t) : post a t := by
  generalize hout : some a = out at h
  induction h with
  | done b s =>
    cases hout
    exact hp
  | ask h _ ih => exact ih (hp.2 _ _ h) hout
  | stopped p s => cases hout

/-- Where calls have one answer each, the one run there is ends where every run ends. -/
theorem Leads.of_run {handle : (c : Ask) → σ → Answer c × σ} {post : α → σ → Prop}
    {p : Program Ask Answer α} {a : α} {t : σ} (hrun : p.run handle s = (some a, t))
    (hpost : post a t) : p.Leads (fun c s answer t => handle c s = (answer, t)) post s := by
  induction p generalizing s with
  | done b =>
    cases hrun
    exact hpost
  | ask c next ih =>
    refine ⟨⟨_, _, rfl⟩, fun answer u hcall => ih answer ?_⟩
    rw [Program.run, hcall] at hrun
    exact hrun
  | spent => cases hrun

theorem Leads.run {handle : (c : Ask) → σ → Answer c × σ} {post : α → σ → Prop}
    {p : Program Ask Answer α}
    (h : p.Leads (fun c s answer t => handle c s = (answer, t)) post s) :
    ∃ a t, p.run handle s = (some a, t) ∧ post a t := by
  induction p generalizing s with
  | done a => exact ⟨a, s, rfl, h⟩
  | ask c next ih => exact ih _ (h.2 _ _ rfl)
  | spent => exact h.elim

end

namespace Division

/-! ## Calls and programs of an owner -/

/-- A call of an owner who has `v`: it is answered, and however it is answered, the others have what
they had, and `next` holds of the answer and of what the owner then has. -/
structure Calls (D : Division Ask Answer σ ι ν) (i : ι) (c : Ask) (v : ν)
    (next : Answer c → ν → Prop) : Prop where
  answered : ∀ s, D.inv s → D.view i s = v → ∃ answer t, D.step c s answer t
  effect : ∀ s answer t, D.inv s → D.view i s = v → D.step c s answer t →
    D.inv t ∧ (∀ j, j ≠ i → D.view j t = D.view j s) ∧ next answer (D.view i t)

/-- A program of an owner who has `v`, whatever its calls are answered: what the owner has meets
`halt` wherever the program is, and `post` where it ends. -/
def Tends (D : Division Ask Answer σ ι ν) (i : ι) (halt : ν → Prop) (post : β → ν → Prop) :
    Program Ask Answer β → ν → Prop
  | .done b, v => halt v ∧ post b v
  | .ask c next, v => halt v ∧ D.Calls i c v fun answer w => D.Tends i halt post (next answer) w
  | .spent, _ => False

variable {D : Division Ask Answer σ ι ν} {i : ι} {v : ν} {halt halt' : ν → Prop}

theorem Calls.mono {c : Ask} {next next' : Answer c → ν → Prop}
    (hnext : ∀ answer w, next answer w → next' answer w) (h : D.Calls i c v next) :
    D.Calls i c v next' := by
  refine ⟨h.answered, fun s answer t hs hv ht => ?_⟩
  obtain ⟨hinv, hothers, hanswer⟩ := h.effect s answer t hs hv ht
  exact ⟨hinv, hothers, hnext _ _ hanswer⟩

theorem Tends.halted {post : β → ν → Prop} {p : Program Ask Answer β}
    (h : D.Tends i halt post p v) : halt v := by
  cases p with
  | done b => exact h.1
  | ask c next => exact h.1
  | spent => exact h.elim

theorem Tends.bind {mid : β → ν → Prop} {post : γ → ν → Prop} {p : Program Ask Answer β}
    {f : β → Program Ask Answer γ} (hp : D.Tends i halt mid p v)
    (hf : ∀ b w, halt w → mid b w → D.Tends i halt post (f b) w) :
    D.Tends i halt post (p.bind f) v := by
  induction p generalizing v with
  | done b => exact hf b v hp.1 hp.2
  | ask c next ih => exact ⟨hp.1, hp.2.mono fun answer _ h => ih answer h⟩
  | spent => exact hp.elim

theorem Tends.mono {post post' : β → ν → Prop} {p : Program Ask Answer β}
    (hhalt : ∀ w, halt w → halt' w) (hpost : ∀ b w, post b w → post' b w)
    (hp : D.Tends i halt post p v) : D.Tends i halt' post' p v := by
  induction p generalizing v with
  | done b => exact ⟨hhalt v hp.1, hpost b v hp.2⟩
  | ask c next ih => exact ⟨hhalt v hp.1, hp.2.mono fun answer _ h => ih answer h⟩
  | spent => exact hp.elim

/-- The division in which only some calls are answered. -/
def gated (D : Division Ask Answer σ ι ν) (own : Ask → Prop) : Division Ask Answer σ ι ν where
  step c s answer t := own c ∧ D.step c s answer t
  inv := D.inv
  view := D.view

/-- A program whose calls are answered the same elsewhere, as long as what is there is `alike` to
what the owner has, comes to the outcome here to which it comes when it is run there. -/
theorem Tends.elsewhere {τ : Type} {own : Ask → Prop} {there : (c : Ask) → τ → Answer c × τ}
    {post : β → ν → Prop} {p : Program Ask Answer β} (h : (D.gated own).Tends i halt post p v)
    (alike : ν → τ → Prop)
    (hcall : ∀ c s answer t u, own c → D.inv s → D.step c s answer t → alike (D.view i s) u →
      (there c u).1 = answer ∧ alike (D.view i t) (there c u).2)
    {s : σ} (hs : D.inv s) (hview : D.view i s = v) {u : τ} (hu : alike v u) :
    D.Tends i halt (fun b w => post b w ∧ ∃ u', p.run there u = (some b, u') ∧ alike w u') p v := by
  induction p generalizing v s u with
  | done b => exact ⟨h.1, h.2, u, rfl, hu⟩
  | ask c next ih =>
    -- The call is one of the owner's, since it would not be answered otherwise.
    obtain ⟨answer, t, hown, ht⟩ := h.2.answered s hs hview
    refine ⟨h.1, fun s hs hv => ?_, fun s answer t hs hv ht => ?_⟩
    · obtain ⟨answer, t, _, ht⟩ := h.2.answered s hs hv
      exact ⟨answer, t, ht⟩
    · obtain ⟨htinv, hothers, hnext⟩ := h.2.effect s answer t hs hv ⟨hown, ht⟩
      obtain ⟨rfl, halike⟩ := hcall c s answer t u hown hs ht (hv.symm ▸ hu)
      exact ⟨htinv, hothers, ih _ hnext htinv rfl halike⟩
  | spent => exact h.elim

end Division

/-! ## Pools come to an end -/

/-- What a program goes on with once a call is answered. -/
inductive Follows : Program Ask Answer β → Program Ask Answer β → Prop where
  | ask (c : Ask) (next : Answer c → Program Ask Answer β) (answer : Answer c) :
    Follows (next answer) (.ask c next)

theorem wellFounded_follows : WellFounded (Follows : Program Ask Answer β → _ → Prop) := by
  refine ⟨fun p => ?_⟩
  induction p with
  | done b => exact ⟨_, fun q hq => nomatch hq⟩
  | ask c next ih =>
    refine ⟨_, fun q hq => ?_⟩
    cases hq with
    | ask => exact ih _
  | spent => exact ⟨_, fun q hq => nomatch hq⟩

namespace Pool

/-- What shrinks with every step: the tasks that wait, and then the programs of those that run. -/
def left (x : Pool Ask Answer ε α × σ) : Nat × Multiset (Program Ask Answer (Except ε α)) :=
  (x.1.waiting.length, x.1.running)

variable {limit : Nat} {step : (c : Ask) → σ → Answer c → σ → Prop}

theorem Step.left_lt {x y : Pool Ask Answer ε α × σ} (h : Step limit step x y) :
    Prod.Lex (· < ·) (Relation.CutExpand Follows) (left y) (left x) := by
  cases h with
  | start h => exact .left _ _ (Nat.lt_succ_self _)
  | @advance results before after waiting c next answer s t h =>
    refine .right _ ?_
    have hmiddle : ∀ p : Program Ask Answer (Except ε α),
        ((before ++ p :: after : List _) : Multiset _) =
          {p} + ((before ++ after : List _) : Multiset _) :=
      fun p => Multiset.coe_eq_coe.2 List.perm_middle
    rw [hmiddle, hmiddle]
    exact Relation.cutExpand_single_add (Follows.ask c next answer) _
  | @collect results running waiting a s =>
    refine .right _ ?_
    have hcut : Relation.CutExpand Follows (0 + (running : Multiset _))
        ({Program.done (.ok a)} + (running : Multiset (Program Ask Answer (Except ε α)))) :=
      (Relation.cutExpand_add_right _).2 Relation.cutExpand_zero
    rw [zero_add] at hcut
    exact hcut

theorem wellFounded_step : WellFounded fun y x : Pool Ask Answer ε α × σ => Step limit step x y :=
  Subrelation.wf Step.left_lt
    (InvImage.wf left (WellFounded.prod_lex Nat.lt_wfRel.wf wellFounded_follows.cutExpand))

end Pool

namespace Division

/-! ## Pools of tasks that may fail -/

/-- What is known of a task: whose it is, where it may be found, and how it may end. -/
structure Charge (ι ν ε α : Type) where
  owner : ι
  halt : ν → Prop
  post : Except ε α → ν → Prop

namespace Charge

/-- The task goes on from what its owner has. -/
def Held (D : Division Ask Answer σ ι ν) (s : σ) (charge : Charge ι ν ε α)
    (task : Program Ask Answer (Except ε α)) : Prop :=
  D.Tends charge.owner charge.halt charge.post task (D.view charge.owner s)

/-- The task has ended with a result. -/
def Met (D : Division Ask Answer σ ι ν) (s : σ) (charge : Charge ι ν ε α) (result : α) : Prop :=
  charge.post (.ok result) (D.view charge.owner s)

end Charge

variable {D : Division Ask Answer σ ι ν} {origin s t : σ} {charges : List (Charge ι ν ε α)}
  {limit : Nat}

/-- What a pool leaves: if all tasks have succeeded their results, and otherwise the error of the
first that failed, with those behind it dropped wherever they were. -/
inductive Concluded (D : Division Ask Answer σ ι ν) (charges : List (Charge ι ν ε α)) (s : σ) :
    Except ε (List α) → Prop where
  | ok {results : List α} (h : List.Forall₂ (Charge.Met D s) charges results) :
    Concluded D charges s (.ok results)
  | error {before after : List (Charge ι ν ε α)} {charge : Charge ι ν ε α} {results : List α}
      {e : ε} (hsplit : charges = before ++ charge :: after)
      (hbefore : List.Forall₂ (Charge.Met D s) before results)
      (hfailed : charge.post (.error e) (D.view charge.owner s))
      (hafter : ∀ other ∈ after, other.halt (D.view other.owner s)) :
    Concluded D charges s (.error e)

/-- A pool on its way: the tasks collected have ended with their results, the others go on, and
nobody else has lost or gained anything. -/
structure Attended (D : Division Ask Answer σ ι ν) (origin : σ) (charges : List (Charge ι ν ε α))
    (x : Pool Ask Answer ε α × σ) (collected active idle : List (Charge ι ν ε α)) : Prop where
  split : charges = collected ++ active ++ idle
  results : List.Forall₂ (Charge.Met D x.2) collected x.1.results
  running : List.Forall₂ (Charge.Held D x.2) active x.1.running
  waiting : List.Forall₂ (Charge.Held D x.2) idle x.1.waiting
  inv : D.inv x.2
  others : ∀ j, j ∉ charges.map (·.owner) → D.view j x.2 = D.view j origin

/-- What is left by the tasks of some entries, one task for each, entry by entry. -/
theorem Concluded.of_map {κ : Type} {charge : κ → Charge ι ν ε α} {entries : List κ}
    {outcome : Except ε (List α)} (h : D.Concluded (entries.map charge) s outcome) :
    (∃ results, outcome = .ok results ∧
      List.Forall₂ (fun entry => (charge entry).Met D s) entries results) ∨
    ∃ before entry after e results, entries = before ++ entry :: after ∧ outcome = .error e ∧
      List.Forall₂ (fun entry => (charge entry).Met D s) before results ∧
      (charge entry).post (.error e) (D.view (charge entry).owner s) ∧
      ∀ other ∈ after, (charge other).halt (D.view (charge other).owner s) := by
  cases h with
  | ok h => exact .inl ⟨_, rfl, List.forall₂_map_left_iff.1 h⟩
  | error hsplit hbefore hfailed hafter =>
    obtain ⟨before, rest, rfl, rfl, hrest⟩ := List.map_eq_append_iff.1 hsplit
    obtain ⟨entry, after, rfl, rfl, rfl⟩ := List.map_eq_cons_iff.1 hrest
    rw [List.forall_mem_map] at hafter
    exact .inr ⟨before, entry, after, _, _, rfl, rfl, List.forall₂_map_left_iff.1 hbefore, hfailed,
      hafter⟩

section

variable {x y : Pool Ask Answer ε α × σ} {collected active idle : List (Charge ι ν ε α)}

/-- A call that touches what one owner has and nothing else leaves the tasks of others where they
are. -/
theorem forall₂_of_view {κ : Type} {R : σ → Charge ι ν ε α → κ → Prop}
    (hR : ∀ charge k, D.view charge.owner t = D.view charge.owner s → R s charge k → R t charge k)
    {charges : List (Charge ι ν ε α)} {ks : List κ}
    (hview : ∀ charge ∈ charges, D.view charge.owner t = D.view charge.owner s)
    (h : List.Forall₂ (R s) charges ks) : List.Forall₂ (R t) charges ks := by
  induction h with
  | nil => exact .nil
  | cons h _ ih =>
    rw [List.forall_mem_cons] at hview
    exact .cons (hR _ _ hview.1 h) (ih hview.2)

/-- What goes with a list that is put together is put together as well. -/
theorem forall₂_split {κ μ : Type} {R : κ → μ → Prop} {xs : List κ} {ys zs : List μ}
    (h : List.Forall₂ R xs (ys ++ zs)) :
    ∃ front back, xs = front ++ back ∧ List.Forall₂ R front ys ∧ List.Forall₂ R back zs :=
  ⟨xs.take ys.length, xs.drop ys.length, (List.take_append_drop ..).symm,
    List.forall₂_take_append _ _ _ h, List.forall₂_drop_append _ _ _ h⟩

theorem exists_of_forall₂ {κ μ : Type} {R : κ → μ → Prop} {xs : List κ} {ys : List μ}
    (h : List.Forall₂ R xs ys) {x : κ} (hx : x ∈ xs) : ∃ y, R x y := by
  obtain ⟨i, hi, rfl⟩ := List.getElem_of_mem hx
  exact ⟨_, h.get hi (h.length_eq ▸ hi)⟩

theorem halted_of_forall₂ {charges : List (Charge ι ν ε α)}
    {tasks : List (Program Ask Answer (Except ε α))}
    (h : List.Forall₂ (Charge.Held D s) charges tasks) {charge : Charge ι ν ε α}
    (hcharge : charge ∈ charges) : charge.halt (D.view charge.owner s) := by
  obtain ⟨task, htask⟩ := exists_of_forall₂ h hcharge
  exact htask.halted

theorem Charge.Held.of_view (charge : Charge ι ν ε α) (task : Program Ask Answer (Except ε α))
    (hview : D.view charge.owner t = D.view charge.owner s) (h : charge.Held D s task) :
    charge.Held D t task := by
  rw [Held, hview]
  exact h

theorem Charge.Met.of_view (charge : Charge ι ν ε α) (result : α)
    (hview : D.view charge.owner t = D.view charge.owner s) (h : charge.Met D s result) :
    charge.Met D t result := by
  rw [Met, hview]
  exact h

theorem Charge.owner_ne {charge other : Charge ι ν ε α} {front back : List (Charge ι ν ε α)}
    (hnodup : ((front ++ charge :: back).map (·.owner)).Nodup) (hother : other ∈ front ++ back) :
    other.owner ≠ charge.owner := by
  rw [List.map_append, List.map_cons, List.nodup_middle, List.nodup_cons,
    ← List.map_append] at hnodup
  intro hsame
  exact hnodup.1 (hsame ▸ List.mem_map_of_mem hother)

/-- A pool has left the same wherever the owners have the same. -/
theorem Concluded.of_view {outcome : Except ε (List α)} (hview : ∀ j, D.view j t = D.view j s)
    (h : D.Concluded charges s outcome) : D.Concluded charges t outcome := by
  cases h with
  | ok h => exact .ok (forall₂_of_view Charge.Met.of_view (fun _ _ => hview _) h)
  | error hsplit hbefore hfailed hafter =>
    refine .error hsplit (forall₂_of_view Charge.Met.of_view (fun _ _ => hview _) hbefore) ?_ ?_
    · rw [hview]
      exact hfailed
    · intro other hother
      rw [hview]
      exact hafter other hother

/-- A task that makes a call goes on from the answer, and the others are where they were. -/
theorem Attended.advance (hnodup : (charges.map (·.owner)).Nodup) {results : List α}
    {before after waiting : List (Program Ask Answer (Except ε α))} {c : Ask}
    {next : Answer c → Program Ask Answer (Except ε α)} {answer : Answer c}
    (h : D.Attended origin charges (⟨results, before ++ .ask c next :: after, waiting⟩, s)
      collected active idle) (hstep : D.step c s answer t) :
    D.Attended origin charges (⟨results, before ++ next answer :: after, waiting⟩, t)
      collected active idle := by
  obtain ⟨hsplit, hresults, hrunning, hwaiting, hinv, hothers⟩ := h
  obtain ⟨front, back, rfl, hfront, hback⟩ := forall₂_split hrunning
  cases hback with
  | @cons charge _ back _ htask hback =>
    obtain ⟨htinv, htothers, hnext⟩ := htask.2.effect s answer t hinv rfl hstep
    have haround : charges = (collected ++ front) ++ charge :: (back ++ idle) := by
      rw [hsplit]
      simp
    -- The calls of one owner do not touch what the others have.
    have hapart : ∀ other ∈ (collected ++ front) ++ (back ++ idle),
        D.view other.owner t = D.view other.owner s := by
      intro other hother
      exact htothers _ (Charge.owner_ne (haround ▸ hnodup) hother)
    simp only [List.forall_mem_append] at hapart
    obtain ⟨⟨hcollected, hfront'⟩, hback', hidle⟩ := hapart
    refine ⟨hsplit, forall₂_of_view Charge.Met.of_view hcollected hresults,
      List.rel_append (forall₂_of_view Charge.Held.of_view hfront' hfront)
        (.cons hnext (forall₂_of_view Charge.Held.of_view hback' hback)),
      forall₂_of_view Charge.Held.of_view hidle hwaiting, htinv, fun j hj => ?_⟩
    refine (htothers j fun hsame => hj ?_).trans (hothers j hj)
    rw [haround, hsame]
    simp

theorem Attended.step (hnodup : (charges.map (·.owner)).Nodup)
    (h : D.Attended origin charges x collected active idle) (hstep : Pool.Step limit D.step x y) :
    ∃ collected active idle, D.Attended origin charges y collected active idle := by
  cases hstep with
  | start hlimit =>
    obtain ⟨hsplit, hresults, hrunning, hwaiting, hinv, hothers⟩ := h
    cases hwaiting with
    | @cons charge _ idle _ htask hwaiting =>
      refine ⟨collected, active ++ [charge], idle, ?_, hresults,
        List.rel_append hrunning (.cons htask .nil), hwaiting, hinv, hothers⟩
      rw [hsplit]
      simp
  | advance hcall => exact ⟨_, _, _, h.advance hnodup hcall⟩
  | collect =>
    obtain ⟨hsplit, hresults, hrunning, hwaiting, hinv, hothers⟩ := h
    cases hrunning with
    | @cons charge _ active _ htask hrunning =>
      refine ⟨collected ++ [charge], active, idle, ?_,
        List.rel_append hresults (.cons htask.2 .nil), hrunning, hwaiting, hinv, hothers⟩
      rw [hsplit]
      simp

theorem Attended.concluded {out : Except ε (List α)}
    (h : D.Attended origin charges x collected active idle) (hout : x.1.outcome? = some out) :
    D.Concluded charges x.2 out := by
  obtain ⟨⟨results, running, waiting⟩, s⟩ := x
  obtain ⟨hsplit, hresults, hrunning, hwaiting, hinv, hothers⟩ := h
  cases out with
  | ok results =>
    -- All tasks have been collected, in the order of the charges.
    cases Pool.outcome?_eq_ok_iff.1 hout
    cases hrunning
    cases hwaiting
    rw [List.append_nil, List.append_nil] at hsplit
    exact .ok (hsplit ▸ hresults)
  | error e =>
    obtain ⟨rest, rfl⟩ := Pool.outcome?_eq_error_iff.1 hout
    cases hrunning with
    | @cons charge _ active _ htask hrunning =>
      rw [List.append_assoc, List.cons_append] at hsplit
      -- What runs behind the task that has failed is dropped where it is, what waits never started.
      refine .error hsplit hresults htask.2 (List.forall_mem_append.2 ⟨?_, ?_⟩)
      · exact fun other hother => halted_of_forall₂ hrunning hother
      · exact fun other hother => halted_of_forall₂ hwaiting hother

theorem Attended.outcome_or_step (hlimit : 0 < limit)
    (h : D.Attended origin charges x collected active idle) :
    (∃ out, x.1.outcome? = some out) ∨ ∃ y, Pool.Step limit D.step x y := by
  obtain ⟨⟨results, running, waiting⟩, s⟩ := x
  obtain ⟨_, _, hrunning, hwaiting, hinv, _⟩ := h
  cases hrunning with
  | nil =>
    cases hwaiting with
    | nil => exact .inl ⟨_, rfl⟩
    | cons _ _ => exact .inr ⟨_, .start hlimit⟩
  | @cons charge task _ _ htask _ =>
    cases task with
    | done out =>
      cases out with
      | ok a => exact .inr ⟨_, .collect⟩
      | error e => exact .inl ⟨_, Pool.outcome?_eq_error_iff.2 ⟨_, rfl⟩⟩
    | spent => exact htask.elim
    | ask c next =>
      obtain ⟨answer, t, ht⟩ := htask.2.answered s hinv rfl
      exact .inr ⟨_, @Pool.Step.advance _ _ _ _ _ _ _ _ [] _ _ _ _ _ _ _ ht⟩

theorem attended_start {tasks : List (Program Ask Answer (Except ε α))} (hinv : D.inv s)
    (h : List.Forall₂ (Charge.Held D s) charges tasks) :
    D.Attended s charges (⟨[], [], tasks⟩, s) [] [] charges :=
  ⟨rfl, .nil, .nil, h, hinv, fun _ _ => rfl⟩

end

end Division
end Program
end Granary
