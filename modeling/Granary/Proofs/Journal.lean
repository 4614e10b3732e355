import Granary.Proofs.Custody

/-!
# Journals

A journal has the calls that a program has made and what each was answered, in order.  Where a state
is a journal, every step writes its call down (`Noting`), so what can be said of where a program
ends can be said of the order of its calls.

What may be answered can depend on what has been written before.  A program that ends well whatever
it is answered ends well with fewer answers, as long as there still is one to each of its calls
(`Leads.narrow`).
-/

namespace Granary
namespace Program

variable {Ask : Type} {Answer : Ask → Type} {α : Type}

abbrev Journal (Answer : Ask → Type) : Type := List ((c : Ask) × Answer c)

/-- A call is answered as it may be after what has been written down, and is written down too. -/
def Noting (may : Journal Answer → (c : Ask) → Answer c → Prop) (c : Ask) (s : Journal Answer)
    (answer : Answer c) (t : Journal Answer) : Prop :=
  may s c answer ∧ t = s ++ [⟨c, answer⟩]

variable {may may' : Journal Answer → (c : Ask) → Answer c → Prop} {s : Journal Answer}

theorem leads_ask {c : Ask} {next : Answer c → Program Ask Answer α}
    {post : α → Journal Answer → Prop} (hsome : ∃ answer, may s c answer)
    (h : ∀ answer, may s c answer → (next answer).Leads (Noting may) post (s ++ [⟨c, answer⟩])) :
    (Program.ask c next).Leads (Noting may) post s := by
  obtain ⟨answer, hanswer⟩ := hsome
  refine ⟨⟨answer, _, hanswer, rfl⟩, ?_⟩
  rintro answer _ ⟨hanswer, rfl⟩
  exact h answer hanswer

theorem runs_ask {c : Ask} {next : Answer c → Program Ask Answer α} {out : Option α}
    {t : Journal Answer} (answer : Answer c) (hanswer : may s c answer)
    (h : Runs (Noting may) (next answer) (s ++ [⟨c, answer⟩]) out t) :
    Runs (Noting may) (.ask c next) s out t :=
  .ask ⟨hanswer, rfl⟩ h

theorem Leads.narrow {good : Journal Answer → Prop} {post : α → Journal Answer → Prop}
    {p : Program Ask Answer α}
    (hnarrow : ∀ s c answer, good s → may' s c answer →
      may s c answer ∧ good (s ++ [⟨c, answer⟩]))
    (hsome : ∀ s c answer, good s → may s c answer → ∃ answer', may' s c answer')
    (hp : p.Leads (Noting may) post s) (hs : good s) :
    p.Leads (Noting may') (fun a t => good t ∧ post a t) s := by
  induction p generalizing s with
  | done a => exact ⟨hs, hp⟩
  | ask c next ih =>
    obtain ⟨⟨answer, t, hanswer, -⟩, hnext⟩ := hp
    refine leads_ask (hsome s c answer hs hanswer) fun answer' hanswer' => ?_
    obtain ⟨hmay, hgood⟩ := hnarrow s c answer' hs hanswer'
    exact ih answer' (hnext answer' _ ⟨hmay, rfl⟩) hgood
  | spent => exact hp

end Program
end Granary
