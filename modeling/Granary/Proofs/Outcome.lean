import Mathlib.Data.List.Forall2

/-!
# Outcomes of stages

Stages that may fail are run one after another.  A run that succeeds is taken apart into its stages
with `bind_eq_ok`, and a loop of stages that succeeds keeps what each of them keeps.

`Agree` compares two runs: both fail with the same error, or both succeed with results that belong
together.
-/

namespace Granary
namespace Outcome

universe u v w

section

variable {ε : Type u} {α : Type v} {β : Type v}

theorem bind_eq_ok {x : Except ε α} {f : α → Except ε β} {b : β} :
    (x >>= f) = .ok b ↔ ∃ a, x = .ok a ∧ f a = .ok b := by
  cases x with
  | error e => simp [bind, Except.bind]
  | ok a => simp [bind, Except.bind]

theorem pure_eq_ok {a b : α} : (pure a : Except ε α) = .ok b ↔ a = b := by
  simp [pure, Except.pure]

theorem map_eq_ok {x : Except ε α} {f : α → β} {b : β} :
    x.map f = .ok b ↔ ∃ a, x = .ok a ∧ f a = b := by
  cases x with
  | error e => simp [Except.map]
  | ok a => simp [Except.map]

theorem toOption_eq_some {x : Except ε α} {a : α} : x.toOption = some a ↔ x = .ok a := by
  cases x with
  | error e => simp [Except.toOption]
  | ok b => simp [Except.toOption]

theorem mapError_eq_ok {δ : Type w} {x : Except ε α} {f : ε → δ} {a : α} :
    x.mapError f = .ok a ↔ x = .ok a := by
  cases x with
  | error e => simp [Except.mapError]
  | ok b => simp [Except.mapError]

/-- The error of a run that fails. -/
def error? : Except ε α → Option ε
  | .error e => some e
  | .ok _ => none

/-- What every step of a loop keeps, the loop keeps. -/
theorem foldlM_invariant {f : β → α → Except ε β} (P : β → Prop) {xs : List α}
    (step : ∀ b c, ∀ a ∈ xs, P b → f b a = .ok c → P c) {b c : β} (hb : P b)
    (h : xs.foldlM f b = .ok c) : P c := by
  induction xs generalizing b with
  | nil =>
    rw [List.foldlM_nil, pure_eq_ok] at h
    exact h ▸ hb
  | cons a rest ih =>
    rw [List.foldlM_cons, bind_eq_ok] at h
    obtain ⟨d, hd, hrest⟩ := h
    have hP : P d := step b d a List.mem_cons_self hb hd
    exact ih (fun b c a' ha => step b c a' (List.mem_cons_of_mem a ha)) hP hrest

/-- A loop that goes the same way after its state has been mapped ends in the mapped result, as long
as its states have some property. -/
theorem foldlM_map_of_ok {γ : Type v} {f : β → α → Except ε β} {g : γ → α → Except ε γ} (φ : β → γ)
    (P : β → Prop) {xs : List α}
    (step : ∀ b c, ∀ a ∈ xs, P b → f b a = .ok c → g (φ b) a = .ok (φ c) ∧ P c) {b c : β}
    (hb : P b) (h : xs.foldlM f b = .ok c) : xs.foldlM g (φ b) = .ok (φ c) := by
  induction xs generalizing b with
  | nil =>
    rw [List.foldlM_nil, pure_eq_ok] at h
    rw [List.foldlM_nil, h]
    rfl
  | cons a rest ih =>
    rw [List.foldlM_cons, bind_eq_ok] at h
    obtain ⟨d, hd, hrest⟩ := h
    obtain ⟨hmapped, hP⟩ := step b d a List.mem_cons_self hb hd
    rw [List.foldlM_cons, bind_eq_ok]
    exact ⟨φ d, hmapped, ih (fun b c a' ha => step b c a' (List.mem_cons_of_mem a ha)) hP hrest⟩

theorem mapM_map_of_ok {γ : Type v} {f : α → Except ε β} {g : α → Except ε γ} (φ : β → γ)
    {xs : List α} (hfg : ∀ a b, f a = .ok b → g a = .ok (φ b)) {ys : List β}
    (h : xs.mapM f = .ok ys) : xs.mapM g = .ok (ys.map φ) := by
  induction xs generalizing ys with
  | nil =>
    rw [List.mapM_nil, pure_eq_ok] at h
    rw [List.mapM_nil, ← h]
    rfl
  | cons a rest ih =>
    simp only [List.mapM_cons, bind_eq_ok, pure_eq_ok] at h
    obtain ⟨b, hb, bs, hbs, rfl⟩ := h
    simp only [List.mapM_cons, bind_eq_ok, pure_eq_ok]
    exact ⟨φ b, hfg a b hb, bs.map φ, ih hbs, rfl⟩

theorem length_of_mapM {f : α → Except ε β} {xs : List α} {ys : List β}
    (h : xs.mapM f = .ok ys) : ys.length = xs.length := by
  induction xs generalizing ys with
  | nil =>
    rw [List.mapM_nil, pure_eq_ok] at h
    rw [← h]
    rfl
  | cons a rest ih =>
    simp only [List.mapM_cons, bind_eq_ok, pure_eq_ok] at h
    obtain ⟨b, _, bs, hbs, rfl⟩ := h
    rw [List.length_cons, List.length_cons, ih hbs]

theorem mapM_append_ok {f : α → Except ε β} {xs xs' : List α} {ys ys' : List β}
    (h : xs.mapM f = .ok ys) (h' : xs'.mapM f = .ok ys') :
    (xs ++ xs').mapM f = .ok (ys ++ ys') := by
  rw [List.mapM_append, h, h']
  rfl

theorem forall_of_mapM {f : α → Except ε β} {P : β → Prop} {xs : List α} {ys : List β}
    (hf : ∀ a ∈ xs, ∀ b, f a = .ok b → P b) (h : xs.mapM f = .ok ys) : ∀ y ∈ ys, P y := by
  induction xs generalizing ys with
  | nil =>
    rw [List.mapM_nil, pure_eq_ok] at h
    exact h ▸ fun y hy => absurd hy List.not_mem_nil
  | cons a rest ih =>
    simp only [List.mapM_cons, bind_eq_ok, pure_eq_ok] at h
    obtain ⟨b, hb, bs, hbs, rfl⟩ := h
    have hrest := ih (fun a' ha => hf a' (List.mem_cons_of_mem a ha)) hbs
    exact List.forall_mem_cons.2 ⟨hf a List.mem_cons_self b hb, hrest⟩

theorem mem_of_mapM {f : α → Except ε β} {xs : List α} {ys : List β} (h : xs.mapM f = .ok ys)
    {y : β} : y ∈ ys ↔ ∃ x ∈ xs, f x = .ok y := by
  induction xs generalizing ys with
  | nil =>
    rw [List.mapM_nil, pure_eq_ok] at h
    simp [← h]
  | cons a rest ih =>
    simp only [List.mapM_cons, bind_eq_ok, pure_eq_ok] at h
    obtain ⟨b, hb, bs, hbs, rfl⟩ := h
    simp [ih hbs, hb, eq_comm]

/-- Every element goes to the one at its place. -/
theorem mapM_eq_ok {f : α → Except ε β} {xs : List α} {ys : List β} :
    xs.mapM f = .ok ys ↔ List.Forall₂ (fun x y => f x = .ok y) xs ys := by
  induction xs generalizing ys with
  | nil =>
    rw [List.mapM_nil, pure_eq_ok, List.forall₂_nil_left_iff]
    exact eq_comm
  | cons a rest ih =>
    simp only [List.mapM_cons, bind_eq_ok, pure_eq_ok, List.forall₂_cons_left_iff, ih]
    constructor
    · rintro ⟨b, hb, bs, hbs, rfl⟩
      exact ⟨b, bs, hb, hbs, rfl⟩
    · rintro ⟨b, bs, hb, hbs, rfl⟩
      exact ⟨b, hb, bs, hbs, rfl⟩

theorem exists_of_mapM {f : α → Except ε β} {xs : List α} {ys : List β} (h : xs.mapM f = .ok ys) :
    ∀ x ∈ xs, ∃ y, f x = .ok y := by
  induction xs generalizing ys with
  | nil => exact fun x hx => absurd hx List.not_mem_nil
  | cons a rest ih =>
    simp only [List.mapM_cons, bind_eq_ok] at h
    obtain ⟨b, hb, bs, hbs, _⟩ := h
    exact List.forall_mem_cons.2 ⟨⟨b, hb⟩, ih hbs⟩

end

/-! ## Two runs -/

/-- Both runs fail with the same error, or both succeed and their results belong together. -/
inductive Agree {ε : Type u} {α β : Type v} (R : α → β → Prop) :
    Except ε α → Except ε β → Prop where
  | error (e : ε) : Agree R (.error e) (.error e)
  | ok {a : α} {b : β} (h : R a b) : Agree R (.ok a) (.ok b)

namespace Agree

variable {ε : Type u} {α β γ δ : Type v} {R : α → β → Prop} {S : γ → δ → Prop}

theorem bind {x : Except ε α} {y : Except ε β} {f : α → Except ε γ} {g : β → Except ε δ}
    (h : Agree R x y) (hfg : ∀ a b, R a b → Agree S (f a) (g b)) : Agree S (x >>= f) (y >>= g) := by
  cases h with
  | error e => exact .error e
  | ok hab => exact hfg _ _ hab

/-- Runs that begin with the same stage. -/
theorem bind_same {x : Except ε α} {f : α → Except ε γ} {g : α → Except ε δ}
    (hfg : ∀ a, Agree S (f a) (g a)) : Agree S (x >>= f) (x >>= g) := by
  cases x with
  | error e => exact .error e
  | ok a => exact hfg a

theorem mapError {ε' : Type w} (m : ε → ε') {x : Except ε α} {y : Except ε β} (h : Agree R x y) :
    Agree R (x.mapError m) (y.mapError m) := by
  cases h with
  | error e => exact .error (m e)
  | ok hab => exact .ok hab

/-- Loops over lists whose entries belong together. -/
theorem foldlM {T : γ → δ → Prop} {f : α → γ → Except ε α} {g : β → δ → Except ε β}
    (step : ∀ a b c d, R a b → T c d → Agree R (f a c) (g b d)) {cs : List γ} {ds : List δ}
    (h : List.Forall₂ T cs ds) {a : α} {b : β} (hab : R a b) :
    Agree R (cs.foldlM f a) (ds.foldlM g b) := by
  induction h generalizing a b with
  | nil => exact .ok hab
  | cons hcd _ ih =>
    rw [List.foldlM_cons, List.foldlM_cons]
    exact bind (step a b _ _ hab hcd) fun a' b' hab' => ih hab'

/-- Two runs agree in what both results have in common. -/
theorem map_eq {f : α → γ} {g : β → γ} {x : Except ε α} {y : Except ε β} (h : Agree R x y)
    (hfg : ∀ a b, R a b → f a = g b) : x.map f = y.map g := by
  cases h with
  | error e => rfl
  | ok hab => exact congrArg Except.ok (hfg _ _ hab)

end Agree

/-! ## Two runs up to what their errors say -/

section

variable {ε : Type u} {ε' : Type w} {α β : Type v} {k : ε → ε'}

theorem mapError_mapError {δ : Type u} {m : δ → ε} {x : Except δ α} :
    (x.mapError m).mapError k = x.mapError fun e => k (m e) := by
  cases x with
  | error e => rfl
  | ok a => rfl

theorem mapError_bind_congr {x y : Except ε α} {f g : α → Except ε β}
    (hxy : x.mapError k = y.mapError k) (hfg : ∀ a, (f a).mapError k = (g a).mapError k) :
    (x >>= f).mapError k = (y >>= g).mapError k := by
  cases x with
  | error e =>
    cases y with
    | error e' => exact congrArg Except.error (Except.error.inj hxy)
    | ok b => cases hxy
  | ok a =>
    cases y with
    | error e' => cases hxy
    | ok b =>
      obtain rfl : a = b := Except.ok.inj hxy
      exact hfg a

/-- Runs that begin with the same stage. -/
theorem mapError_bind_same {x : Except ε α} {f g : α → Except ε β}
    (hfg : ∀ a, (f a).mapError k = (g a).mapError k) :
    (x >>= f).mapError k = (x >>= g).mapError k :=
  mapError_bind_congr rfl hfg

/-- Loops over lists whose entries belong together. -/
theorem mapError_foldlM_congr {γ δ : Type v} {T : γ → δ → Prop} {f : α → γ → Except ε α}
    {g : α → δ → Except ε α} (step : ∀ a c d, T c d → (f a c).mapError k = (g a d).mapError k)
    {cs : List γ} {ds : List δ} (h : List.Forall₂ T cs ds) (a : α) :
    (cs.foldlM f a).mapError k = (ds.foldlM g a).mapError k := by
  induction h generalizing a with
  | nil => rfl
  | cons hcd _ ih =>
    rw [List.foldlM_cons, List.foldlM_cons]
    exact mapError_bind_congr (step a _ _ hcd) ih

theorem mapError_forM_congr {γ δ : Type v} {T : γ → δ → Prop} {f : γ → Except ε PUnit}
    {g : δ → Except ε PUnit} (step : ∀ c d, T c d → (f c).mapError k = (g d).mapError k)
    {cs : List γ} {ds : List δ} (h : List.Forall₂ T cs ds) :
    (cs.forM f).mapError k = (ds.forM g).mapError k := by
  induction h with
  | nil => rfl
  | cons hcd _ ih => exact mapError_bind_congr (step _ _ hcd) fun _ => ih

end
end Outcome
end Granary
