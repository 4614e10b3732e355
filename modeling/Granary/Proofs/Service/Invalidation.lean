import Granary.Proofs.Service.Provenance
import Mathlib.Logic.Function.Basic
import Mathlib.Logic.Relation
import Mathlib.Order.Basic
import Mathlib.Tactic.Simps.Basic

/-!
# Forgetting while catalogs are being loaded

Looking a key up, loading the catalog and keeping the snapshot are calls of their own, so other
visits may come in between.  In particular a snapshot may be kept after its key was forgotten,
although the catalog had been looked at before, and it is found by whoever looks the key up next.

`Scene` is any number of visits side by side, with the cache and with a record of when the catalog
was first looked at for each snapshot.  A visit is `Underway` while it has looked at the catalog for
a snapshot that it may yet keep.  Once a key has been forgotten, later lookups are free of what was
loaded before if and only if no visit is underway at that moment: `fresh_after_forget_iff`.
-/

namespace Granary
namespace Service

open Program (Only Safe only_ask only_lift only_pure only_throw)
open Relation (ReflTransGen)
open Schema.Cache

abbrev Visit.Rest := Program (Call Profile) Answer (Except Error Unit)

/-- Visits side by side, the cache, and when things happened, counted in calls. -/
structure Scene (ι : Type) where
  programs : ι → Visit.Rest
  cache : Schema.Cache
  clock : Nat := 0
  /-- How many calls have been answered. -/
  time : Nat := 0
  /-- When the catalog was first looked at for the snapshot under a key. -/
  since : String → Nat := fun _ => 0
  /-- When a visit looked its key up. -/
  looked : ι → Option Nat := fun _ => none
  /-- When the catalog was first looked at for what a visit goes on with. -/
  drew : ι → Option Nat := fun _ => none

/-- A call that has to do neither with the cache nor with a catalog. -/
def Call.isPlain {β : Type} : Call β → Prop
  | .connect _ | .execute .. => True
  | _ => False

namespace Scene

variable {ι : Type} [DecidableEq ι]

/-- One visit has had an answer and goes on. -/
@[simps]
def go (x : Scene ι) (i : ι) (rest : Visit.Rest) (now : Nat) : Scene ι :=
  { x with programs := Function.update x.programs i rest, clock := now, time := x.time + 1 }

@[simps]
def lookUp (x : Scene ι) (i : ι) : Scene ι :=
  { x with looked := Function.update x.looked i (some x.time) }

@[simps]
def draw (x : Scene ι) (i : ι) (first : Nat) : Scene ι :=
  { x with drew := Function.update x.drew i (some first) }

/-- When the catalog was first looked at for what a visit has, if that is not only now. -/
def firstLook (x : Scene ι) (i : ι) : Nat := (x.drew i).getD x.time

@[simps]
def keep (x : Scene ι) (i : ι) (key : String) (snapshot : Snapshot) (now : Nat) : Scene ι :=
  { x with
    cache := x.cache.insert now key snapshot
    since := Function.update x.since key (x.firstLook i) }

@[simps]
def forget (x : Scene ι) (key : String) : Scene ι := { x with cache := x.cache.invalidate key }

/-- A visit's next call, its answer, and what it leaves behind.  The clock does not go backwards;
databases answer in any way, and so their catalogs may change at any time. -/
inductive Step (i : ι) : Call Profile → Scene ι → Scene ι → Prop where
  | found {x : Scene ι} {key : String} {snapshot : Snapshot} {now : Nat}
      {next : Option Snapshot → Visit.Rest} (hi : x.programs i = .ask (.remembered key) next)
      (hnow : x.clock ≤ now) (h : x.cache.get now key = some snapshot) :
      Step i (.remembered key) x
        (((x.lookUp i).draw i (x.since key)).go i (next (some snapshot)) now)
  | missing {x : Scene ι} {key : String} {now : Nat} {next : Option Snapshot → Visit.Rest}
      (hi : x.programs i = .ask (.remembered key) next) (hnow : x.clock ≤ now)
      (h : x.cache.get now key = none) :
      Step i (.remembered key) x ((x.lookUp i).go i (next none) now)
  | kept {x : Scene ι} {key : String} {snapshot : Snapshot} {now : Nat} {next : Unit → Visit.Rest}
      (hi : x.programs i = .ask (.keep key snapshot) next) (hnow : x.clock ≤ now) :
      Step i (.keep key snapshot) x ((x.keep i key snapshot now).go i (next ()) now)
  | forgotten {x : Scene ι} {key : String} {now : Nat} {next : Unit → Visit.Rest}
      (hi : x.programs i = .ask (.forget key) next) (hnow : x.clock ≤ now) :
      Step i (.forget key) x ((x.forget key).go i (next ()) now)
  | looked {x : Scene ι} {c : Call Profile} {p : Profile} {now : Nat}
      {next : Answer c → Visit.Rest} (hi : x.programs i = .ask c next) (hnow : x.clock ≤ now)
      (hc : c.catalog? = some p) (answer : Answer c) :
      Step i c x ((x.draw i (x.firstLook i)).go i (next answer) now)
  | plain {x : Scene ι} {c : Call Profile} {now : Nat} {next : Answer c → Visit.Rest}
      (hi : x.programs i = .ask c next) (hnow : x.clock ≤ now) (hc : c.isPlain)
      (answer : Answer c) : Step i c x (x.go i (next answer) now)

def Next (x y : Scene ι) : Prop := ∃ i c, Step i c x y

/-- Visits that are about to begin, and nothing kept. -/
def start (s : Service) (v : ι → Visit) (enabled : Bool) (timeToLive room : Nat) : Scene ι where
  programs i := ((v i).program s).run
  cache := { enabled, timeToLive, room }

/-- Whoever looks the key up from now on goes on with what the catalog was from now on. -/
def Fresh (v : ι → Visit) (key : String) (y : Scene ι) : Prop :=
  ∀ z, ReflTransGen Next y z → ∀ i, (v i).key = key → ∀ l b, z.looked i = some l → y.time ≤ l →
    z.drew i = some b → y.time ≤ b

/-- The program may keep a snapshot under a key without looking the key up before. -/
def MayKeep (key : String) {α : Type} : Program (Call Profile) Answer α → Prop
  | .ask (.remembered _) _ => False
  | .ask (.keep other _) next => other = key ∨ MayKeep key (next ())
  | .ask _ next => ∃ answer, MayKeep key (next answer)
  | .done _ | .spent => False

/-- A visit that has looked at the catalog for a snapshot that it may yet keep. -/
def Underway (key : String) (x : Scene ι) (i : ι) : Prop :=
  (x.drew i).isSome ∧ MayKeep key (x.programs i)

end Scene

/-! ## The order of a visit's calls -/

/-- The calls of a visit that has looked its key up, or does not look it up at all. -/
def Call.isLate (key : String) : Call Profile → Prop
  | .remembered _ => False
  | .keep other _ => other = key
  | _ => True

/-- The calls before a key is looked up. -/
def Call.isEarly : Call Profile → Prop
  | .connect _ | .execute .. | .forget _ => True
  | _ => False

abbrev Late (key : String) {α : Type} (x : Attempt Profile α) : Prop := Only (Call.isLate key) x

/-- The attempt looks its key up once, and at no catalog before, or it fails. -/
def Orderly (key : String) {α : Type} :
    Program (Call Profile) Answer (Except Error α) → Prop
  | .done outcome => ∀ a, outcome ≠ .ok a
  | .ask (.remembered other) next => other = key ∧ ∀ found, Late key (.mk (next found))
  | .ask c next => c.isEarly ∧ ∀ answer, Orderly key (next answer)
  | .spent => True

section

variable {key : String} {α β : Type}

theorem Orderly.bind {x : Attempt Profile α} {f : α → Attempt Profile β}
    (hx : Orderly key x.run) (hf : ∀ a, Late key (f a)) : Orderly key (x >>= f).run := by
  have hrest : ∀ p : Program (Call Profile) Answer (Except Error α), Orderly key p →
      Orderly key (ExceptT.mk p >>= f).run := by
    intro p hp
    induction p with
    | done outcome =>
      cases outcome with
      | error e => exact fun _ => nofun
      | ok a => exact absurd rfl (hp a)
    | ask c next ih =>
      cases c with
      | remembered other => exact ⟨hp.1, fun found => (hp.2 found).bind hf⟩
      | _ => exact ⟨hp.1, fun answer => ih answer (hp.2 answer)⟩
    | spent => trivial
  exact hrest x.run hx

theorem orderly_bind_of_only {x : Attempt Profile α} {f : α → Attempt Profile β}
    (hx : Only Call.isEarly x) (hf : ∀ a, Orderly key (f a).run) : Orderly key (x >>= f).run := by
  have hrest : ∀ p : Program (Call Profile) Answer (Except Error α),
      p.Safe Call.isEarly (fun _ _ => True) (fun _ => True) →
      Orderly key (ExceptT.mk p >>= f).run := by
    intro p hp
    induction p with
    | done outcome =>
      cases outcome with
      | error e => exact fun _ => nofun
      | ok a => exact hf a
    | ask c next ih =>
      cases c with
      | remembered other => exact hp.1.elim
      | _ => exact ⟨hp.1, fun answer => ih answer (hp.2 answer trivial)⟩
    | spent => trivial
  exact hrest x.run hx

theorem isLate_of_catalog {p : Profile} (c : Call Profile) (hc : c.catalog? = some p) :
    c.isLate key := by
  cases c <;> trivial

theorem orderly_snapshotFor (p : Profile) (r : Request) :
    Orderly key (snapshotFor key p r).run := by
  refine ⟨rfl, fun found => ?_⟩
  cases found with
  | some snapshot => exact only_pure _
  | none =>
    show Late key (if _ then _ else _)
    split
    · exact only_loadKnownTable isLate_of_catalog _
    · exact only_loadAndKeep isLate_of_catalog fun _ => rfl

theorem only_connect {allowed : Call Profile → Prop} {p : Profile} (h : allowed (.connect p)) :
    Only allowed (Attempt.connect p) :=
  only_ask h id

theorem orderly_executeOn (p : Profile) (r : Request) : Orderly key (executeOn key p r).run := by
  refine orderly_bind_of_only (only_connect trivial) fun c => ?_
  have hcompile : Orderly key (compileOn key c r).run :=
    (orderly_snapshotFor c r).bind fun snapshot => only_lift _
  refine hcompile.bind fun statement => ?_
  have hexecute : Late key (Attempt.execute c statement.sql statement.params) :=
    only_ask trivial id
  exact hexecute.bind fun _ => only_pure _

theorem Visit.orderly_or_late (s : Service) (v : Visit) :
    Orderly v.key (v.program s).run ∨ Late v.key (v.program s) := by
  have hdiscard : ∀ {α : Type} {key : String} {x : Attempt Profile α}, Orderly key x.run →
      Orderly key (do let _ ← x : Attempt Profile Unit).run :=
    fun h => h.bind fun _ => only_pure _
  cases v with
  | execute id r =>
    refine .inl (hdiscard ?_)
    refine orderly_bind_of_only (only_lift _) fun _ => ?_
    exact orderly_bind_of_only (only_lift _) fun p => orderly_executeOn p r
  | executeWarehouse r =>
    refine .inl (hdiscard ?_)
    refine orderly_bind_of_only (only_lift _) fun _ => ?_
    exact orderly_bind_of_only (only_lift _) fun p => orderly_executeOn p r
  | joinableTables existing =>
    refine .inl (hdiscard ?_)
    refine orderly_bind_of_only (only_lift _) fun p => ?_
    refine orderly_bind_of_only (only_connect trivial) fun c => ⟨rfl, fun found => ?_⟩
    cases found with
    | some snapshot => exact only_pure _
    | none =>
      exact (only_loadAndKeep isLate_of_catalog fun _ => rfl).bind fun _ => only_pure _
  | listTables id =>
    refine .inr (Only.bind ?_ fun _ => only_pure _)
    refine (only_lift _).bind fun p => (only_connect trivial).bind fun c => ?_
    have htables : Late id (Attempt.listBaseTables c).asSchemaFailure :=
      Attempt.only_asSchemaFailure (only_ask trivial fun answer => answer)
    exact htables.bind fun _ => only_pure _
  | tableColumns id table =>
    refine .inr (Only.bind ?_ fun _ => only_pure _)
    refine (only_lift _).bind fun p => (only_connect trivial).bind fun c => ?_
    refine (only_fetchColumns isLate_of_catalog _).bind fun columns => ?_
    show Late id (if _ then _ else _)
    split
    · exact only_throw _
    · exact only_pure _
  | invalidate key => exact .inr (only_ask trivial fun _ => .ok ())

end

namespace Scene

variable {ι : Type} {s : Service} {v : ι → Visit} {x y z : Scene ι} {i j : ι} {c : Call Profile}
  {key : String}

/-! ## What every step keeps -/

section

variable {α : Type}

theorem MayKeep.of_next {next : Answer c → Program (Call Profile) Answer α} {answer : Answer c}
    (hc : ∀ other, c ≠ .remembered other) (h : MayKeep key (next answer)) :
    MayKeep key (.ask c next) := by
  cases c with
  | remembered other => exact absurd rfl (hc other)
  | keep other snapshot => exact .inr h
  | _ => exact ⟨answer, h⟩

theorem MayKeep.key_eq {own : String} {p : Program (Call Profile) Answer α}
    (h : MayKeep key p) (hp : p.Safe (Call.isLate own) (fun _ _ => True) fun _ => True) :
    key = own := by
  induction p with
  | done a => exact h.elim
  | ask c next ih =>
    cases c with
    | remembered other => exact hp.1.elim
    | keep other snapshot =>
      obtain hsame | hnext := h
      · exact hsame.symm.trans hp.1
      · exact ih () hnext (hp.2 () trivial)
    | _ =>
      obtain ⟨answer, hnext⟩ := h
      exact ih answer hnext (hp.2 answer trivial)
  | spent => exact h.elim

end

/-- Whether anything that is kept may be found. -/
def Live (x : Scene ι) : Prop := x.cache.enabled = true ∧ 0 < x.cache.timeToLive

theorem live_of_get {now : Nat} {snapshot : Snapshot} (h : x.cache.get now key = some snapshot) :
    x.Live := by
  by_contra hdead
  have hnone : x.cache.get now key = none := by
    refine get_eq_none ?_
    rw [Live, not_and_or] at hdead
    exact hdead.imp (by simp) (by omega)
  rw [hnone] at h
  cases h

/-- Either the visit has yet to look its key up, and has looked at no catalog, or it will not look
it up any more. -/
def Phase (v : ι → Visit) (x : Scene ι) (i : ι) : Prop :=
  (x.drew i = none ∧ x.looked i = none ∧ Orderly (v i).key (x.programs i)) ∨
    Late (v i).key (.mk (x.programs i))

/-- A visit that looks a key up has its own key to look up, and does so once. -/
theorem Phase.of_remembered {next : Option Snapshot → Visit.Rest} (h : Phase v x i)
    (hi : x.programs i = .ask (.remembered key) next) :
    key = (v i).key ∧ x.drew i = none ∧ ∀ found, Late (v i).key (.mk (next found)) := by
  obtain ⟨hdrew, hlooked, horderly⟩ | hlate := h
  · rw [hi] at horderly
    exact ⟨horderly.1, hdrew, horderly.2⟩
  · rw [hi] at hlate
    exact hlate.1.elim

/-- Any other call leaves a visit as early or as late as it was. -/
theorem Phase.of_other {next : Answer c → Visit.Rest} (h : Phase v x i)
    (hi : x.programs i = .ask c next) (hc : ∀ other, c ≠ .remembered other) (answer : Answer c) :
    (c.isEarly ∧ x.drew i = none ∧ x.looked i = none ∧ Orderly (v i).key (next answer)) ∨
      (c.isLate (v i).key ∧ Late (v i).key (.mk (next answer))) := by
  obtain ⟨hdrew, hlooked, horderly⟩ | hlate := h
  · rw [hi] at horderly
    refine .inl ?_
    cases c with
    | remembered other => exact absurd rfl (hc other)
    | _ => exact ⟨horderly.1, hdrew, hlooked, horderly.2 answer⟩
  · rw [hi] at hlate
    exact .inr ⟨hlate.1, hlate.2 answer trivial⟩

theorem firstLook_cases (x : Scene ι) (i : ι) :
    x.drew i = some (x.firstLook i) ∨ x.drew i = none ∧ x.firstLook i = x.time := by
  unfold firstLook
  cases x.drew i with
  | none => exact .inr ⟨rfl, rfl⟩
  | some b => exact .inl rfl

/-- What is recorded lies in the past, and visits keep to the order of their calls. -/
structure Recorded (v : ι → Visit) (x : Scene ι) : Prop where
  phase : ∀ i, Phase v x i
  looked : ∀ i l, x.looked i = some l → l < x.time
  drew : ∀ i b, x.drew i = some b → b < x.time
  since : ∀ key e, (key, e) ∈ x.cache.entries → x.since key < x.time

theorem recorded_start (s : Service) (v : ι → Visit) (enabled : Bool) (timeToLive room : Nat) :
    Recorded v (start s v enabled timeToLive room) where
  phase i := ((v i).orderly_or_late s).imp (fun h => ⟨rfl, rfl, h⟩) id
  looked _ _ h := nomatch h
  drew _ _ h := nomatch h
  since _ _ h := absurd h List.not_mem_nil

variable [DecidableEq ι]

theorem Step.time_eq (h : Step i c x y) : y.time = x.time + 1 := by
  cases h <;> rfl

theorem Step.programs_of_ne (h : Step i c x y) (hj : j ≠ i) : y.programs j = x.programs j := by
  cases h <;> exact Function.update_of_ne hj _ _

theorem Step.looked_of_ne (h : Step i c x y) (hj : j ≠ i) : y.looked j = x.looked j := by
  cases h <;> first | rfl | exact Function.update_of_ne hj _ _

theorem Step.drew_of_ne (h : Step i c x y) (hj : j ≠ i) : y.drew j = x.drew j := by
  cases h <;> first | rfl | exact Function.update_of_ne hj _ _

theorem Step.live_iff (h : Step i c x y) : y.Live ↔ x.Live := by
  cases h with
  | kept => simp [Live]
  | _ => rfl

theorem programs_go (x : Scene ι) (i : ι) (rest : Visit.Rest) (now : Nat) :
    (x.go i rest now).programs i = rest := Function.update_self ..

/-- What every step keeps, every run keeps. -/
theorem invariant_of_reached (inv : Scene ι → Prop)
    (hstep : ∀ {x y : Scene ι} {i : ι} {c : Call Profile}, inv x → Step i c x y → inv y)
    (h : ReflTransGen Next x y) (hx : inv x) : inv y := by
  induction h with
  | refl => exact hx
  | tail _ hnext ih =>
    obtain ⟨i, c, hnext⟩ := hnext
    exact hstep ih hnext

theorem time_le_of_reached (h : ReflTransGen Next x y) : x.time ≤ y.time :=
  invariant_of_reached (fun z => x.time ≤ z.time)
    (fun hle hstep => hstep.time_eq ▸ Nat.le_succ_of_le hle) h (Nat.le_refl _)

theorem live_iff_of_reached (h : ReflTransGen Next x y) : y.Live ↔ x.Live :=
  invariant_of_reached (fun z => z.Live ↔ x.Live) (fun hiff hstep => hstep.live_iff.trans hiff) h
    .rfl

theorem Step.phase (h : Step i c x y) (hx : ∀ j, Phase v x j) (j : ι) : Phase v y j := by
  by_cases hj : j = i
  · subst hj
    rw [Phase]
    cases h with
    | found hi _ _ =>
      rw [programs_go]
      exact .inr (((hx j).of_remembered hi).2.2 _)
    | missing hi _ _ =>
      rw [programs_go]
      exact .inr (((hx j).of_remembered hi).2.2 _)
    | kept hi _ =>
      rw [programs_go]
      exact ((hx j).of_other hi nofun ()).imp (fun h => h.1.elim) And.right
    | forgotten hi _ =>
      rw [programs_go]
      exact ((hx j).of_other hi nofun ()).imp And.right And.right
    | looked hi _ hc answer =>
      rw [programs_go]
      have hother := (hx j).of_other hi (by rintro other rfl; cases hc) answer
      refine hother.imp (fun h => ?_) And.right
      cases c <;> first | exact h.1.elim | cases hc
    | plain hi _ hc answer =>
      rw [programs_go]
      have hother := (hx j).of_other hi (by rintro other rfl; cases hc) answer
      exact hother.imp And.right And.right
  · rw [Phase, h.drew_of_ne hj, h.looked_of_ne hj, h.programs_of_ne hj]
    exact hx j

/-! What a step leaves was there before or comes from its call. -/

section

variable {l b : Nat} {e : Schema.Entry}

theorem Step.looked_cases (h : Step i c x y) (hl : y.looked j = some l) :
    x.looked j = some l ∨ l = x.time ∧ j = i ∧ ∃ key, c = .remembered key := by
  by_cases hj : j = i
  · subst hj
    cases h with
    | found => exact .inr ⟨by simpa [eq_comm] using hl, rfl, _, rfl⟩
    | missing => exact .inr ⟨by simpa [eq_comm] using hl, rfl, _, rfl⟩
    | _ => exact .inl hl
  · exact .inl (h.looked_of_ne hj ▸ hl)

theorem Step.drew_cases (h : Step i c x y) (hb : y.drew j = some b) :
    x.drew j = some b ∨ (x.drew j = none ∧ b = x.time) ∨
      ∃ key now snapshot, c = .remembered key ∧ j = i ∧ x.cache.get now key = some snapshot ∧
        b = x.since key := by
  by_cases hj : j = i
  · subst hj
    cases h with
    | found _ _ hget =>
      exact .inr (.inr ⟨_, _, _, rfl, rfl, hget, by simpa [eq_comm] using hb⟩)
    | looked _ _ _ _ =>
      obtain rfl : x.firstLook j = b := by simpa using hb
      exact (x.firstLook_cases j).elim .inl fun h => .inr (.inl h)
    | _ => exact .inl hb
  · exact .inl (h.drew_of_ne hj ▸ hb)

theorem Step.since_cases (h : Step i c x y) (he : (key, e) ∈ y.cache.entries) :
    ((key, e) ∈ x.cache.entries ∧ y.since key = x.since key) ∨
      ∃ snapshot, c = .keep key snapshot ∧ y.since key = x.firstLook i := by
  cases h with
  | @kept _ other snapshot now _ =>
    by_cases hkey : key = other
    · subst hkey
      exact .inr ⟨snapshot, rfl, Function.update_self ..⟩
    · obtain hold | hnew := mem_insert he
      · exact .inl ⟨hold, Function.update_of_ne hkey _ _⟩
      · exact absurd (congrArg Prod.fst hnew) hkey
  | forgotten => exact .inl ⟨(Named.mem_remove.1 he).1, rfl⟩
  | _ => exact .inl ⟨he, rfl⟩

theorem Step.mayKeep_cases (h : Step i c x y) (hmay : MayKeep key (y.programs j)) :
    MayKeep key (x.programs j) ∨ j = i ∧ ∃ other, c = .remembered other := by
  by_cases hj : j = i
  · subst hj
    have hbefore : ∀ {next : Answer c → Visit.Rest} {answer : Answer c},
        x.programs j = .ask c next → y.programs j = next answer →
        (∀ other, c ≠ .remembered other) → MayKeep key (x.programs j) := by
      intro next answer hi hnext hc
      rw [hnext] at hmay
      rw [hi]
      exact hmay.of_next hc
    cases h with
    | found => exact .inr ⟨rfl, _, rfl⟩
    | missing => exact .inr ⟨rfl, _, rfl⟩
    | kept hi _ => exact .inl (hbefore hi (programs_go ..) nofun)
    | forgotten hi _ => exact .inl (hbefore hi (programs_go ..) nofun)
    | looked hi _ hc _ =>
      exact .inl (hbefore hi (programs_go ..) (by rintro other rfl; cases hc))
    | plain hi _ hc _ =>
      exact .inl (hbefore hi (programs_go ..) (by rintro other rfl; cases hc))
  · exact .inl (h.programs_of_ne hj ▸ hmay)

theorem Step.late_of_remembered (h : Step i (.remembered key) x y) (hx : Phase v x i) :
    key = (v i).key ∧ x.drew i = none ∧ Late (v i).key (.mk (y.programs i)) := by
  cases h with
  | found hi _ _ =>
    obtain ⟨hkey, hdrew, hlate⟩ := hx.of_remembered hi
    refine ⟨hkey, hdrew, ?_⟩
    rw [programs_go]
    exact hlate _
  | missing hi _ _ =>
    obtain ⟨hkey, hdrew, hlate⟩ := hx.of_remembered hi
    refine ⟨hkey, hdrew, ?_⟩
    rw [programs_go]
    exact hlate _
  | looked _ _ hc _ => cases hc
  | plain _ _ hc _ => exact hc.elim

end

theorem Recorded.step (hx : Recorded v x) (h : Step i c x y) : Recorded v y := by
  refine ⟨h.phase hx.phase, fun j l hl => ?_, fun j b hb => ?_, fun key e he => ?_⟩
  · rw [h.time_eq]
    obtain hold | ⟨rfl, _⟩ := h.looked_cases hl
    · exact Nat.lt_succ_of_lt (hx.looked j l hold)
    · exact Nat.lt_succ_self _
  · rw [h.time_eq]
    obtain hold | ⟨_, rfl⟩ | ⟨key, now, snapshot, rfl, rfl, hget, rfl⟩ := h.drew_cases hb
    · exact Nat.lt_succ_of_lt (hx.drew j b hold)
    · exact Nat.lt_succ_self _
    · obtain ⟨inserted, hentry⟩ := mem_of_get_eq_some hget
      exact Nat.lt_succ_of_lt (hx.since key _ hentry)
  · rw [h.time_eq]
    obtain ⟨hentry, hsame⟩ | ⟨snapshot, rfl, hsince⟩ := h.since_cases he
    · rw [hsame]
      exact Nat.lt_succ_of_lt (hx.since key e hentry)
    · rw [hsince]
      obtain hdrew | ⟨_, htime⟩ := x.firstLook_cases i
      · exact Nat.lt_succ_of_lt (hx.drew i _ hdrew)
      · rw [htime]
        exact Nat.lt_succ_self _

theorem Recorded.of_reached (hx : Recorded v x) (h : ReflTransGen Next x y) : Recorded v y :=
  invariant_of_reached (Recorded v) (fun hx hstep => hx.step hstep) h hx

/-! ## Later lookups -/

/-- After a moment, all that is kept or may be kept under a key, and all that is found under it,
comes from looks at the catalog from that moment on. -/
structure Since (v : ι → Visit) (key : String) (moment : Nat) (x : Scene ι) : Prop where
  recorded : Recorded v x
  time : moment ≤ x.time
  kept : x.Live → ∀ e, (key, e) ∈ x.cache.entries → moment ≤ x.since key
  pending : x.Live → ∀ i b, x.drew i = some b → MayKeep key (x.programs i) → moment ≤ b
  found : ∀ i, (v i).key = key → ∀ l b, x.looked i = some l → moment ≤ l → x.drew i = some b →
    moment ≤ b

variable {moment : Nat}

theorem Since.step (hx : Since v key moment x) (h : Step i c x y) : Since v key moment y := by
  have hlater : moment ≤ y.time := by
    rw [h.time_eq]
    exact Nat.le_succ_of_le hx.time
  -- What is found under the key has been kept under it.
  have hfind : ∀ {now : Nat} {snapshot : Snapshot}, x.cache.get now key = some snapshot →
      moment ≤ x.since key := by
    intro now snapshot hget
    obtain ⟨inserted, hentry⟩ := mem_of_get_eq_some hget
    exact hx.kept (live_of_get hget) _ hentry
  refine ⟨hx.recorded.step h, hlater, fun hlive e he => ?_, fun hlive j b hb hmay => ?_,
    fun j hj l b hl hml hb => ?_⟩
  · rw [h.live_iff] at hlive
    obtain ⟨hentry, hsame⟩ | ⟨snapshot, rfl, hsince⟩ := h.since_cases he
    · rw [hsame]
      exact hx.kept hlive e hentry
    · rw [hsince]
      obtain hdrew | ⟨_, htime⟩ := x.firstLook_cases i
      · refine hx.pending hlive i _ hdrew ?_
        cases h with
        | kept hi _ =>
          rw [hi]
          exact .inl rfl
        | looked _ _ hc _ => cases hc
        | plain _ _ hc _ => exact hc.elim
      · rw [htime]
        exact hx.time
  · rw [h.live_iff] at hlive
    obtain hold | ⟨_, rfl⟩ | ⟨other, now, snapshot, rfl, rfl, hget, rfl⟩ := h.drew_cases hb
    · obtain hbefore | ⟨rfl, other, rfl⟩ := h.mayKeep_cases hmay
      · exact hx.pending hlive j b hold hbefore
      · rw [(h.late_of_remembered (hx.recorded.phase j)).2.1] at hold
        cases hold
    · exact hx.time
    · obtain ⟨hother, _, hlate⟩ := h.late_of_remembered (hx.recorded.phase j)
      obtain rfl : key = other := (hmay.key_eq hlate).trans hother.symm
      exact hfind hget
  · obtain hold | ⟨_, rfl⟩ | ⟨other, now, snapshot, rfl, rfl, hget, rfl⟩ := h.drew_cases hb
    · obtain hlooked | ⟨_, rfl, other, rfl⟩ := h.looked_cases hl
      · exact hx.found j hj l b hlooked hml hold
      · rw [(h.late_of_remembered (hx.recorded.phase j)).2.1] at hold
        cases hold
    · exact hx.time
    · obtain rfl : other = key := (h.late_of_remembered (hx.recorded.phase j)).1.trans hj
      exact hfind hget

theorem Since.of_reached (hx : Since v key moment x) (h : ReflTransGen Next x y) :
    Since v key moment y :=
  invariant_of_reached (Since v key moment) (fun hx hstep => hx.step hstep) h hx

/-- A key has just been forgotten, and nobody is about to keep what was loaded before. -/
theorem since_of_forget (hx : Recorded v x) (h : Step i (.forget key) x y)
    (hclear : y.Live → ∀ j, ¬Underway key y j) : Since v key y.time y where
  recorded := hx.step h
  time := Nat.le_refl _
  kept _ e he := by
    cases h with
    | forgotten _ _ => exact absurd rfl (Named.mem_remove.1 he).2
    | looked _ _ hc _ => cases hc
    | plain _ _ hc _ => exact hc.elim
  pending hlive j b hb hmay := absurd ⟨by rw [hb]; rfl, hmay⟩ (hclear hlive j)
  found j _ l _ hl hml _ := absurd hml (Nat.not_le.2 ((hx.step h).looked j l hl))

/-- Once a key has been forgotten with no visit underway, whoever looks it up later finds only what
was loaded later. -/
theorem fresh_of_forget {enabled : Bool} {timeToLive room : Nat}
    (hx : ReflTransGen Next (start s v enabled timeToLive room) x)
    (hforget : Step i (.forget key) x y)
    (hclear : enabled = true → 0 < timeToLive → ∀ j, ¬Underway key y j) : Fresh v key y := by
  have hrecorded : Recorded v x := (recorded_start s v enabled timeToLive room).of_reached hx
  have hsince : Since v key y.time y := since_of_forget hrecorded hforget fun hlive =>
    have hcached := (live_iff_of_reached hx).1 (hforget.live_iff.1 hlive)
    hclear hcached.1 hcached.2
  exact fun z hz => (hsince.of_reached hz).found

/-! ## A visit that is underway -/

/-- Calls but for lookups can be answered, and leave a visit what it has. -/
theorem exists_step (y : Scene ι) (j : ι) {b : Nat} {next : Answer c → Visit.Rest}
    (hj : y.programs j = .ask c next) (hc : ∀ other, c ≠ .remembered other) (answer : Answer c)
    (hdrew : y.drew j = some b) :
    ∃ x, Step j c y x ∧ x.programs j = next answer ∧ x.drew j = some b := by
  have hnow : y.clock ≤ y.clock := Nat.le_refl _
  have hkeeps : Function.update y.drew j (some ((y.drew j).getD y.time)) j = some b := by
    rw [Function.update_self, hdrew]
    rfl
  cases c with
  | remembered other => exact absurd rfl (hc other)
  | keep other snapshot => exact ⟨_, .kept hj hnow, programs_go .., hdrew⟩
  | forget other => exact ⟨_, .forgotten hj hnow, programs_go .., hdrew⟩
  | connect p => exact ⟨_, .plain hj hnow trivial answer, programs_go .., hdrew⟩
  | execute p sql params => exact ⟨_, .plain hj hnow trivial answer, programs_go .., hdrew⟩
  | _ => exact ⟨_, .looked hj hnow rfl answer, programs_go .., hkeeps⟩

/-- A visit that may keep a snapshot can go on until it is about to do so, and still has what it
had. -/
theorem exists_keeping (y : Scene ι) (j : ι) {b : Nat} (hdrew : y.drew j = some b)
    (hmay : MayKeep key (y.programs j)) :
    ∃ z snapshot next, ReflTransGen Next y z ∧ z.programs j = .ask (.keep key snapshot) next ∧
      z.drew j = some b ∧ (∀ i, i ≠ j → z.programs i = y.programs i) ∧ (z.Live ↔ y.Live) := by
  generalize hp : y.programs j = p at hmay
  induction p generalizing y with
  | done a => exact hmay.elim
  | spent => exact hmay.elim
  | ask c next ih =>
    -- Databases may answer in any way, so the visit is led along answers that end in keeping.
    have hgo : (∀ other, c ≠ .remembered other) → ∀ answer, MayKeep key (next answer) →
        ∃ z snapshot next, ReflTransGen Next y z ∧
          z.programs j = .ask (.keep key snapshot) next ∧ z.drew j = some b ∧
          (∀ i, i ≠ j → z.programs i = y.programs i) ∧ (z.Live ↔ y.Live) := by
      intro hc answer hnext
      obtain ⟨x, hstep, hx, hxdrew⟩ := exists_step y j hp hc answer hdrew
      obtain ⟨z, snapshot, rest, hreach, hz, hzdrew, hothers, hlive⟩ := ih answer x hxdrew hx hnext
      refine ⟨z, snapshot, rest, .head ⟨j, c, hstep⟩ hreach, hz, hzdrew, fun i hi => ?_,
        hlive.trans hstep.live_iff⟩
      exact (hothers i hi).trans (hstep.programs_of_ne hi)
    cases c with
    | remembered other => exact hmay.elim
    | keep other snapshot =>
      obtain rfl | hnext := hmay
      · exact ⟨y, snapshot, next, .refl, hp, hdrew, fun _ _ => rfl, .rfl⟩
      · exact hgo nofun () hnext
    | _ =>
      obtain ⟨answer, hnext⟩ := hmay
      exact hgo nofun answer hnext

/-- A snapshot that is kept can be found at once. -/
theorem exists_kept {snapshot : Snapshot} {next : Unit → Visit.Rest} {b : Nat} (hlive : x.Live)
    (hj : x.programs j = .ask (.keep key snapshot) next) (hdrew : x.drew j = some b) :
    ∃ y, Step j (.keep key snapshot) x y ∧ y.cache.get y.clock key = some snapshot ∧
      y.since key = b := by
  refine ⟨_, .kept hj (Nat.le_refl x.clock), get_insert hlive.1 hlive.2, ?_⟩
  show Function.update x.since key ((x.drew j).getD x.time) key = b
  rw [Function.update_self, hdrew]
  rfl

theorem exists_found {snapshot : Snapshot} {next : Option Snapshot → Visit.Rest}
    (hi : x.programs i = .ask (.remembered key) next)
    (hget : x.cache.get x.clock key = some snapshot) :
    ∃ y, Step i (.remembered key) x y ∧ y.looked i = some x.time ∧
      y.drew i = some (x.since key) :=
  ⟨_, .found hi (Nat.le_refl x.clock) hget, Function.update_self i _ x.looked,
    Function.update_self i _ x.drew⟩

/-- What a visit that is underway keeps is found by the next one that looks the key up. -/
theorem not_fresh_of_underway (hy : Recorded v y) (hlive : y.Live)
    {next : Option Snapshot → Visit.Rest} (hi : y.programs i = .ask (.remembered key) next)
    (hj : Underway key y j) : ¬Fresh v key y := by
  intro hfresh
  obtain ⟨hsome, hmay⟩ := hj
  obtain ⟨b, hdrew⟩ := Option.isSome_iff_exists.1 hsome
  have hne : i ≠ j := by
    rintro rfl
    rw [hi] at hmay
    exact hmay
  -- The visit goes on until it has kept what it has, and the one at `i` is the next to call.
  obtain ⟨z, snapshot, rest, hreach, hz, hzdrew, hothers, hzlive⟩ := exists_keeping y j hdrew hmay
  obtain ⟨u, hkeep, hget, hsince⟩ := exists_kept (hzlive.2 hlive) hz hzdrew
  have hui : u.programs i = .ask (.remembered key) next :=
    (hkeep.programs_of_ne hne).trans ((hothers i hne).trans hi)
  obtain ⟨w, hfound, hlooked, hwdrew⟩ := exists_found hui hget
  have hreached : ReflTransGen Next y u := hreach.tail ⟨j, _, hkeep⟩
  have hkey : (v i).key = key := ((hy.phase i).of_remembered hi).1.symm
  have hlater := hfresh w (hreached.tail ⟨i, _, hfound⟩) i hkey _ _ hlooked
    (time_le_of_reached hreached) hwdrew
  rw [hsince] at hlater
  exact absurd (hy.drew j b hdrew) (Nat.not_lt.2 hlater)

/-- Once a key has been forgotten, what is found under it by a visit that looks it up later was
loaded later if and only if no visit is underway with a snapshot for that key, unless nothing is
ever found. -/
theorem fresh_after_forget_iff {enabled : Bool} {timeToLive room : Nat}
    {next : Option Snapshot → Visit.Rest}
    (hx : ReflTransGen Next (start s v enabled timeToLive room) x)
    (hforget : Step j (.forget key) x y) (hi : y.programs i = .ask (.remembered key) next) :
    Fresh v key y ↔ (enabled = true → 0 < timeToLive → ∀ j, ¬Underway key y j) := by
  constructor
  · intro hfresh henabled htime k hk
    have hrecorded : Recorded v x := (recorded_start s v enabled timeToLive room).of_reached hx
    have hlive : y.Live := hforget.live_iff.2 ((live_iff_of_reached hx).2 ⟨henabled, htime⟩)
    exact not_fresh_of_underway (hrecorded.step hforget) hlive hi hk hfresh
  · exact fresh_of_forget hx hforget

/-! Two visits ask for tables of the warehouse, and a third forgets its snapshot.  All depends on
how far the first has come when the second is about to look the snapshot up. -/

def warehouseService : Service := { store := {}, warehouse := some default }

def warehouseVisits : Fin 3 → Visit
  | 0 | 1 => .joinableTables []
  | 2 => .invalidate warehouseKey

def warehouseStart : Scene (Fin 3) := start warehouseService warehouseVisits true 300 64

/-- The first visit has found nothing, and has yet to look at the catalog. -/
theorem fresh_after_forget_missed : ∃ x y next, ReflTransGen Next warehouseStart x ∧
    Step 2 (.forget warehouseKey) x y ∧ y.programs 1 = .ask (.remembered warehouseKey) next ∧
    (∀ i, ¬Underway warehouseKey y i) ∧ Fresh warehouseVisits warehouseKey y := by
  have hnow : ∀ x : Scene (Fin 3), x.clock ≤ x.clock := fun x => Nat.le_refl _
  have hrun : ∃ x y next, ReflTransGen Next warehouseStart x ∧ Step 2 (.forget warehouseKey) x y ∧
      y.programs 1 = .ask (.remembered warehouseKey) next ∧ ∀ i, y.drew i = none :=
    ⟨_, _, _, .head ⟨0, _, .plain (c := .connect default) rfl (hnow _) trivial (.ok default)⟩
      (.head ⟨0, _, .missing rfl (hnow _) rfl⟩
        (.head ⟨1, _, .plain (c := .connect default) rfl (hnow _) trivial (.ok default)⟩ .refl)),
      .forgotten rfl (hnow _), rfl, fun _ => rfl⟩
  obtain ⟨x, y, next, hx, hforget, hi, hdrew⟩ := hrun
  have hclear : ∀ i, ¬Underway warehouseKey y i := fun i hunderway => by
    simp [Underway, hdrew i] at hunderway
  exact ⟨x, y, next, hx, hforget, hi, hclear,
    (fresh_after_forget_iff hx hforget hi).2 fun _ _ => hclear⟩

/-- The first visit has looked at the whole catalog, and is about to keep the snapshot. -/
theorem not_fresh_after_forget : ∃ x y next, ReflTransGen Next warehouseStart x ∧
    Step 2 (.forget warehouseKey) x y ∧ y.programs 1 = .ask (.remembered warehouseKey) next ∧
    ¬Fresh warehouseVisits warehouseKey y := by
  have hnow : ∀ x : Scene (Fin 3), x.clock ≤ x.clock := fun x => Nat.le_refl _
  have hrun : ∃ x y next, ReflTransGen Next warehouseStart x ∧ Step 2 (.forget warehouseKey) x y ∧
      y.programs 1 = .ask (.remembered warehouseKey) next ∧ (y.drew 0).isSome ∧
      ∃ snapshot rest, y.programs 0 = .ask (.keep warehouseKey snapshot) rest :=
    ⟨_, _, _, .head ⟨0, _, .plain (c := .connect default) rfl (hnow _) trivial (.ok default)⟩
      (.head ⟨0, _, .missing rfl (hnow _) rfl⟩
        (.head ⟨0, _, .looked (c := .fetchColumns default none) rfl (hnow _) rfl (.ok [])⟩
          (.head ⟨0, _, .looked (c := .fetchPrimaryKeys default none) rfl (hnow _) rfl (.ok [])⟩
            (.head ⟨0, _, .looked (c := .fetchForeignKeys default) rfl (hnow _) rfl (.ok [])⟩
              (.head ⟨1, _, .plain (c := .connect default) rfl (hnow _) trivial (.ok default)⟩
                .refl))))),
      .forgotten rfl (hnow _), rfl, rfl, _, _, rfl⟩
  obtain ⟨x, y, next, hx, hforget, hi, hdrew, snapshot, rest, hkeep⟩ := hrun
  have hunderway : Underway warehouseKey y 0 := ⟨hdrew, by rw [hkeep]; exact .inl rfl⟩
  have hrecorded : Recorded warehouseVisits x := (recorded_start _ _ _ _ _).of_reached hx
  have hlive : y.Live := hforget.live_iff.2 ((live_iff_of_reached hx).2 ⟨rfl, by decide⟩)
  exact ⟨x, y, next, hx, hforget, hi,
    not_fresh_of_underway (hrecorded.step hforget) hlive hi hunderway⟩

end Scene

end Service
end Granary
