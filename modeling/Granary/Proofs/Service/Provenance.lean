import Granary.Proofs.Outcome
import Granary.Proofs.Runs
import Granary.Schema.Cache
import Granary.Service

/-!
# Where snapshots come from

Snapshots are kept under the ids of datasources, and the warehouse's under a key of its own, which
is a text like any id.  `Ledger` is the cache with a record of the profiles that each snapshot was
made from and of those that the present visit has drawn on, and `Step` says how every call changes
it; databases, clock and failures are free.

Whether a visit only ever draws on the catalog of its own profile depends on that one key:
`draws_own_catalog_iff`.  The invariant behind it is that what is kept under a key was made from the
profile that the key belongs to, and it fails when the key belongs to two.
-/

namespace Granary
namespace Service

open Program (Runs Safe)

/-- The connection whose catalog a call looks at. -/
def Call.catalog? {β : Type} : Call β → Option β
  | .listBaseTables c | .tableExists c _ | .fetchColumns c _ | .fetchPrimaryKeys c _
  | .fetchForeignKeys c => some c
  | _ => none

/-- The cache with a record of where its snapshots come from. -/
structure Ledger where
  cache : Schema.Cache
  /-- The profiles whose catalogs the snapshot under a key was made from. -/
  origins : String → List Profile := fun _ => []
  /-- The profiles whose catalogs the present visit has drawn on, through the cache or not. -/
  drawn : List Profile := []

def Ledger.draw (w : Ledger) (ps : List Profile) : Ledger := { w with drawn := w.drawn ++ ps }

/-- Keeps a snapshot, which was made from no more than what has been drawn on. -/
def Ledger.keep (w : Ledger) (now : Nat) (key : String) (snapshot : Snapshot) : Ledger :=
  { w with
    cache := w.cache.insert now key snapshot
    origins := fun other => if other = key then w.drawn else w.origins other }

/-- How a call may be answered and what it leaves behind.  Open connections are told apart by their
profiles, and the clock may show anything. -/
inductive Step : (c : Call Profile) → Ledger → Answer c → Ledger → Prop where
  | found (w : Ledger) (now : Nat) (key : String) {snapshot : Snapshot}
      (h : w.cache.get now key = some snapshot) :
      Step (.remembered key) w (some snapshot) (w.draw (w.origins key))
  | missing (w : Ledger) (now : Nat) (key : String) (h : w.cache.get now key = none) :
      Step (.remembered key) w none w
  | kept (w : Ledger) (now : Nat) (key : String) (snapshot : Snapshot) :
      Step (.keep key snapshot) w () (w.keep now key snapshot)
  | forgotten (w : Ledger) (key : String) :
      Step (.forget key) w () { w with cache := w.cache.invalidate key }
  | opened (w : Ledger) (p : Profile) : Step (.connect p) w (.ok p) w
  | refused (w : Ledger) (p : Profile) (e : Error) : Step (.connect p) w (.error e) w
  | looked (w : Ledger) {c : Call Profile} {p : Profile} (h : c.catalog? = some p)
      (answer : Answer c) : Step c w answer (w.draw [p])
  | executed (w : Ledger) (p : Profile) (sql : String) (params : List String)
      (answer : Except Error (List Json)) : Step (.execute p sql params) w answer w

/-! ## Visits -/

/-- A call of the service. -/
inductive Visit where
  | execute (id : String) (r : Request)
  | executeWarehouse (r : Request)
  | joinableTables (existing : List String)
  | listTables (id : String)
  | tableColumns (id table : String)
  | invalidate (key : String)

namespace Visit

/-- The profile that a visit connects to. -/
def home? (s : Service) : Visit → Option Profile
  | .execute id _ | .listTables id | .tableColumns id _ => (s.store.resolve id).toOption
  | .executeWarehouse _ | .joinableTables _ => s.warehouse
  | .invalidate _ => none

/-- The key that a visit looks for in the cache. -/
def key : Visit → String
  | .execute id _ | .listTables id | .tableColumns id _ => id
  | .executeWarehouse _ | .joinableTables _ => warehouseKey
  | .invalidate key => key

/-- What a visit does, whatever its result is. -/
def program (s : Service) : Visit → Attempt Profile Unit
  | .execute id r => do let _ ← s.execute id r
  | .executeWarehouse r => do let _ ← s.executeWarehouse r
  | .joinableTables existing => do let _ ← s.joinableTables existing
  | .listTables id => do let _ ← s.listTables id
  | .tableColumns id table => do let _ ← s.tableColumns id table
  | .invalidate key => Service.invalidate key

end Visit

/-- What the ledger can be after some visits, each run to its end or broken off. -/
inductive Reached (s : Service) (timeToLive room : Nat) : Ledger → Prop where
  | start : Reached s timeToLive room
      { cache := { enabled := true, timeToLive := timeToLive, room := room } }
  | visit {w w' : Ledger} (v : Visit) {out : Option (Except Error Unit)}
      (hw : Reached s timeToLive room w)
      (hrun : Runs Step (v.program s).run { w with drawn := [] } out w') :
      Reached s timeToLive room w'

/-- Every visit draws on the catalog of its own profile only. -/
def DrawsOwnCatalog (s : Service) (timeToLive room : Nat) : Prop :=
  ∀ (w w' : Ledger) (v : Visit) (out : Option (Except Error Unit)),
    Reached s timeToLive room w → Runs Step (v.program s).run { w with drawn := [] } out w' →
    ∀ q ∈ w'.drawn, v.home? s = some q

/-! ## What the parts of a visit ask for -/

section

open Program (Only only_ask only_pure only_throw)
open Attempt

variable {α : Type} {allowed : Call Profile → Prop} {key : String} {p : Profile}

theorem Attempt.only_asSchemaFailure {x : Attempt Profile α} (hx : Only allowed x) :
    Only allowed x.asSchemaFailure :=
  Safe.bind hx fun _ _ => trivial

theorem only_fetchColumns (h : ∀ c, c.catalog? = some p → allowed c) (table : Option String) :
    Only allowed (fetchColumns p table).asSchemaFailure :=
  only_asSchemaFailure (only_ask (h (.fetchColumns p table) rfl) id)

theorem only_fetchPrimaryKeys (h : ∀ c, c.catalog? = some p → allowed c) (table : Option String) :
    Only allowed (fetchPrimaryKeys p table).asSchemaFailure :=
  only_asSchemaFailure (only_ask (h (.fetchPrimaryKeys p table) rfl) id)

theorem only_loadCatalog (h : ∀ c, c.catalog? = some p → allowed c) :
    Only allowed (loadCatalog p) := by
  refine (only_fetchColumns h none).bind fun columns => ?_
  refine (only_fetchPrimaryKeys h none).bind fun keys => ?_
  have hreferences : Only allowed (fetchForeignKeys p).asSchemaFailure :=
    only_asSchemaFailure (only_ask (h (.fetchForeignKeys p) rfl) id)
  exact hreferences.bind fun _ => only_pure _

theorem only_loadTable (h : ∀ c, c.catalog? = some p → allowed c) (table : String) :
    Only allowed (loadTable p table) := by
  refine (only_fetchColumns h _).bind fun columns => ?_
  refine (only_fetchPrimaryKeys h _).bind fun keys => ?_
  show Only allowed (if _ then _ else _)
  split
  · exact only_pure _
  · exact only_throw _

theorem only_loadKnownTable (h : ∀ c, c.catalog? = some p → allowed c) (table : String) :
    Only allowed (loadKnownTable p table) := by
  have hexists : Only allowed (tableExists p table).asSchemaFailure :=
    only_asSchemaFailure (only_ask (h (.tableExists p table) rfl) id)
  refine hexists.bind fun found => ?_
  cases found with
  | true => exact only_loadTable h table
  | false => exact only_throw _

theorem only_loadAndKeep (h : ∀ c, c.catalog? = some p → allowed c)
    (hkeep : ∀ snapshot, allowed (.keep key snapshot)) : Only allowed (loadAndKeep key p) := by
  refine (only_loadCatalog h).bind fun snapshot => ?_
  have hkept : Only allowed (keep key snapshot : Attempt Profile Unit) :=
    only_ask (hkeep snapshot) fun _ => .ok ()
  exact hkept.bind fun _ => only_pure _

end

/-! ## What visits ask for -/

/-- The calls that a visit may make: on its own connection, and for its own key once it has one. -/
def Allowed (key : String) (home? : Option Profile) : Call Profile → Prop
  | .remembered k => k = key ∧ home?.isSome = true
  | .keep k _ => k = key
  | .forget _ => True
  | .connect p => home? = some p
  | .listBaseTables p | .tableExists p _ | .fetchColumns p _ | .fetchPrimaryKeys p _
  | .fetchForeignKeys p | .execute p _ _ => home? = some p

/-- A connection that is opened is the one that was asked for. -/
def Answered : (c : Call Profile) → Answer c → Prop
  | .connect p, answer => ∀ q, answer = .ok q → q = p
  | _, _ => True

theorem Allowed.catalog {key : String} {home? : Option Profile} {c : Call Profile} {p : Profile}
    (h : Allowed key home? c) (hp : c.catalog? = some p) :
    home? = some p ∧ ∀ answer, Answered c answer := by
  cases c with
  | listBaseTables q => exact ⟨Option.some.inj hp ▸ h, fun _ => trivial⟩
  | tableExists q table => exact ⟨Option.some.inj hp ▸ h, fun _ => trivial⟩
  | fetchColumns q table => exact ⟨Option.some.inj hp ▸ h, fun _ => trivial⟩
  | fetchPrimaryKeys q table => exact ⟨Option.some.inj hp ▸ h, fun _ => trivial⟩
  | fetchForeignKeys q => exact ⟨Option.some.inj hp ▸ h, fun _ => trivial⟩
  | _ => cases hp

/-- An attempt that makes allowed calls only, and succeeds with what is wanted. -/
def Attempt.IsSafe {α : Type} (key : String) (home? : Option Profile) (wanted : α → Prop)
    (x : Attempt Profile α) : Prop :=
  Safe (Allowed key home?) Answered (fun outcome => ∀ a, outcome = .ok a → wanted a) x.run

namespace Attempt

variable {α β : Type} {key : String} {home? : Option Profile} {wanted : α → Prop}

theorem isSafe_bind {wanted' : β → Prop} {x : Attempt Profile α} {f : α → Attempt Profile β}
    (hx : x.IsSafe key home? wanted) (hf : ∀ a, wanted a → (f a).IsSafe key home? wanted') :
    (x >>= f).IsSafe key home? wanted' := by
  refine Safe.bind hx fun outcome ha => ?_
  cases outcome with
  | error e => exact fun _ h => nomatch h
  | ok a => exact hf a (ha a rfl)

theorem isSafe_pure {a : α} (h : wanted a) : (pure a : Attempt Profile α).IsSafe key home? wanted :=
  fun b hb => by cases hb; exact h

theorem isSafe_discard {x : Attempt Profile α} (hx : x.IsSafe key home? (fun _ => True)) :
    (do let _ ← x : Attempt Profile Unit).IsSafe key home? (fun _ => True) :=
  isSafe_bind hx fun _ _ => isSafe_pure trivial

theorem isSafe_throw (e : Error) : (throw e : Attempt Profile α).IsSafe key home? wanted :=
  fun _ hb => nomatch hb

theorem isSafe_lift {x : Except Error α} (h : ∀ a, x = .ok a → wanted a) :
    (liftM x : Attempt Profile α).IsSafe key home? wanted := h

theorem isSafe_asSchemaFailure {x : Attempt Profile α} (hx : x.IsSafe key home? wanted) :
    x.asSchemaFailure.IsSafe key home? wanted := by
  refine Safe.bind hx fun outcome ha => ?_
  cases outcome with
  | error e => exact fun _ h => nomatch h
  | ok a => exact ha

/-- A call whose answer is no more than handed on. -/
theorem isSafe_ask (c : Call Profile) (hc : Allowed key home? c)
    (next : Answer c → Except Error α) :
    IsSafe key home? (fun _ => True) (.mk (.ask c fun answer => .done (next answer))) :=
  And.intro hc fun _ _ _ _ => trivial

theorem isSafe_connect {p : Profile} (hp : home? = some p) :
    (connect p).IsSafe key home? (fun c => home? = some c) :=
  And.intro hp fun _ ha c hc => (ha c hc).symm ▸ hp

theorem isSafe_remembered {p : Profile} (hp : home? = some p) :
    (remembered key).IsSafe key home? (fun _ => True) :=
  isSafe_ask (.remembered key) ⟨rfl, by rw [hp]; rfl⟩ fun found => .ok found

/-- Looking at the catalog of one's own connection is allowed. -/
theorem allowed_of_catalog {p : Profile} (hp : home? = some p) (c : Call Profile)
    (hc : c.catalog? = some p) : Allowed key home? c := by
  cases c <;> cases hc <;> exact hp

theorem isSafe_of_only {x : Attempt Profile α} (h : Program.Only (Allowed key home?) x) :
    x.IsSafe key home? (fun _ => True) :=
  (Safe.weaken (fun _ _ _ => trivial) h).mono fun _ _ _ _ => trivial

end Attempt

section

open Attempt

variable {key : String} {home? : Option Profile} {p : Profile}

theorem isSafe_loadKnownTable (hp : home? = some p) (table : String) :
    (loadKnownTable p table).IsSafe key home? (fun _ => True) :=
  isSafe_of_only (only_loadKnownTable (allowed_of_catalog hp) table)

theorem isSafe_loadAndKeep (hp : home? = some p) :
    (loadAndKeep key p).IsSafe key home? (fun _ => True) :=
  isSafe_of_only (only_loadAndKeep (allowed_of_catalog hp) fun _ => rfl)

theorem isSafe_snapshotFor (hp : home? = some p) (r : Request) :
    (snapshotFor key p r).IsSafe key home? (fun _ => True) := by
  refine isSafe_bind (isSafe_remembered hp) fun found _ => ?_
  cases found with
  | some snapshot => exact isSafe_pure trivial
  | none =>
    show Attempt.IsSafe _ _ _ (if _ then _ else _)
    split
    · exact isSafe_loadKnownTable hp _
    · exact isSafe_loadAndKeep hp

theorem isSafe_executeOn (hp : home? = some p) (r : Request) :
    (executeOn key p r).IsSafe key home? (fun _ => True) := by
  refine isSafe_bind (isSafe_connect hp) fun c hc => ?_
  have hcompile : (compileOn key c r).IsSafe key home? (fun _ => True) :=
    isSafe_bind (isSafe_snapshotFor hc r) fun _ _ => isSafe_lift fun _ _ => trivial
  refine isSafe_bind hcompile fun statement _ => ?_
  have hexecute : (Attempt.execute c statement.sql statement.params).IsSafe key home?
      (fun _ => True) := isSafe_ask (.execute c statement.sql statement.params) hc id
  exact isSafe_bind hexecute fun _ _ => isSafe_pure trivial

end

/-- Finding out whether a datasource has a profile makes no call. -/
theorem isSafe_resolve (s : Service) (id key : String) :
    (liftM (s.store.resolve id) : Attempt Profile Profile).IsSafe key
      (s.store.resolve id).toOption (fun p => (s.store.resolve id).toOption = some p) :=
  Attempt.isSafe_lift fun _ hp => Outcome.toOption_eq_some.2 hp

theorem isSafe_warehouseProfile (s : Service) (key : String) :
    (liftM s.warehouseProfile : Attempt Profile Profile).IsSafe key s.warehouse
      (fun p => s.warehouse = some p) := by
  refine Attempt.isSafe_lift fun p hp => ?_
  unfold warehouseProfile at hp
  split at hp
  · rename_i w hw
    cases hp
    exact hw
  · cases hp

theorem isSafe_checked {key : String} {home? : Option Profile} (r : Request) :
    (liftM (checked r) : Attempt Profile Unit).IsSafe key home? (fun _ => True) :=
  Attempt.isSafe_lift fun _ _ => trivial

open Attempt in
/-- A visit keeps to its own connection and its own key. -/
theorem Visit.isSafe_program (s : Service) (v : Visit) :
    (v.program s).IsSafe v.key (v.home? s) (fun _ => True) := by
  cases v with
  | execute id r =>
    refine isSafe_discard ?_
    refine isSafe_bind (isSafe_checked r) fun _ _ => ?_
    exact isSafe_bind (isSafe_resolve s id id) fun p hp => isSafe_executeOn hp r
  | executeWarehouse r =>
    refine isSafe_discard ?_
    refine isSafe_bind (isSafe_checked r) fun _ _ => ?_
    exact isSafe_bind (isSafe_warehouseProfile s warehouseKey) fun p hp => isSafe_executeOn hp r
  | joinableTables existing =>
    refine isSafe_discard ?_
    refine isSafe_bind (isSafe_warehouseProfile s warehouseKey) fun p hp => ?_
    refine isSafe_bind (isSafe_connect hp) fun c hc => ?_
    refine isSafe_bind (isSafe_remembered hc) fun found _ => ?_
    cases found with
    | some snapshot => exact isSafe_pure trivial
    | none => exact isSafe_bind (isSafe_loadAndKeep hc) fun _ _ => isSafe_pure trivial
  | listTables id =>
    refine isSafe_discard ?_
    refine isSafe_bind (isSafe_resolve s id id) fun p hp => ?_
    refine isSafe_bind (isSafe_connect hp) fun c hc => ?_
    have htables : (listBaseTables c).asSchemaFailure.IsSafe id
        (s.store.resolve id).toOption (fun _ => True) :=
      isSafe_asSchemaFailure (isSafe_ask (.listBaseTables c) hc fun answer => answer)
    exact isSafe_bind htables fun _ _ => isSafe_pure trivial
  | tableColumns id table =>
    refine isSafe_discard ?_
    refine isSafe_bind (isSafe_resolve s id id) fun p hp => ?_
    refine isSafe_bind (isSafe_connect hp) fun c hc => ?_
    have hcolumns : (fetchColumns c (some table)).asSchemaFailure.IsSafe id
        (s.store.resolve id).toOption (fun _ => True) :=
      isSafe_of_only (only_fetchColumns (allowed_of_catalog hc) _)
    refine isSafe_bind hcolumns fun columns _ => ?_
    show Attempt.IsSafe _ _ _ (if _ then _ else _)
    split
    · exact isSafe_throw _
    · exact isSafe_pure trivial
  | invalidate key => exact isSafe_ask (.forget key) trivial fun _ => .ok ()

/-! ## What is kept under a key -/

/-- The profile belongs to the key: it is the one of the datasource of that id, and of the warehouse
if it is the warehouse's key. -/
structure Owns (s : Service) (key : String) (q : Profile) : Prop where
  datasource : ∀ p, s.store.resolve key = .ok p → q = p
  warehouse : key = warehouseKey → ∀ w, s.warehouse = some w → q = w

/-- A datasource whose id is the warehouse's key has the warehouse's profile. -/
def KeyIsUnshared (s : Service) : Prop :=
  ∀ p w, s.store.resolve warehouseKey = .ok p → s.warehouse = some w → p = w

/-- Only the profile that a key belongs to is the profile of a visit for that key. -/
theorem Visit.home?_of_owns {s : Service} {v : Visit} {p q : Profile} (hp : v.home? s = some p)
    (hq : s.Owns v.key q) : q = p := by
  cases v with
  | execute id r => exact hq.datasource p (Outcome.toOption_eq_some.1 hp)
  | executeWarehouse r => exact hq.warehouse rfl p hp
  | joinableTables existing => exact hq.warehouse rfl p hp
  | listTables id => exact hq.datasource p (Outcome.toOption_eq_some.1 hp)
  | tableColumns id table => exact hq.datasource p (Outcome.toOption_eq_some.1 hp)
  | invalidate key => cases hp

theorem owns_of_resolve {s : Service} (h : s.KeyIsUnshared) {id : String} {p : Profile}
    (hp : (s.store.resolve id).toOption = some p) : s.Owns id p := by
  rw [Outcome.toOption_eq_some] at hp
  refine ⟨fun q hq => ?_, fun hid w hw => ?_⟩
  · exact Except.ok.inj (hp.symm.trans hq)
  · exact h p w (hid ▸ hp) hw

theorem owns_of_warehouse {s : Service} (h : s.KeyIsUnshared) {p : Profile}
    (hp : s.warehouse = some p) : s.Owns warehouseKey p := by
  refine ⟨fun q hq => (h q p hq hp).symm, fun _ w hw => ?_⟩
  exact Option.some.inj (hp.symm.trans hw)

theorem Visit.owns_of_home? {s : Service} (h : s.KeyIsUnshared) {v : Visit} {p : Profile}
    (hp : v.home? s = some p) : s.Owns v.key p := by
  cases v with
  | execute id r => exact owns_of_resolve h hp
  | executeWarehouse r => exact owns_of_warehouse h hp
  | joinableTables existing => exact owns_of_warehouse h hp
  | listTables id => exact owns_of_resolve h hp
  | tableColumns id table => exact owns_of_resolve h hp
  | invalidate key => cases hp

/-- What is kept under a key was made from the profile that the key belongs to, unless nothing that
is kept counts; and the visit has drawn on its own profile only. -/
structure Ledger.Sound (s : Service) (timeToLive : Nat) (home? : Option Profile) (w : Ledger) :
    Prop where
  lifetime : w.cache.timeToLive = timeToLive
  origins : timeToLive ≠ 0 → ∀ key, ∀ q ∈ w.origins key, s.Owns key q
  drawn : ∀ q ∈ w.drawn, home? = some q

section

variable {s : Service} {timeToLive : Nat} {home? : Option Profile} {w w' : Ledger}

theorem Ledger.Sound.draw (h : w.Sound s timeToLive home?) {ps : List Profile}
    (hps : ∀ q ∈ ps, home? = some q) : (w.draw ps).Sound s timeToLive home? :=
  ⟨h.lifetime, h.origins, List.forall_mem_append.2 ⟨h.drawn, hps⟩⟩

theorem Ledger.Sound.keep (h : w.Sound s timeToLive home?) {now : Nat} {key : String}
    {snapshot : Snapshot} (hkey : timeToLive ≠ 0 → ∀ q, home? = some q → s.Owns key q) :
    (w.keep now key snapshot).Sound s timeToLive home? := by
  refine ⟨?_, fun hlive other q hq => ?_, h.drawn⟩
  · exact Schema.Cache.timeToLive_insert.trans h.lifetime
  · simp only [Ledger.keep] at hq
    split at hq
    · rename_i hother
      exact hother ▸ hkey hlive q (h.drawn q hq)
    · exact h.origins hlive other q hq

/-- Every allowed call keeps the invariant: what it finds belongs to the visit's profile, and what
it keeps comes from there. -/
theorem Step.sound {v : Visit} {c : Call Profile} {answer : Answer c}
    (hkey : timeToLive ≠ 0 → s.KeyIsUnshared) (hc : Allowed v.key (v.home? s) c)
    (hw : w.Sound s timeToLive (v.home? s)) (h : Step c w answer w') :
    Answered c answer ∧ w'.Sound s timeToLive (v.home? s) := by
  cases h with
  | found _ now key hfound =>
    obtain ⟨rfl, hhome⟩ := hc
    obtain ⟨p, hp⟩ := Option.isSome_iff_exists.1 hhome
    have hlive : timeToLive ≠ 0 := by
      intro hzero
      rw [Schema.Cache.get_eq_none (.inr (hw.lifetime.trans hzero))] at hfound
      cases hfound
    refine ⟨trivial, hw.draw fun q hq => ?_⟩
    rw [Visit.home?_of_owns hp (hw.origins hlive v.key q hq)]
    exact hp
  | missing => exact ⟨trivial, hw⟩
  | kept _ now key snapshot =>
    obtain rfl : key = v.key := hc
    exact ⟨trivial, hw.keep fun hlive q hq => Visit.owns_of_home? (hkey hlive) hq⟩
  | forgotten _ key => exact ⟨trivial, ⟨hw.lifetime, hw.origins, hw.drawn⟩⟩
  | opened _ p => exact ⟨fun q hq => (Except.ok.inj hq).symm, hw⟩
  | refused _ p e => exact ⟨fun _ hq => (nomatch hq), hw⟩
  | looked _ hp answer =>
    obtain ⟨hhome, hanswer⟩ := hc.catalog hp
    exact ⟨hanswer answer, hw.draw (List.forall_mem_singleton.2 hhome)⟩
  | executed _ p sql params answer => exact ⟨trivial, hw⟩

/-- What a visit draws on does not outlast it. -/
theorem Ledger.Sound.restart (h : w.Sound s timeToLive home?) (other? : Option Profile) :
    { w with drawn := [] }.Sound s timeToLive other? :=
  ⟨h.lifetime, h.origins, fun _ hq => absurd hq List.not_mem_nil⟩

/-- Every moment of a visit, by induction over its calls. -/
theorem Visit.sound_of_runs {v : Visit} {out : Option (Except Error Unit)}
    (hkey : timeToLive ≠ 0 → s.KeyIsUnshared) (hw : w.Sound s timeToLive (v.home? s))
    (hrun : Runs Step (v.program s).run w out w') : w'.Sound s timeToLive (v.home? s) :=
  hrun.invariant (fun w => w.Sound s timeToLive (v.home? s))
    (fun _ _ _ _ hc hw h => h.sound hkey hc hw) (v.isSafe_program s) hw

/-- Every moment between visits, by induction over the visits. -/
theorem Reached.sound {room : Nat} (hkey : timeToLive ≠ 0 → s.KeyIsUnshared)
    (h : Reached s timeToLive room w) (home? : Option Profile) :
    { w with drawn := [] }.Sound s timeToLive home? := by
  induction h generalizing home? with
  | start =>
    exact ⟨rfl, fun _ _ _ hq => absurd hq List.not_mem_nil, fun _ hq => absurd hq List.not_mem_nil⟩
  | visit v _ hrun ih =>
    exact (Visit.sound_of_runs hkey (ih (v.home? s)) hrun).restart home?

end

/-! ## The warehouse's key -/

section

variable {s : Service} {p w : Profile} {timeToLive room : Nat}

/-- The snapshot of a catalog without tables. -/
def emptyCatalog : Snapshot := Schema.snapshotOf [] [] []

/-- The ledger after the warehouse's tables were asked for, where nothing was kept before. -/
def afterWarehouse (timeToLive room : Nat) (w : Profile) : Ledger :=
  ({ cache := { enabled := true, timeToLive := timeToLive, room := room },
     drawn := [w, w, w] } : Ledger).keep 0 warehouseKey emptyCatalog

theorem reached_afterWarehouse (hw : s.warehouse = some w) :
    Reached s timeToLive room (afterWarehouse timeToLive room w) := by
  refine .visit (.joinableTables []) .start (?_ : Runs _ _ _ none _)
  rw [Visit.program, joinableTables, warehouseProfile, hw]
  refine .ask (.opened _ w) (.ask (.missing _ 0 _ rfl) ?_)
  refine .ask (.looked _ rfl (Except.ok [])) (.ask (.looked _ rfl (Except.ok [])) ?_)
  refine .ask (.looked _ rfl (Except.ok [])) (.ask (.kept _ 0 _ _) ?_)
  exact .stopped _ _

def anyRequest : Request := { table := "orders" }

theorem drawn_after (hlive : 0 < timeToLive) (hp : s.store.resolve warehouseKey = .ok p) :
    Runs Step ((Visit.execute warehouseKey anyRequest).program s).run
      { afterWarehouse timeToLive room w with drawn := [] } none
      { afterWarehouse timeToLive room w with drawn := [w, w, w] } := by
  have hfound : (afterWarehouse timeToLive room w).cache.get 0 warehouseKey =
      some emptyCatalog := by
    simp [afterWarehouse, Ledger.keep, Schema.Cache.get, Schema.Cache.insert, Schema.Cache.staying,
      Schema.Cache.isFresh, Named.remove, Named.get?, hlive]
  have hchecked : checked anyRequest = .ok () := by rfl
  rw [Visit.program, Service.execute, hchecked, hp]
  exact .ask (.opened _ p) (.ask (.found _ 0 _ hfound) (.stopped _ _))

end

/-- A visit draws on other catalogs than its own only through the warehouse's key, if a datasource
has it as its id and another profile than the warehouse. -/
theorem draws_own_catalog_iff (s : Service) (timeToLive room : Nat) :
    s.DrawsOwnCatalog timeToLive room ↔ timeToLive = 0 ∨ s.KeyIsUnshared := by
  constructor
  · intro h
    rcases Nat.eq_zero_or_pos timeToLive with hzero | hlive
    · exact .inl hzero
    · -- The warehouse's snapshot is still there when the datasource of its key is visited.
      refine .inr fun p w hp hw => ?_
      have hdrawn := h _ _ _ _ (reached_afterWarehouse hw) (drawn_after hlive hp) w (by simp)
      rw [Visit.home?, hp] at hdrawn
      exact Option.some.inj hdrawn
  · intro h w w' v out hw hrun
    have hkey : timeToLive ≠ 0 → s.KeyIsUnshared := h.resolve_left
    exact (Visit.sound_of_runs hkey (hw.sound hkey _) hrun).drawn

end Service
end Granary
