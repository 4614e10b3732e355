import Granary.Proofs.Replica.Refilling
import Granary.Proofs.Replica.Reloading

/-!
# A source that cannot be listed

A lifecycle whose source cannot be listed fails, whatever its mode.  A first run and a refresh have
changed nothing by then.  A full refresh has dropped the tables of its connection before it looks at
the source, so these are gone, and all else is as it was (`unlisted`).
-/

namespace Granary

namespace Rehearsal.Stage

open Replica (Answer Call)

/-- What is planned for a call does not depend on where it is made: if it lets the call pass once,
it does so always. -/
theorem attempt_again {α : Type} {s : Stage} {failures : List (Failure Breakdown)}
    {event : Event} {point table : String} {act : Stage → Except Error α × Stage} {a : α}
    (h : (attempt { s with failures } event point table act).1 = .ok a) (u : Stage) :
    ∃ left, attempt { u with failures } event point table act =
      act { u with failures := left, trace := u.trace ++ [event] } := by
  unfold attempt at h ⊢
  dsimp only at h ⊢
  cases hdue : Failure.check (·.appliesTo point table) failures with
  | mk due left =>
    rw [hdue] at h
    cases due with
    | none => exact ⟨left, rfl⟩
    | some breakdown => cases h

end Rehearsal.Stage

namespace Replica

open Program (Division)
open Rehearsal (Breakdown Cursor Failure Indexed Loader Stage StoredTable Warehouse)

variable {fate : Call Cursor Loader → List (Failure Breakdown)} {mode : Mode} {pace : Pace}
  {connection name : String} {names : List String} {cause : Error} {s t u : Indexed}

/-- Some tables are gone, with their indexes, and all else is as it was. -/
structure Without (names : List String) (s t : Indexed) : Prop where
  tables : t.stage.warehouse.tables =
    s.stage.warehouse.tables.filter fun x => !names.contains x.name
  indexes : t.indexes = s.indexes.filter fun i => !names.contains i.table
  relations : t.relations = s.relations
  source : t.stage.source = s.stage.source

theorem without_nil (hwarehouse : t.stage.warehouse = s.stage.warehouse)
    (hindexes : t.indexes = s.indexes) (hrelations : t.relations = s.relations)
    (hsource : t.stage.source = s.stage.source) : Without [] s t where
  tables := by simp [hwarehouse]
  indexes := by simp [hindexes]
  relations := hrelations
  source := hsource

/-- Without none of its tables a warehouse is as it was. -/
theorem Without.same (h : Without [] s t) :
    t.stage.warehouse = s.stage.warehouse ∧ t.indexes = s.indexes := by
  refine ⟨congrArg Warehouse.mk (h.tables.trans ?_), h.indexes.trans ?_⟩
  · simp
  · simp

theorem Without.trans (h : Without names s u) (hu : Without [] u t) : Without names s t := by
  obtain ⟨hwarehouse, hindexes⟩ := hu.same
  refine ⟨?_, hindexes.trans h.indexes, hu.relations.trans h.relations, hu.source.trans h.source⟩
  rw [hwarehouse]
  exact h.tables

/-! ## The calls before the tasks -/

/-- A table is dropped with its indexes, if dropping it is not planned to fail. -/
theorem fated_dropTable (hdrop : (Indexed.fated fate (.dropTable name) s).1 = .ok ())
    (u : Indexed) : ∃ stage : Stage, Indexed.fated fate (.dropTable name) u =
        (.ok (), { u with stage, indexes := u.indexes.filter (·.table != name) }) ∧
      stage.warehouse = u.stage.warehouse.drop name ∧ stage.source = u.stage.source := by
  have hpasses : (Stage.fated fate (.dropTable name) s.stage).1 = .ok () := by
    simp only [Indexed.fated, Indexed.handle] at hdrop
    rw [Stage.fated]
    generalize Stage.handle (.dropTable name) _ = result at hdrop ⊢
    obtain ⟨_ | _, _⟩ := result
    · cases hdrop
    · rfl
  obtain ⟨left, hcall⟩ := Stage.attempt_again hpasses u.stage
  have hstage : Stage.handle (.dropTable name)
      { u.stage with failures := fate (.dropTable name) } = _ := hcall
  refine ⟨{ u.stage with
    warehouse := u.stage.warehouse.drop name
    failures := left
    trace := u.stage.trace ++ [⟨.dropTable name, 0⟩] }, ?_, rfl, rfl⟩
  simp only [Indexed.fated, Indexed.handle, hstage]
  rfl

/-- A first run or a full refresh is told the tables of its connection, if that is not planned to
fail. -/
theorem fated_listTables {stem : String} {listed : List String}
    (hlist : (Indexed.fated fate (.listTables stem) s).1 = .ok listed) (u : Indexed) :
    ∃ stage : Stage, Indexed.fated fate (.listTables stem) u =
        (.ok (u.stage.warehouse.startingWith stem), { u with stage }) ∧
      stage.warehouse = u.stage.warehouse ∧ stage.source = u.stage.source := by
  have hpasses : (Stage.fated fate (.listTables stem) s.stage).1 = .ok listed := hlist
  obtain ⟨left, hcall⟩ := Stage.attempt_again hpasses u.stage
  have hstage : Stage.handle (.listTables stem)
      { u.stage with failures := fate (.listTables stem) } = _ := hcall
  refine ⟨{ u.stage with
    failures := left
    trace := u.stage.trace ++ [⟨.listTables stem, 0⟩] }, ?_, rfl, rfl⟩
  simp only [Indexed.fated, Indexed.handle, hstage]
  rfl

theorem Without.drop (h : Without names s u) {stage : Stage}
    (hwarehouse : stage.warehouse = u.stage.warehouse.drop name)
    (hsource : stage.source = u.stage.source) :
    Without (names ++ [name]) s
      { u with stage, indexes := u.indexes.filter (·.table != name) } where
  tables := by
    rw [hwarehouse, Warehouse.drop, h.tables, List.filter_filter]
    refine List.filter_congr fun x _ => ?_
    rw [List.contains_append, Bool.not_or, Bool.and_comm, List.contains_cons, bne]
    simp
  indexes := by
    rw [h.indexes, List.filter_filter]
    refine List.filter_congr fun i _ => ?_
    rw [List.contains_append, Bool.not_or, Bool.and_comm, List.contains_cons, bne]
    simp
  relations := h.relations
  source := hsource.trans h.source

/-- Dropping tables one after another. -/
theorem run_dropAll (h : Without names s u) {rest : List String}
    (hdrop : ∀ name ∈ rest, (Indexed.fated fate (.dropTable name) s).1 = .ok ()) :
    ∃ t, (dropAll rest : Attempt Cursor Loader Unit).run.run (Indexed.fated fate) u =
      (some (.ok ()), t) ∧ Without (names ++ rest) s t := by
  induction rest generalizing names u with
  | nil => exact ⟨u, rfl, (List.append_nil names).symm ▸ h⟩
  | cons name rest ih =>
    rw [List.forall_mem_cons] at hdrop
    obtain ⟨stage, hcall, hwarehouse, hsource⟩ := fated_dropTable hdrop.1 u
    obtain ⟨t, ht, hrest⟩ := ih (h.drop hwarehouse hsource) hdrop.2
    have hfirst : (Attempt.dropTable name : Attempt Cursor Loader Unit).run.run
        (Indexed.fated fate) u = (some (.ok ()), _) := congrArg (Prod.map some id) hcall
    rw [List.append_assoc] at hrest
    exact ⟨t, (Program.run_bind_ok hfirst).trans ht, hrest⟩

/-- Listing the source, which fails. -/
theorem run_sourceTables (h : Without names s u)
    (hfails : (Indexed.fated fate .listSource s).1 = .error cause) :
    ∃ t, (sourceTables : Attempt Cursor Loader (List String)).run.run (Indexed.fated fate) u =
      (some (.error (sourceFailure cause)), t) ∧ Without names s t := by
  obtain ⟨answer, t, hcall⟩ : ∃ answer t, Indexed.fated fate .listSource u = (answer, t) :=
    ⟨_, _, rfl⟩
  have hanswer : (Indexed.fated fate .listSource s).1 = answer := answer_listSource hcall h.source
  obtain rfl : answer = .error cause := hanswer.symm.trans hfails
  obtain ⟨hsource, hwarehouse, hindexes, hrelations, _⟩ := fated_listSource hcall
  refine ⟨t, ?_, h.trans (without_nil hwarehouse hindexes hrelations hsource)⟩
  exact congrArg (fun result : Except Error (List String) × Indexed =>
    (some (result.1.mapError sourceFailure), result.2)) hcall

/-- The tables that a lifecycle has dropped before it looks at the source. -/
def dropped (mode : Mode) (connection : String) (s : Indexed) : List String :=
  match mode with
  | .fullRefresh => s.stage.warehouse.startingWith (stem connection)
  | .run | .refresh => []

/-- A lifecycle that has its lease, and whose source cannot be listed. -/
theorem run_tasks_unlisted (h : Without [] s u)
    (hrun : mode = .run → s.stage.warehouse.startingWith (stem connection) = [])
    (hlist : mode ≠ .refresh →
      ∃ names, (Indexed.fated fate (.listTables (stem connection)) s).1 = .ok names)
    (hdrop : ∀ name ∈ dropped mode connection s,
      (Indexed.fated fate (.dropTable name) s).1 = .ok ())
    (hfails : (Indexed.fated fate .listSource s).1 = .error cause) :
    ∃ t, (tasks mode pace connection : Attempt Cursor Loader (List (Task Cursor Loader))).run.run
        (Indexed.fated fate) u = (some (.error (sourceFailure cause)), t) ∧
      Without (dropped mode connection s) s t := by
  cases mode with
  | refresh =>
    obtain ⟨t, hsource, ht⟩ := run_sourceTables h hfails
    exact ⟨t, Program.run_bind_error hsource, ht⟩
  | run =>
    obtain ⟨listed, hlisted⟩ := hlist (by decide)
    obtain ⟨stage, hcall, hwarehouse, hsource⟩ := fated_listTables hlisted u
    rw [h.same.1, hrun rfl] at hcall
    have hnone : (Attempt.listTables (stem connection) : Attempt Cursor Loader _).run.run
        (Indexed.fated fate) u = (some (.ok []), _) := congrArg (Prod.map some id) hcall
    have hlisted : Without [] s { u with stage } :=
      h.trans (without_nil hwarehouse rfl rfl hsource)
    obtain ⟨t, hfailed, ht⟩ := run_sourceTables hlisted hfails
    exact ⟨t, (Program.run_bind_ok hnone).trans (Program.run_bind_error hfailed), ht⟩
  | fullRefresh =>
    obtain ⟨listed, hlisted⟩ := hlist (by decide)
    obtain ⟨stage, hcall, hwarehouse, hsource⟩ := fated_listTables hlisted u
    rw [h.same.1] at hcall
    have hnames : (Attempt.listTables (stem connection) : Attempt Cursor Loader _).run.run
        (Indexed.fated fate) u = (some (.ok (dropped .fullRefresh connection s)), _) :=
      congrArg (Prod.map some id) hcall
    have hlisted : Without [] s { u with stage } :=
      h.trans (without_nil hwarehouse rfl rfl hsource)
    obtain ⟨v, hdropped, hv⟩ := run_dropAll hlisted hdrop
    obtain ⟨t, hfailed, ht⟩ := run_sourceTables hv hfails
    refine ⟨t, (Program.run_bind_ok hnames).trans ?_, ht⟩
    exact (Program.run_bind_ok hdropped).trans (Program.run_bind_error hfailed)

/-! ## The lifecycle -/

theorem bound_unlisted (hconnection : checkName connection = .ok ())
    (hlease : s.stage.leases.isHeld connection = false)
    (hrun : mode = .run → s.stage.warehouse.startingWith (stem connection) = [])
    (hlist : mode ≠ .refresh →
      ∃ names, (Indexed.fated fate (.listTables (stem connection)) s).1 = .ok names)
    (hdrop : ∀ name ∈ dropped mode connection s,
      (Indexed.fated fate (.dropTable name) s).1 = .ok ())
    (hfails : (Indexed.fated fate .listSource s).1 = .error cause) :
    Lifecycle.Bound (byRefill fate s) mode pace connection
      (fun outcome t => outcome = .error (sourceFailure cause) ∧
        Without (dropped mode connection s) s t)
      (Lifecycle.start connection, s) := by
  have hacquire : Indexed.fated fate (.acquire connection) s = _ := fated_acquire hlease
  rw [Lifecycle.start, hconnection]
  refine ⟨⟨_, _, rfl⟩, fun guard u hu => ?_, fun e u hu => ?_⟩
  · cases hacquire.symm.trans hu
    have hentered : Without [] s { s with
        stage := { acquired connection s.stage with failures := fate (.acquire connection) } } :=
      without_nil rfl rfl rfl rfl
    obtain ⟨t, hfailed, ht⟩ : ∃ t, (tasks mode pace connection).run.run (Indexed.fated fate) _ = _ ∧
        Without _ _ t := run_tasks_unlisted hentered hrun hlist hdrop hfails
    have hleaves : Lifecycle.Leaves (byRefill fate s) mode connection
        (fun outcome t => outcome = .error (sourceFailure cause) ∧
          Without (dropped mode connection s) s t)
        ⟨connection⟩ (.error (sourceFailure cause)) t := by
      refine ⟨⟨_, rfl⟩, fun v hv => ⟨rfl, ?_⟩⟩
      cases hv
      exact ht.trans (without_nil rfl rfl rfl rfl)
    exact Program.Leads.of_run hfailed hleaves
  · cases hacquire.symm.trans hu

/-- A source that cannot be listed. -/
theorem exists_schemaUnavailable (cause : Error) :
    ∃ inner, sourceFailure cause = .schemaUnavailable inner := by
  cases cause <;> exact ⟨_, rfl⟩

/-- A lifecycle whose source cannot be listed fails and says so.  After a first run and a refresh
the warehouse is exactly as it was.  A full refresh has dropped the tables of its connection by
then: they are gone with their indexes, and all else is as it was. -/
theorem unlisted (hconnection : checkName connection = .ok ())
    (hlease : s.stage.leases.isHeld connection = false)
    (hrun : mode = .run → s.stage.warehouse.startingWith (stem connection) = [])
    (hlist : mode ≠ .refresh →
      ∃ names, (Indexed.fated fate (.listTables (stem connection)) s).1 = .ok names)
    (hdrop : ∀ name ∈ dropped mode connection s,
      (Indexed.fated fate (.dropTable name) s).1 = .ok ())
    (hfails : (Indexed.fated fate .listSource s).1 = .error cause) :
    ∃ inner, (∀ limit, Inevitable
        (Lifecycle.Step mode pace connection (max limit 1)
          fun c s answer t => Indexed.fated fate c s = (answer, t))
        (fun y => y.1 = .ended (.error (.schemaUnavailable inner)) ∧
          Without (dropped mode connection s) s y.2 ∧
          (mode ≠ .fullRefresh → y.2.stage.warehouse = s.stage.warehouse ∧ y.2.indexes = s.indexes))
        (Lifecycle.start connection, s)) ∧
      ∃ t, (lifecycle mode pace connection).run.run (Indexed.fated fate) s =
          (some (.error (.schemaUnavailable inner)), t) ∧
        Without (dropped mode connection s) s t ∧
        (mode ≠ .fullRefresh → t.stage.warehouse = s.stage.warehouse ∧ t.indexes = s.indexes) := by
  obtain ⟨inner, hinner⟩ := exists_schemaUnavailable cause
  -- Only a full refresh drops tables.
  have hsame : ∀ t, Without (dropped mode connection s) s t → mode ≠ .fullRefresh →
      t.stage.warehouse = s.stage.warehouse ∧ t.indexes = s.indexes := by
    intro t ht hmode
    cases mode with
    | fullRefresh => exact absurd rfl hmode
    | run => exact Without.same ht
    | refresh => exact Without.same ht
  obtain ⟨hevery, outcome, t, hserial, rfl, ht⟩ :=
    (bound_unlisted hconnection hlease hrun hlist hdrop hfails).ends rfl
  rw [hinner] at hevery hserial
  refine ⟨inner, fun limit => (hevery limit).trans fun y hy => .now ?_, t, hserial, ht, hsame t ht⟩
  obtain ⟨outcome, hend, rfl, ht⟩ := hy
  exact ⟨hend, ht, hsame _ ht⟩

/-- The plan that the source cannot be listed. -/
def sourceless : Call Cursor Loader → List (Failure Breakdown)
  | .listSource =>
    [{ pattern := { point := "source.list_tables", error := .execution .unreachable } }]
  | _ => []

theorem unlisted_staleShop :
    (checkName "shop" = .ok () ∧
      (Indexed.fated sourceless .listSource staleShop).1 = .error (.execution .unreachable)) ∧
    ∃ inner t, (lifecycle .fullRefresh ⟨1, 1, 3⟩ "shop").run.run (Indexed.fated sourceless)
        staleShop = (some (.error (.schemaUnavailable inner)), t) ∧
      t.stage.warehouse.tables = [{ name := "shop-2__orders", rows := [[some "7"]] }] ∧
      t.indexes = [⟨"idx_shop-2__orders_id_num", "shop-2__orders", "id"⟩] := by
  have hconnection : checkName "shop" = .ok () := checkName_eq_ok_iff.2 (by decide +kernel)
  have hlist : Mode.fullRefresh ≠ .refresh → ∃ names,
      (Indexed.fated sourceless (.listTables (stem "shop")) staleShop).1 = .ok names :=
    fun _ => ⟨_, rfl⟩
  have hdrop : ∀ name ∈ dropped .fullRefresh "shop" staleShop,
      (Indexed.fated sourceless (.dropTable name) staleShop).1 = .ok () := fun _ _ => rfl
  have hfails : (Indexed.fated sourceless .listSource staleShop).1 =
      .error (.execution .unreachable) := rfl
  have hrun : Mode.fullRefresh = .run →
      staleShop.stage.warehouse.startingWith (stem "shop") = [] := nofun
  obtain ⟨inner, _, t, hend, ht, _⟩ := unlisted hconnection rfl hrun hlist hdrop hfails
  refine ⟨⟨hconnection, hfails⟩, inner, t, hend, ?_, ?_⟩
  · rw [ht.tables]
    decide +kernel
  · rw [ht.indexes]
    decide +kernel

/-- A full refresh does not find out whether the source can be read before it drops the tables. -/
theorem full_refresh_drops_first : ¬∀ (mode : Mode) (outcome : Option (Except Error Report))
    (t : Indexed), (mode = .run → staleShop.stage.warehouse.startingWith (stem "shop") = []) →
    (lifecycle mode ⟨1, 1, 3⟩ "shop").run.run (Indexed.fated sourceless) staleShop = (outcome, t) →
    (∃ inner, outcome = some (.error (.schemaUnavailable inner))) ∧
      t.stage.warehouse = staleShop.stage.warehouse := by
  intro h
  have hsame := congrArg (·.tables.length) (h .fullRefresh _ _ nofun rfl).2
  have hleft : ((lifecycle .fullRefresh ⟨1, 1, 3⟩ "shop").run.run (Indexed.fated sourceless)
      staleShop).2.stage.warehouse.tables.length = 1 := by decide +kernel
  cases hleft.symm.trans hsame

end Replica
end Granary
