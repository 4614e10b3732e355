import Granary.Proofs.Rehearsal.Indexes
import Granary.Proofs.Replica.Confinement
import Granary.Rehearsal.Identifiers

/-!
# Names that are too long

A connection name has at most 48 bytes, but the name of a warehouse table may still be longer than
an identifier.  Then it is stored cut: what is left of it ends within the name of the source table,
so the table is still listed for its connection, but two source tables whose names begin alike have
one table between them, and a lookup by the whole name finds nothing.  So each table is found by a
later refresh exactly if its name fits (`found_iff_fits`).
-/

namespace Granary

namespace Replica

/-! ## What is kept of a name -/

theorem keep_of_le {bytes : Nat} {chars : List Char} (h : String.utf8Len chars ≤ bytes) :
    keep bytes chars = chars := by
  have hkeep := keep_append h []
  rwa [List.append_nil, keep, List.append_nil] at hkeep

end Replica

namespace Rehearsal

open Replica (Answer Answered Call answered_of_told keep longestIdentifier)

theorem size_stored (name : String) : (stored name).utf8ByteSize ≤ longestIdentifier := by
  rw [stored, String.utf8ByteSize_ofList]
  exact Replica.utf8Len_keep_le longestIdentifier name.toList

/-- A name is stored as it is exactly if it is no longer than an identifier. -/
theorem stored_eq_iff {name : String} :
    stored name = name ↔ name.utf8ByteSize ≤ longestIdentifier := by
  refine ⟨fun h => h ▸ size_stored name, fun h => ?_⟩
  rw [← String.ofList_toList (s := name), String.utf8ByteSize_ofList] at h
  rw [stored, Replica.keep_of_le h, String.ofList_toList]

/-- All names are as long as an identifier at most. -/
def Warehouse.Short (w : Warehouse) : Prop :=
  ∀ name, w.has name = true → name.utf8ByteSize ≤ longestIdentifier

/-! ## Calls -/

/-- What a statement is about. -/
def cut : Call Cursor Loader → Call Cursor Loader
  | .dropTable table => .dropTable (stored table)
  | .beginLoad table columns mode => .beginLoad (stored table) columns mode
  | .commit loader => .commit { loader with table := stored loader.table }
  | .finalize table key columns => .finalize (stored table) key columns
  | .rowCount table => .rowCount (stored table)
  | c => c

namespace Stage

/-- Where names are cut a call has the effect of what it is about, and what a lifecycle relies on in
its answers is still so. -/
theorem effect_of_handleCut {c : Call Cursor Loader} {s t : Stage} {answer : Answer c}
    (h : handleCut c s = (answer, t)) :
    t.source = s.source ∧ Effect (cut c) s.warehouse t.warehouse ∧ Answered s.source c answer := by
  cases c with
  | beginLoad table columns mode =>
    simp only [handleCut] at h
    generalize hcall : handle (.beginLoad (stored table) columns mode) s = result at h
    obtain ⟨outcome, u⟩ := result
    obtain ⟨hsource, heffect, _⟩ := effect_of_handle hcall
    cases h
    refine ⟨hsource, heffect, fun loader hloader => ?_⟩
    cases outcome with
    | error e => cases hloader
    | ok opened =>
      cases hloader
      rfl
  | dropTable table =>
    obtain ⟨hsource, heffect, _⟩ := effect_of_handle (c := .dropTable (stored table)) h
    exact ⟨hsource, heffect, trivial⟩
  | commit loader =>
    obtain ⟨hsource, heffect, _⟩ :=
      effect_of_handle (c := .commit { loader with table := stored loader.table }) h
    exact ⟨hsource, heffect, trivial⟩
  | finalize table key columns =>
    obtain ⟨hsource, heffect, _⟩ := effect_of_handle (c := .finalize (stored table) key columns) h
    exact ⟨hsource, heffect, trivial⟩
  | rowCount table =>
    obtain ⟨hsource, heffect, _⟩ := effect_of_handle (c := .rowCount (stored table)) h
    exact ⟨hsource, heffect, trivial⟩
  | _ =>
    have hhandle : handle _ s = (answer, t) := h
    obtain ⟨hsource, heffect, htold⟩ := effect_of_handle hhandle
    exact ⟨hsource, heffect, answered_of_told htold⟩

/-- A call to databases where names are cut, and any call may fail. -/
def UnreliableCut (c : Call Cursor Loader) (s : Stage) (answer : Answer c) (t : Stage) : Prop :=
  ∃ failures, handleCut c { s with failures } = (answer, t)

end Stage
end Rehearsal

namespace Replica

open Program (Runs)
open Rehearsal (Cursor Loader Source Stage Warehouse size_stored stored stored_eq_iff)

variable {c x y : String}

/-! ## Names of tables -/

/-- The table of a source table has a name that is no longer than an identifier. -/
def Fits (c x : String) : Prop := c.utf8ByteSize + 2 + x.utf8ByteSize ≤ longestIdentifier

instance (c x : String) : Decidable (Fits c x) := inferInstanceAs (Decidable (_ ≤ _))

/-- What the identifier of a warehouse table has of the name of the source table. -/
def front (c x : String) : String :=
  String.ofList (keep (longestIdentifier - (stem c).utf8ByteSize) x.toList)

theorem size_stem (c : String) : (stem c).utf8ByteSize = c.utf8ByteSize + 2 := by
  rw [stem, String.utf8ByteSize_append]
  rfl

theorem size_tableName (c x : String) :
    (tableName c x).utf8ByteSize = c.utf8ByteSize + 2 + x.utf8ByteSize := by
  rw [tableName, String.utf8ByteSize_append, size_stem]

theorem size_le_of_isName (hc : isName c = true) : c.utf8ByteSize ≤ longestName := by
  simp only [isName, Bool.and_eq_true, decide_eq_true_eq] at hc
  exact hc.1.1.1.2

/-- The stem of a connection is never cut. -/
theorem stored_tableName (hc : isName c = true) (x : String) :
    stored (tableName c x) = tableName c (front c x) := by
  have hsize : String.utf8Len (stem c).toList ≤ longestIdentifier := by
    have hname := size_le_of_isName hc
    rw [← String.utf8ByteSize_ofList, String.ofList_toList, size_stem, longestIdentifier]
    rw [longestName] at hname
    omega
  have hstem : String.utf8Len (stem c).toList = (stem c).utf8ByteSize := by
    rw [← String.utf8ByteSize_ofList, String.ofList_toList]
  rw [stored, tableName, String.toList_append, keep_append hsize, hstem, String.ofList_append,
    String.ofList_toList]
  rfl

theorem under_stored (hc : isName c = true) (x : String) : Under c (stored (tableName c x)) := by
  rw [stored_tableName hc]
  exact under_tableName c (front c x)

theorem stored_tableName_eq_iff : stored (tableName c x) = tableName c x ↔ Fits c x := by
  rw [stored_eq_iff, size_tableName, Fits]

theorem stored_eq_stored_iff (hc : isName c = true) :
    stored (tableName c x) = stored (tableName c y) ↔ front c x = front c y := by
  rw [stored_tableName hc, stored_tableName hc]
  exact ⟨fun h => (tableName_inj hc hc h).2, fun h => h ▸ rfl⟩

/-! ## Lifecycles -/

/-- All tables have short names, and every new one is stored for a source table. -/
structure Curtailed (connection : String) (s t : Stage) : Prop where
  source : t.source = s.source
  short : t.warehouse.Short
  created : ∀ name, t.warehouse.has name = true → s.warehouse.has name = true ∨
    ∃ table, Target connection s.source table ∧ name = stored table

variable {connection : String} {s t u : Stage}

/-- Changing a stored table keeps names short; if it is put there, it must be that of a target. -/
theorem Curtailed.change {table : String} (ht : Curtailed connection s t)
    (hsource : u.source = t.source)
    (hchange : Warehouse.Change (stored table) t.warehouse u.warehouse)
    (hcreated : u.warehouse.has (stored table) = true →
      t.warehouse.has (stored table) = true ∨ Target connection s.source table) :
    Curtailed connection s u := by
  have hold : ∀ name, name ≠ stored table → u.warehouse.has name = t.warehouse.has name :=
    fun name hne => congrArg Option.isSome (hchange.table? hne)
  refine ⟨hsource.trans ht.source, fun name hname => ?_, fun name hname => ?_⟩
  · by_cases hsame : name = stored table
    · exact hsame ▸ size_stored table
    · exact ht.short name (hold name hsame ▸ hname)
  · by_cases hsame : name = stored table
    · obtain hhas | htarget := hcreated (hsame ▸ hname)
      · exact ht.created name (hsame ▸ hhas)
      · exact .inr ⟨table, htarget, hsame⟩
    · exact ht.created name (hold name hsame ▸ hname)

theorem Curtailed.step {mode : Mode} {c : Call Cursor Loader} {answer : Answer c}
    (ht : Curtailed connection s t) (hc : Allowed mode connection s.source c)
    (h : Stage.UnreliableCut c t answer u) :
    Answered s.source c answer ∧ Curtailed connection s u := by
  obtain ⟨failures, hhandle⟩ := h
  obtain ⟨hsource, heffect, hanswer⟩ := Stage.effect_of_handleCut hhandle
  refine ⟨ht.source ▸ hanswer, ?_⟩
  have hsame : u.warehouse = t.warehouse → Curtailed connection s u := fun hw =>
    ⟨hsource.trans ht.source, hw ▸ ht.short, hw ▸ ht.created⟩
  cases c with
  | dropTable table =>
    obtain hw | hw := (show u.warehouse = _ ∨ u.warehouse = _ from heffect)
    · exact hsame hw
    · have hchange : Warehouse.Change (stored table) t.warehouse u.warehouse := hw ▸ .drop
      refine ht.change hsource hchange fun hhas => ?_
      rw [hw, Warehouse.has_drop_self] at hhas
      cases hhas
  | commit loader =>
    obtain hw | hw := (show u.warehouse = _ ∨ u.warehouse = _ from heffect)
    · exact hsame hw
    · exact ht.change hsource (hw ▸ Warehouse.change_commit ..) fun _ => .inr hc
  | finalize table key columns =>
    obtain hw | hw := (show u.warehouse = _ ∨ u.warehouse = _ from heffect)
    · exact hsame hw
    · exact ht.change hsource (hw ▸ Warehouse.change_setPrimaryKey ..)
        fun _ => .inr (Created.target hc)
  | _ => exact hsame heffect

/-- A lifecycle leads from one state of the databases to another where names are cut: it has ended
or is broken off, with its tables one after another or side by side, and any calls may have
failed. -/
inductive LeadsCut (connection : String) (s t : Stage) : Prop where
  | sequential {mode : Mode} {pace : Pace} {out : Option (Except Error Report)}
      (h : Runs Stage.UnreliableCut (lifecycle mode pace connection).run s out t)
  | concurrent {mode : Mode} {pace : Pace} {limit : Nat} {state : Lifecycle.State Cursor Loader}
      (h : Lifecycle.Reached mode pace connection limit Stage.UnreliableCut s (state, t))

theorem LeadsCut.curtailed (h : LeadsCut connection s t) (hs : s.warehouse.Short) :
    Curtailed connection s t := by
  have hstart : Curtailed connection s s := ⟨rfl, hs, fun _ h => .inl h⟩
  have hstep : ∀ mode (c : Call Cursor Loader) u (answer : Answer c) v,
      Allowed mode connection s.source c → Curtailed connection s u →
      Stage.UnreliableCut c u answer v → Answered s.source c answer ∧ Curtailed connection s v :=
    fun _ _ _ _ _ hc hu h => hu.step hc h
  cases h with
  | @sequential mode pace out h =>
    exact h.invariant (Curtailed connection s) (hstep mode) (confined_lifecycle pace) hstart
  | @concurrent mode pace limit state h =>
    exact h.invariant (Curtailed connection s) trivial (fun _ => trivial) (confined_tasks pace)
      (hstep mode) hstart

/-! ## Finding tables -/

/-- A lookup finds the table of a source table, once there is one, exactly if its name fits. -/
theorem has_tableName_iff (hshort : t.warehouse.Short)
    (hhas : t.warehouse.has (stored (tableName c x)) = true) :
    t.warehouse.has (tableName c x) = true ↔ Fits c x := by
  refine ⟨fun h => ?_, fun h => ?_⟩
  · rw [Fits, ← size_tableName]
    exact hshort _ h
  · rwa [stored_tableName_eq_iff.2 h] at hhas

theorem tableExists_cases (u : Stage) (name : String) : ∃ v : Stage, v.warehouse = u.warehouse ∧
    ((∃ e, Stage.handleCut (.tableExists name) u = (.error e, v)) ∨
      Stage.handleCut (.tableExists name) u = (.ok (u.warehouse.has name), v)) := by
  obtain ⟨failures, h⟩ := u.attempt_cases ⟨.tableExists name, 0⟩ "warehouse.table_exists" name
    (Stage.answer fun s => .ok (s.warehouse.has name))
  exact ⟨{ u with failures, trace := u.trace ++ [⟨.tableExists name, 0⟩] }, rfl, h⟩

/-- What the lookups answer while nothing fails. -/
theorem lookups_of_calm (h : u.failures = []) (stem name : String) :
    (Stage.handleCut (.listTables stem) u).1 = .ok (u.warehouse.startingWith stem) ∧
      (Stage.handleCut (.tableExists name) u).1 = .ok (u.warehouse.has name) := by
  obtain ⟨source, warehouse, leases, failures, trace⟩ := u
  obtain rfl : failures = [] := h
  exact ⟨rfl, rfl⟩

/-- A refresh leaves the warehouse as it is where the name is not found. -/
theorem refreshTask_of_missing (pace : Pace) (h : u.warehouse.has (tableName c x) = false) :
    ((refreshTask pace c x).run Stage.handleCut u).2.warehouse = u.warehouse := by
  have hrun : ∀ outcome v, Stage.handleCut (.tableExists (tableName c x)) u = (outcome, v) →
      (Attempt.tableExists (tableName c x) : Attempt Cursor Loader Bool).run.run
        Stage.handleCut u = (some outcome, v) := fun _ _ hcall =>
    congrArg (fun result : Except Error Bool × Stage => (some result.1, result.2)) hcall
  obtain ⟨v, hv, ⟨e, hcall⟩ | hcall⟩ := tableExists_cases u (tableName c x)
  · have hfailed : (replaceRows pace c x).run.run Stage.handleCut u = (some (.error e), v) :=
      Program.run_bind_error (hrun _ _ hcall)
    rw [refreshTask, Program.run_bind hfailed]
    exact hv
  · rw [h] at hcall
    have hmissing : (replaceRows pace c x).run.run Stage.handleCut u = (some (.ok none), v) :=
      Program.run_bind_ok (hrun _ _ hcall)
    rw [refreshTask, Program.run_bind hmissing]
    exact hv

/-- A warehouse where long names are cut stores the table of a source table under its own name
exactly if that fits, and two of them under one name exactly if what is kept of their names is the
same, which names that fit are not.  A table that a lifecycle creates is listed for its connection
in any case; but only if its name fits is it found by that name, and if not, a refresh never
replaces its rows. -/
theorem found_iff_fits (hc : checkName c = .ok ()) :
    (∀ x, stored (tableName c x) = tableName c x ↔ Fits c x) ∧
    (∀ x y, stored (tableName c x) = stored (tableName c y) ↔ front c x = front c y) ∧
    (∀ x y, Fits c x → Fits c y → x ≠ y → stored (tableName c x) ≠ stored (tableName c y)) ∧
    ∀ s t, s.warehouse.Short → LeadsCut c s t →
      ∀ name, t.warehouse.has name = true → s.warehouse.has name = false →
        ∃ table ∈ s.source.tables, ∃ x, (x = table.name ∨ x = table.describedName) ∧
          name = stored (tableName c x) ∧ ∀ u : Stage, u.warehouse = t.warehouse →
            (u.failures = [] →
              (∃ names, (Stage.handleCut (.listTables (stem c)) u).1 = .ok names ∧ name ∈ names) ∧
              ((Stage.handleCut (.tableExists (tableName c x)) u).1 = .ok true ↔ Fits c x)) ∧
            (¬Fits c x → ∀ pace,
              ((refreshTask pace c x).run Stage.handleCut u).2.warehouse = u.warehouse) := by
  rw [checkName_eq_ok_iff] at hc
  refine ⟨fun x => stored_tableName_eq_iff, fun x y => stored_eq_stored_iff hc,
    fun x y hx hy hne hsame => ?_, fun s t hs hleads name hname hnew => ?_⟩
  · rw [stored_tableName_eq_iff.2 hx, stored_tableName_eq_iff.2 hy] at hsame
    exact hne (tableName_inj hc hc hsame).2
  have hcurtailed := hleads.curtailed hs
  obtain hold | ⟨_, ⟨table, hmem, htarget⟩, hstored⟩ := hcurtailed.created name hname
  · rw [hold] at hnew
    cases hnew
  · obtain ⟨x, hx, rfl⟩ : ∃ x, (x = table.name ∨ x = table.describedName) ∧
        name = stored (tableName c x) := by
      obtain rfl | rfl := htarget
      · exact ⟨_, .inl rfl, hstored⟩
      · exact ⟨_, .inr rfl, hstored⟩
    refine ⟨table, hmem, x, hx, rfl, fun u hu => ?_⟩
    have hfound := has_tableName_iff hcurtailed.short hname
    rw [← hu] at hfound hname
    refine ⟨fun hcalm => ⟨?_, ?_⟩, fun hfits pace => refreshTask_of_missing pace ?_⟩
    · rw [(lookups_of_calm hcalm (stem c) (tableName c x)).1]
      exact ⟨_, rfl, Warehouse.mem_startingWith.2 ⟨under_stored hc x, hname⟩⟩
    · rw [(lookups_of_calm hcalm (stem c) (tableName c x)).2, Except.ok.injEq]
      exact hfound
    · exact Bool.eq_false_iff.2 fun h => hfits (hfound.1 h)

/-- A connection whose name leaves 31 bytes for the name of a source table. -/
def company : String := "warehouse_of_the_whole_company"

/-- A source with a table whose name is longer than that. -/
def reminders : Stage where
  source := { tables := [
    { name := "customer_subscription_renewal_reminders",
      columns := [⟨"id", "int4", false, {}, 1⟩], primaryKey := ["id"], rows := [[some "1"]] }] }

/-- The state after a first run. -/
def remindersLoaded : Stage :=
  ((lifecycle .run ⟨10, 10, 10⟩ company).run.run Stage.handleCut reminders).2

theorem reminders_listed : ∃ x,
    "warehouse_of_the_whole_company__customer_subscription_renewal_r" =
      stored (tableName company x) ∧
    (∃ names, (Stage.handleCut (.listTables (stem company)) remindersLoaded).1 = .ok names ∧
      "warehouse_of_the_whole_company__customer_subscription_renewal_r" ∈ names) ∧
    ((Stage.handleCut (.tableExists (tableName company x)) remindersLoaded).1 = .ok true ↔
      Fits company x) := by
  have hcompany : checkName company = .ok () := checkName_eq_ok_iff.2 (by decide +kernel)
  obtain ⟨_, _, _, hcreated⟩ := found_iff_fits hcompany
  have hleads : LeadsCut company reminders remindersLoaded :=
    .sequential (Runs.of_run (fun c s => ⟨s.failures, rfl⟩) _ reminders)
  obtain ⟨_, _, x, _, hname, hlookups⟩ := hcreated reminders remindersLoaded
    (fun _ h => (Bool.false_ne_true h).elim) hleads
    "warehouse_of_the_whole_company__customer_subscription_renewal_r" (by decide +kernel) rfl
  exact ⟨x, hname, (hlookups remindersLoaded rfl).1 (by decide +kernel)⟩

/-- Two source tables have one warehouse table between them, whose name is neither of theirs, so
that a refresh does not find the table that a first run has created. -/
theorem reminders_not_found :
    checkName company = .ok () ∧
    stored (tableName company "customer_subscription_renewal_reminders") =
      "warehouse_of_the_whole_company__customer_subscription_renewal_r" ∧
    stored (tableName company "customer_subscription_renewal_requests") =
      "warehouse_of_the_whole_company__customer_subscription_renewal_r" ∧
    remindersLoaded.warehouse.has
      (stored (tableName company "customer_subscription_renewal_reminders")) = true ∧
    remindersLoaded.warehouse.has
      (tableName company "customer_subscription_renewal_reminders") = false := by
  refine ⟨checkName_eq_ok_iff.2 (by decide +kernel), ?_⟩
  decide +kernel

end Replica
end Granary
