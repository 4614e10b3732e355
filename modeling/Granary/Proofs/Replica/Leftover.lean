import Granary.Proofs.Replica.Clearing
import Granary.Proofs.Replica.Serial

/-!
# What a failed copy leaves

A load is one transaction, so a copy that fails before its commit leaves no table.  The key is added
once the load is committed, and a failure there leaves the table with all its rows and no key.
`leftover_of_bulkCopyFailure` says that these are the two cases there are, and that whether the key
has been asked for tells which one it is.
-/

namespace Granary.Replica

open Program (Division)
open Program.Division (Charge)
open Rehearsal (Breakdown Cursor Failure finalizes Loader Stage StoredSource)

/-- What a failed copy leaves of a table, after a lifecycle that began at `s`: nothing, or all but
its key once that has been asked for. -/
def Leftover (connection : String) (s t : Stage) (table : String) : Prop :=
  if finalizes table (t.trace.drop s.trace.length) = true then
    ∃ x ∈ s.source.tables, table = tableName connection x.name ∧
      t.warehouse.table? table = some (copyOf connection x)
  else t.warehouse.table? table = none

/-- A lifecycle that ends with the failure of a copy leaves what that leaves. -/
def Spared (connection : String) (s : Stage) (outcome : Except Error Report) (t : Stage) : Prop :=
  ∀ table cause, outcome = .error (.bulkCopyFailure table cause) → Leftover connection s t table

theorem spared_of_operational {connection : String} {s t : Stage} {e : Error}
    (h : e.Operational) : Spared connection s (.error e) t :=
  fun table cause he => absurd (Except.error.inj he) (h table cause)

variable {mode : Mode} {pace : Pace} {connection : String} {s : Stage}

/-- A task that fails with the failure of a copy has left its own table so. -/
theorem leftover_of_worked {x : StoredSource} (hx : x ∈ s.source.tables) {t : Stage}
    {table : String} {cause : Error}
    (h : (attending Error.Operational connection x).post (.error (.bulkCopyFailure table cause))
      ((byHolding Stage.Faulty s).view (tableName connection x.name) t)) :
    Leftover connection s t table := by
  obtain ⟨_, e, hdescribed, he⟩ | ⟨hview, _, _, e, hfailure, he⟩ := h
  · -- A table that could not be described fails as such, not with the failure of a copy.
    obtain ⟨_, hok | ⟨e', hoperational, he'⟩⟩ := hdescribed
    · cases hok
    · cases he'
      exact absurd he.symm (operational_sourceFailure e table cause)
  · rw [copyFailure_of_operational hfailure] at he
    obtain ⟨rfl, rfl⟩ := Error.bulkCopyFailure.inj he
    rw [Leftover]
    -- The key has been asked for exactly if the load had committed.
    obtain hview | hview := hview
    · obtain ⟨htable, hasked⟩ := Holding.mk.inj hview
      rw [if_neg (by rw [hasked]; exact Bool.false_ne_true)]
      exact htable
    · obtain ⟨htable, hasked⟩ := Holding.mk.inj hview
      rw [if_pos hasked]
      exact ⟨x, hx, rfl, htable⟩

theorem spared_of_concluded {outcome : Except Error (List (Option TableReport))} {t : Stage}
    (h : (byHolding Stage.Faulty s).Concluded
      (s.source.tables.map (attending Error.Operational connection)) t outcome) :
    Spared connection s ((outcome.map (·.flatMap Option.toList)).map fun reports =>
      ⟨connection, mode, reports⟩) t := by
  intro table cause houtcome
  obtain ⟨results, rfl, _⟩ | ⟨before, x, after, e, results, htables, rfl, _, hpost, _⟩ := h.of_map
  · cases houtcome
  · cases houtcome
    exact leftover_of_worked (htables ▸ by simp) hpost

/-- Wherever a first run or a full refresh begins, it ends sparing all tables but those. -/
theorem bound_spared (hmode : mode ≠ .refresh) (hplain : s.source.Plain)
    (hfetches : ∀ x ∈ s.source.tables, x.rows.length < pace.fetches) :
    Lifecycle.Bound (byHolding Stage.Faulty s) mode pace connection (Spared connection s)
      (Lifecycle.start connection, s) := by
  refine bound_of_attending answering_faulty covers_operational hmode hplain hfetches
    (fun _ _ he => spared_of_operational he) fun _ outcome t h _ => spared_of_concluded h

/-- Whichever calls fail, in a first run or a full refresh that ends with the failure of a copy the
table it names is not there, unless what failed was the adding of its key: then it is there with all
rows of its source table.  So it goes however the tasks take turns, and one after another. -/
theorem leftover_of_bulkCopyFailure (hmode : mode ≠ .refresh) (hplain : s.source.Plain)
    (hfetches : ∀ x ∈ s.source.tables, x.rows.length < pace.fetches) :
    (∀ limit outcome t,
      Lifecycle.Reached mode pace connection limit Stage.Faulty s (.ended outcome, t) →
        Spared connection s outcome t) ∧
    (lifecycle mode pace connection).run.Leads Stage.Faulty (Spared connection s) s := by
  have hbound : Lifecycle.Bound _ mode pace connection _ _ := bound_spared hmode hplain hfetches
  exact ⟨fun limit outcome t h => hbound.of_reached h,
    Lifecycle.leads_of_inevitable (hbound.inevitable Nat.zero_lt_one)⟩

/-- A shop with two orders. -/
def orderShop : Stage where
  source := { tables := [
    { name := "orders", columns := [⟨"id", "int4", false, {}, 1⟩], primaryKey := ["id"],
      rows := [[some "1"], [some "2"]] }] }

/-- The plan that no key can be added. -/
def keyless : Call Cursor Loader → List (Failure Breakdown)
  | .finalize .. => [{ pattern :=
      { point := "warehouse.finalize_table", error := .execution (.statement .refused) } }]
  | _ => []

theorem operational_keyless (c : Call Cursor Loader) :
    ∀ f ∈ keyless c, f.pattern.error.Operational := by
  intro f hf
  cases c with
  | finalize table key columns =>
    obtain rfl := List.mem_singleton.1 hf
    rintro _ _ ⟨⟩
  | _ => cases hf

/-- How the first run of the shop ends without a key. -/
def keylessEnd : Option (Except Error Report) × Stage :=
  (lifecycle .run ⟨1, 1, 3⟩ "shop").run.run (Stage.fated keyless) orderShop

theorem keylessEnd_outcome : keylessEnd.1 =
    some (.error (.bulkCopyFailure "shop__orders" (.execution (.statement .refused)))) := by
  with_unfolding_all rfl

theorem keylessEnd_runs : Program.Runs Stage.Faulty (lifecycle .run ⟨1, 1, 3⟩ "shop").run orderShop
    (some (.error (.bulkCopyFailure "shop__orders" (.execution (.statement .refused)))))
    keylessEnd.2 := by
  rw [← keylessEnd_outcome]
  exact .of_run (Stage.faulty_fated operational_keyless) _ _

theorem leftover_of_orderShop :
    (Mode.run ≠ .refresh ∧ orderShop.source.Plain ∧
      ∀ x ∈ orderShop.source.tables, x.rows.length < Pace.fetches ⟨1, 1, 3⟩) ∧
      Leftover "shop" orderShop keylessEnd.2 "shop__orders" ∧
      finalizes "shop__orders" keylessEnd.2.trace = true ∧
      (keylessEnd.2.warehouse.table? "shop__orders").map (·.rows) =
        some [[some "1"], [some "2"]] := by
  have hplain : orderShop.source.Plain := ⟨rfl, by decide, by decide⟩
  have hfetches : ∀ x ∈ orderShop.source.tables, x.rows.length < Pace.fetches ⟨1, 1, 3⟩ := by
    decide
  have hleads : (lifecycle .run ⟨1, 1, 3⟩ "shop").run.Leads Stage.Faulty
      (Spared "shop" orderShop) orderShop :=
    (leftover_of_bulkCopyFailure (by decide) hplain hfetches).2
  have hleftover := hleads.result keylessEnd_runs _ _ rfl
  have hasked : finalizes "shop__orders" keylessEnd.2.trace = true := by decide +kernel
  refine ⟨⟨by decide, hplain, hfetches⟩, hleftover, hasked, ?_⟩
  -- The key has been asked for, so all rows are there.
  have hsince : finalizes "shop__orders" (keylessEnd.2.trace.drop orderShop.trace.length) = true :=
    hasked
  rw [Leftover, if_pos hsince] at hleftover
  obtain ⟨x, hx, _, htable⟩ := hleftover
  obtain rfl := List.mem_singleton.1 hx
  rw [htable]
  rfl

/-- The table whose key could not be added has been left there. -/
theorem table_of_failed_key :
    ¬(lifecycle .run ⟨1, 1, 3⟩ "shop").run.Leads Stage.Faulty (fun outcome t =>
      ∀ table cause, outcome = .error (.bulkCopyFailure table cause) →
        t.warehouse.has table = false) orderShop := by
  intro h
  have habsent := h.result keylessEnd_runs _ _ rfl
  have hthere : keylessEnd.2.warehouse.has "shop__orders" = true := by decide +kernel
  rw [hthere] at habsent
  cases habsent

end Granary.Replica
