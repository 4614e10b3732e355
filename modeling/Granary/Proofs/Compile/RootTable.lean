import Granary.Proofs.Compile.Reference
import Granary.Proofs.Schema.Listing

/-!
# Requests without joins

A request without joins has its root table in scope and no other, so nothing that a snapshot knows
of other tables, and none of its keys, can be seen in what the request compiles to.

Two scopes that resolve all references alike are alike to every stage of a compilation that is given
a scope (`Scope.Alike`), which leaves the root table and the joins to be looked at.
-/

namespace Granary

open Outcome
open Text (lowercase)

namespace Scope

/-- The scopes have one root and resolve every reference alike. -/
structure Alike (a b : Scope) : Prop where
  root : a.root = b.root
  resolveRef : ∀ ref, a.resolveRef ref = b.resolveRef ref

variable {a b : Scope}

theorem Alike.resolve (h : a.Alike b) : a.resolve = b.resolve := by
  have href : a.resolveRef = b.resolveRef := funext h.resolveRef
  funext raw
  rw [Scope.resolve, href, Scope.resolve]

theorem Alike.resolveOn (h : a.Alike b) : a.resolveOn = b.resolveOn := by
  have href : a.resolveRef = b.resolveRef := funext h.resolveRef
  funext table raw
  rw [Scope.resolveOn, href, Scope.resolveOn]

end Scope

section

variable {a b : Scope}

theorem Request.bucket?_of_alike (h : a.Alike b) (r : Request) : r.bucket? a = r.bucket? b := by
  rw [bucket?, bucket?, h.root, h.resolveOn]

theorem Request.addDimension_of_alike (h : a.Alike b) : addDimension a = addDimension b := by
  funext date dims raw
  rw [addDimension, addDimension, h.resolve]

theorem Metric.expr_of_alike (h : a.Alike b) (m : Metric) : m.expr a = m.expr b := by
  rw [expr, expr, h.resolve]

theorem Metric.select_of_alike (h : a.Alike b) :
    (fun m : Metric => m.select a) = fun m => m.select b := by
  funext m
  rw [select, select, m.expr_of_alike h]

theorem Predicate.add_of_alike (h : a.Alike b) : Predicate.add a = Predicate.add b := by
  funext p f
  have hclause : ∀ bound, f.clause a bound = f.clause b bound := by
    intro bound
    rw [Filter.clause, Filter.clause, h.resolve]
  rw [add, add, hclause]

theorem Request.rankedOrder_of_alike (h : a.Alike b) (r : Request) :
    r.rankedOrder a = r.rankedOrder b := by
  funext selected order
  have hranking : ∀ m, rankingOrder m a selected = rankingOrder m b selected := by
    intro m
    rw [rankingOrder, rankingOrder, m.expr_of_alike h]
  unfold rankedOrder
  cases r.top with
  | none => rfl
  | some n =>
    cases r.metrics with
    | nil => rfl
    | cons first rest => simp only [hranking]

end

/-! ## One table in scope -/

section

variable {root : String} {s s' : Snapshot}

/-- What is found under one name decides how references are resolved where no other table is. -/
theorem Scope.alike_of_table? (h : s.table? root = s'.table? root) :
    Alike ⟨root, [], some s⟩ ⟨root, [], some s'⟩ := by
  have hcolumn : ∀ column, s.hasColumn root column = s'.hasColumn root column := by
    intro column
    rw [Snapshot.hasColumn, Snapshot.columns?, h, Snapshot.hasColumn, Snapshot.columns?]
  have htable : s.tableSpelling root = s'.tableSpelling root := by
    rw [Snapshot.tableSpelling, h, Snapshot.tableSpelling]
  have hspelling : ∀ column, s.columnSpelling root column = s'.columnSpelling root column := by
    intro column
    rw [Snapshot.columnSpelling, h, Snapshot.columnSpelling]
  have htype : ∀ column, s.columnType? root column = s'.columnType? root column := by
    intro column
    rw [Snapshot.columnType?, h, Snapshot.columnType?]
  refine ⟨rfl, fun ref => ?_⟩
  obtain ⟨table?, column⟩ := ref
  cases table? with
  | none =>
    cases hhas : s'.hasColumn root column with
    | false => simp [resolveRef, owner, tables, hcolumn, hhas, bind, Except.bind]
    | true =>
      simp [resolveRef, owner, tables, hcolumn, hhas, hspelling, htype, bind, Except.bind]
  | some table =>
    by_cases hsame : table = root
    · subst hsame
      cases hhas : s'.hasColumn table column with
      | false => simp [resolveRef, owner, tables, hcolumn, hhas, bind, Except.bind]
      | true =>
        simp [resolveRef, owner, tables, hcolumn, hhas, htable, hspelling, htype, bind, Except.bind]
    · -- Another table is not in scope, whatever the snapshots know of it.
      simp [resolveRef, owner, tables, hsame, bind, Except.bind]

variable {r : Request}

/-- Without joins, only what a snapshot knows of the root table can be seen. -/
theorem Request.compile_of_table? (hjoins : r.joins = [])
    (h : s.table? r.root = s'.table? r.root) : r.compile (some s) = r.compile (some s') := by
  have halike : Scope.Alike ⟨lowercase r.root, [], some s⟩ ⟨lowercase r.root, [], some s'⟩ := by
    rw [r.lowercase_root]
    exact Scope.alike_of_table? h
  have hhas : s.hasTable r.root = s'.hasTable r.root := by
    rw [Snapshot.hasTable, h, Snapshot.hasTable]
  have hcheck : JoinPlan.checkTable ⟨r.root, [], some s⟩ r.root =
      JoinPlan.checkTable ⟨r.root, [], some s'⟩ r.root := by
    simp only [JoinPlan.checkTable]
    rw [hhas]
  have hspelling : JoinPlan.spelling ⟨lowercase r.root, [], some s⟩ r.root =
      JoinPlan.spelling ⟨lowercase r.root, [], some s'⟩ r.root := by
    simp only [JoinPlan.spelling, Snapshot.tableSpelling, h]
  have hplan : ∀ scope, JoinPlan.ofRequested scope r.joins = .ok (JoinPlan.start scope) := by
    intro scope
    rw [hjoins]
    rfl
  unfold compile
  simp only [hcheck, hplan]
  simp only [bind, Except.bind, JoinPlan.start, bucket?_of_alike halike,
    addDimension_of_alike halike, Metric.select_of_alike halike, Predicate.ofFilters,
    Predicate.add_of_alike halike, rankedOrder_of_alike halike, hspelling]

end

end Granary
