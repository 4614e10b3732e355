import Granary.Proofs.Compile.Requirement

/-!
# Tables that are joined twice

A scope has every table once, however often it is joined, but every join adds its clause to the
statement.  No table is given an alias, so a server refuses a statement that has a table twice, and
`nodup_tableNames_iff` says which statements these are.

The catalog's spelling does not bring two tables together as long as the spelling of a table is its
key but for letter case.
-/

namespace Granary

open Outcome
open Schema (Table)
open Text (lowercase)

/-! ## Spellings -/

/-- The table is looked up by its spelling in lower case. -/
def Schema.Table.IsSpelled (t : Table) : Prop := lowercase t.spelling = t.key

namespace Snapshot

def IsSpelled (s : Snapshot) : Prop := ∀ t ∈ s.tables, t.IsSpelled

variable {s : Snapshot}

theorem lowercase_tableSpelling (h : s.IsSpelled) (name : String) :
    lowercase (s.tableSpelling name) = lowercase name := by
  rw [tableSpelling]
  cases ht : s.table? name with
  | none => exact Text.lowercase_lowercase name
  | some t =>
    have hkey : t.key = lowercase name := by simpa using List.find?_some ht
    rw [← hkey]
    exact h t (List.mem_of_find?_eq_some ht)

end Snapshot

/-! ## Scopes -/

namespace Scope

variable {scope : Scope}

theorem nodup_add (h : scope.tables.Nodup) (table : String) : (scope.add table).tables.Nodup := by
  unfold add
  dsimp only
  split
  · exact h
  · rename_i hnew
    have hnew : lowercase table ∉ scope.tables := fun hmem => hnew (List.contains_iff_mem.2 hmem)
    show (scope.tables ++ [lowercase table]).Nodup
    exact List.Nodup.append h (List.nodup_singleton _) (List.disjoint_singleton.2 hnew)

theorem nodup_foldl_add (h : scope.tables.Nodup) (tables : List String) :
    (tables.foldl add scope).tables.Nodup := by
  induction tables generalizing scope with
  | nil => exact h
  | cons table rest ih => exact ih (nodup_add h table)

end Scope

namespace Request

variable {r : Request} {s : Snapshot}

/-- The tables of FROM and JOIN are distinct exactly if the request names no table twice, in any
letter case.  The compiler does not look at this: its scope has each of them once in any event, and
a clause is written for every join. -/
theorem nodup_tableNames_iff (hs : s.IsSpelled) {st : Statement}
    (h : r.compile (some s) = .ok st) :
    (st.query.tableNames.Nodup ↔ r.tableKeys.Nodup) ∧
    st.query.joins.length = r.joins.length ∧
    (r.scope (some s)).tables.Nodup ∧
    ∀ key, key ∈ (r.scope (some s)).tables ↔ key ∈ r.tableKeys := by
  have hnames := tableNames_of_compile h
  have hroot : (⟨lowercase r.root, [], some s⟩ : Scope).tables.Nodup := List.nodup_singleton _
  have hscope : (r.scope (some s)).tables.Nodup := Scope.nodup_foldl_add hroot _
  refine ⟨?_, ?_, hscope, fun key => mem_scope_iff⟩
  · rw [hnames, ← tableKeys_eq]
    refine ⟨List.Nodup.of_map _, fun hnodup => hnodup.map_on fun a ha b hb hsame => ?_⟩
    have hlower : ∀ key ∈ r.tableKeys, lowercase (s.tableSpelling key) = key := by
      intro key hkey
      obtain ⟨name, _, rfl⟩ := List.mem_map.1 hkey
      rw [Snapshot.lowercase_tableSpelling hs, Text.lowercase_lowercase]
    rw [← hlower a ha, ← hlower b hb, hsame]
  · have hlength := congrArg List.length hnames
    simpa [Sql.Select.tableNames] using hlength

/-- Everybody with their manager. -/
def staff : Request where
  table := "employees"
  dimensions := ["employees.name"]
  joins := [{ table := "Employees" }]

def staffCatalog : Snapshot :=
  (({} : Snapshot).addTyped "employees"
    [("id", "int4"), ("manager_id", "int4"), ("name", "text")]).addForeignKey
      "employees" "manager_id" "employees" "id"

theorem tableNames_staff :
    ∃ st, staff.compile (some staffCatalog) = .ok st ∧
      st.query.tableNames = ["employees", "employees"] := by
  have hnames : (staff.compile (some staffCatalog)).toOption.map (·.query.tableNames) =
      some ["employees", "employees"] := by decide +kernel
  obtain ⟨st, hst, htables⟩ := Option.map_eq_some_iff.1 hnames
  exact ⟨st, toOption_eq_some.1 hst, htables⟩

theorem nodup_tableNames_orderWithCustomer :
    shopCatalog.IsSpelled ∧ ∃ st, orderWithCustomer.compile (some shopCatalog) = .ok st ∧
      st.query.tableNames.Nodup := by
  have hs : shopCatalog.IsSpelled := by unfold Snapshot.IsSpelled Table.IsSpelled; decide +kernel
  obtain ⟨st, hst, _⟩ := bareColumns_orderWithCustomer
  have hkeys : orderWithCustomer.tableKeys.Nodup := by decide +kernel
  exact ⟨hs, st, hst, (nodup_tableNames_iff hs hst).1.2 hkeys⟩

/-- A table that refers to itself is joined to itself under one name. -/
theorem tableNames_not_nodup :
    ¬ ∀ (r : Request) (s : Snapshot) (st : Statement), r.compile (some s) = .ok st →
      st.query.tableNames.Nodup := by
  intro hall
  obtain ⟨st, hst, hnames⟩ := tableNames_staff
  have hnodup := hall _ _ _ hst
  rw [hnames] at hnodup
  exact absurd hnodup (by decide)

end Request
end Granary
