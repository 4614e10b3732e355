import Granary.Proofs.Rehearsal.Indexes

/-!
# Tables with their indexes

What there is of a name in a warehouse is a table and the indexes on it: its shelf.  The shelves
under the stem of a connection are its own.  The names of indexes are not, so a name that the
connection asks for may be that of a relation of somebody else (`Blocked`).
-/

namespace Granary.Replica

open Rehearsal (Index Indexed StoredTable)

/-- What there is of a name: a table, and the indexes on it. -/
structure Shelf where
  table : Option StoredTable
  indexes : List Index
  deriving DecidableEq, Repr

/-- What a state has of a name. -/
def shelf (s : Indexed) (name : String) : Shelf :=
  ⟨s.stage.warehouse.table? name, s.indexes.filter (·.table == name)⟩

/-- A relation that is not of the connection has the name. -/
def Blocked (connection : String) (s : Indexed) (name : String) : Prop :=
  (¬Under connection name ∧ s.stage.warehouse.has name = true) ∨
    (∃ i ∈ s.indexes, i.name = name ∧ ¬Under connection i.table) ∨ name ∈ s.relations

instance (connection : String) (s : Indexed) (name : String) :
    Decidable (Blocked connection s name) :=
  inferInstanceAs (Decidable ((¬Under connection name ∧ _ = true) ∨
    (∃ i ∈ s.indexes, i.name = name ∧ ¬Under connection i.table) ∨ name ∈ s.relations))

variable {connection name : String} {s t : Indexed}

theorem mem_shelf {i : Index} : i ∈ (shelf s name).indexes ↔ i ∈ s.indexes ∧ i.table = name := by
  rw [shelf, List.mem_filter, beq_iff_eq]

theorem has_eq_of_shelf (h : shelf t name = shelf s name) :
    t.stage.warehouse.has name = s.stage.warehouse.has name :=
  congrArg (fun held : Shelf => held.table.isSome) h

/-- What blocks a name of the connection blocked it before. -/
theorem Blocked.of_others
    (hothers : ∀ name, ¬Under connection name → shelf t name = shelf s name)
    (hrelations : t.relations = s.relations) (h : Blocked connection t name) :
    Blocked connection s name := by
  obtain ⟨hunder, hhas⟩ | ⟨i, hi, rfl, hunder⟩ | hrelation := h
  · exact .inl ⟨hunder, has_eq_of_shelf (hothers name hunder) ▸ hhas⟩
  · have hold := mem_shelf.1 (hothers _ hunder ▸ mem_shelf.2 ⟨hi, rfl⟩)
    exact .inr (.inl ⟨i, hold.1, rfl, hunder⟩)
  · exact .inr (.inr (hrelations ▸ hrelation))

/-- The connection itself does not change what blocks a name. -/
theorem blocked_congr (hothers : ∀ name, ¬Under connection name → shelf t name = shelf s name)
    (hrelations : t.relations = s.relations) :
    Blocked connection t name ↔ Blocked connection s name :=
  ⟨.of_others hothers hrelations,
    .of_others (fun name hname => (hothers name hname).symm) hrelations.symm⟩

/-- Indexes on tables of the connection are on no other shelf. -/
theorem shelf_append {added : List Index} (hadded : ∀ i ∈ added, Under connection i.table)
    (hname : ¬Under connection name) :
    shelf { s with indexes := s.indexes ++ added } name = shelf s name := by
  have hnone : added.filter (·.table == name) = [] :=
    List.filter_eq_nil_iff.2 fun i hi hsame => hname (beq_iff_eq.1 hsame ▸ hadded i hi)
  refine congrArg (Shelf.mk _) ?_
  rw [List.filter_append, hnone, List.append_nil]

end Granary.Replica
