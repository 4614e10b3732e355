import Granary.Proofs.Compile.TableName
import Granary.Proofs.Schema.Spelling
import Granary.Schema.Catalog

/-!
# Snapshots that are built up

A snapshot is built up from nothing by declaring tables, adding columns and adding keys, in any
order, whether the columns come from a database or from a description.  Whatever the order, each
table and each column is spelled so that its spelling in lower case is the name it is looked up by.
-/

namespace Granary

open Schema (Table)
open Text (lowercase)

namespace Snapshot

/-- The snapshots that can be built. -/
inductive Built : Snapshot → Prop where
  | empty : Built {}
  | addColumn {s : Snapshot} (h : Built s) (table column : String) (type? : Option String) :
      Built (s.addColumn table column type?)
  | declare {s : Snapshot} (h : Built s) (table : String) (columns : List String) :
      Built (s.declare table columns)
  | addTyped {s : Snapshot} (h : Built s) (table : String) (columns : List (String × String)) :
      Built (s.addTyped table columns)
  | setPrimaryKey {s : Snapshot} (h : Built s) (table : String) (columns : List String) :
      Built (s.setPrimaryKey table columns)
  | addForeignKey {s : Snapshot} (h : Built s)
      (referencingTable referencingColumn referencedTable referencedColumn : String) :
      Built (s.addForeignKey referencingTable referencingColumn referencedTable referencedColumn)

theorem built_foldl {α : Type} {f : Snapshot → α → Snapshot} (hf : ∀ s a, s.Built → (f s a).Built)
    (xs : List α) {s : Snapshot} (h : s.Built) : (xs.foldl f s).Built := by
  induction xs generalizing s with
  | nil => exact h
  | cons x rest ih => exact ih (hf s x h)

/-- What a database lists makes a snapshot that is built. -/
theorem built_snapshotOf (columns : List Schema.ColumnRecord) (keys : List Schema.KeyRecord)
    (references : List Schema.ReferenceRecord) :
    (Schema.snapshotOf columns keys references).Built := by
  refine built_foldl ?_ references (built_foldl ?_ (Schema.groupKeys keys)
    (built_foldl ?_ columns .empty))
  · exact fun s r h => h.addForeignKey ..
  · exact fun s k h => h.setPrimaryKey ..
  · exact fun s c h => h.addColumn ..

/-! ## What holds of every table -/

section

variable {P : Table → Prop}

theorem forall_updateIn {name : String} {change : Table → Table}
    (hnew : P { key := lowercase name, spelling := name }) (hchange : ∀ t, P t → P (change t))
    {tables : List Table} (h : ∀ t ∈ tables, P t) : ∀ t ∈ updateIn name change tables, P t := by
  induction tables with
  | nil => exact List.forall_mem_singleton.2 (hchange _ hnew)
  | cons t rest ih =>
    obtain ⟨ht, hrest⟩ := List.forall_mem_cons.1 h
    rw [updateIn]
    split
    · exact List.forall_mem_cons.2 ⟨hchange t ht, hrest⟩
    · split
      · exact List.forall_mem_cons.2 ⟨hchange _ hnew, h⟩
      · exact List.forall_mem_cons.2 ⟨ht, ih hrest⟩

theorem forall_foldl_addColumn {α : Type} (hadd : ∀ t name type?, P t → P (t.addColumn name type?))
    (name : α → String) (type? : α → Option String) (xs : List α) (t : Table) (ht : P t) :
    P (xs.foldl (fun t x => t.addColumn (name x) (type? x)) t) := by
  induction xs generalizing t with
  | nil => exact ht
  | cons x rest ih => exact ih _ (hadd t _ _ ht)

/-- What holds of a table without columns, and still does when a column is added or the columns are
forgotten, holds of every table. -/
theorem Built.forall_tables {s : Snapshot} (h : s.Built)
    (hnew : ∀ name, P { key := lowercase name, spelling := name })
    (hadd : ∀ t name type?, P t → P (t.addColumn name type?))
    (hforget : ∀ t : Table, P t → P { t with columns := [] }) : ∀ t ∈ s.tables, P t := by
  induction h with
  | empty => exact fun t ht => absurd ht List.not_mem_nil
  | addColumn _ table column type? ih =>
    exact forall_updateIn (hnew table) (fun t ht => hadd t column type? ht) ih
  | declare _ table columns ih =>
    refine forall_updateIn (hnew table) (fun t ht => ?_) ih
    exact forall_foldl_addColumn hadd id (fun _ => none) columns _ (hforget t ht)
  | addTyped _ table columns ih =>
    refine forall_updateIn (hnew table) (fun t ht => ?_) ih
    exact forall_foldl_addColumn hadd Prod.fst (fun c => some c.2) columns t ht
  | setPrimaryKey _ _ _ ih => exact ih
  | addForeignKey _ _ _ _ _ ih => exact ih

end

/-! ## The order of the tables -/

theorem key_foldl_addColumn {α : Type} (name : α → String) (type? : α → Option String)
    (xs : List α) (t : Table) :
    (xs.foldl (fun t x => t.addColumn (name x) (type? x)) t).key = t.key :=
  forall_foldl_addColumn (P := fun t' => t'.key = t.key) (fun _ _ _ ht => ht) name type? xs t rfl

/-- However it is built, a snapshot has its tables in ascending order of their keys. -/
theorem Built.ordered {s : Snapshot} (h : s.Built) : s.Ordered := by
  induction h with
  | empty => exact ordered_empty
  | addColumn _ table column type? ih => exact ih.addColumn table column type?
  | declare _ table columns ih =>
    refine ordered_updateIn (fun t => ?_) ih
    exact key_foldl_addColumn id (fun _ => none) columns { t with columns := [] }
  | addTyped _ table columns ih =>
    exact ordered_updateIn (key_foldl_addColumn Prod.fst (fun c => some c.2) columns) ih
  | setPrimaryKey _ _ _ ih => exact ih
  | addForeignKey _ _ _ _ _ ih => exact ih

/-! ## Spellings -/

theorem Built.isSpelled {s : Snapshot} (h : s.Built) : s.IsSpelled :=
  h.forall_tables (fun name => Eq.refl (lowercase name)) (fun _ _ _ ht => ht) fun _ ht => ht

/-- Every column is looked up by its spelling in lower case. -/
def SpellsColumns (t : Table) : Prop :=
  ∀ key spelling, t.spellings.get? key = some spelling → lowercase spelling = key

theorem spellsColumns_addColumn {t : Table} (h : SpellsColumns t) (name : String)
    (type? : Option String) : SpellsColumns (t.addColumn name type?) := by
  intro key spelling hget
  have hget : ((t.spellings.setNew (lowercase name) name).get? key) = some spelling := hget
  rw [Named.get?_setNew, Option.or_eq_some_iff] at hget
  obtain hthere | ⟨_, hnew⟩ := hget
  · exact h key spelling hthere
  · split at hnew
    · cases hnew
      assumption
    · cases hnew

theorem Built.spellsColumns {s : Snapshot} (h : s.Built) : ∀ t ∈ s.tables, SpellsColumns t :=
  h.forall_tables (fun _ _ _ hget => nomatch hget)
    (fun _ name type? ht => spellsColumns_addColumn ht name type?) fun _ ht => ht

theorem Built.lowercase_columnSpelling {s : Snapshot} (h : s.Built) (table column : String) :
    lowercase (s.columnSpelling table column) = lowercase column := by
  rw [columnSpelling]
  cases hspelling : (s.table? table).bind fun t => t.spellings.get? (lowercase column) with
  | none => exact Text.lowercase_lowercase column
  | some spelling =>
    obtain ⟨t, ht, hget⟩ := Option.bind_eq_some_iff.1 hspelling
    exact h.spellsColumns t (List.mem_of_find?_eq_some ht) _ _ hget

end Snapshot
end Granary
