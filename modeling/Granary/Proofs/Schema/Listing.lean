import Granary.Schema.Catalog
import Mathlib.Data.String.Basic
import Mathlib.Order.Basic

/-!
# One table of a listing

A snapshot keeps its tables in ascending order of their keys, so adding to one of them leaves what
is found under every other name.  What a snapshot knows of one table therefore comes from the rows
of the listing that name it, and keys add nothing to it: `table?_snapshotOf`.
-/

namespace Granary

open Schema (ColumnRecord KeyRecord ReferenceRecord Table)
open Text (lowercase)

namespace Snapshot

/-- Keys in strictly ascending order, so that no two tables have one key. -/
def Ordered (s : Snapshot) : Prop := s.tableKeys.Pairwise (· < ·)

/-- A table that comes into being under a name. -/
def blank (name : String) : Table := { key := lowercase name, spelling := name }

variable {name other : String} {change : Table → Table}

theorem mem_keys_updateIn (hchange : ∀ t, (change t).key = t.key) (tables : List Table)
    (key : String) : key ∈ (updateIn name change tables).map (·.key) ↔
      key = lowercase name ∨ key ∈ tables.map (·.key) := by
  induction tables with
  | nil => simp [updateIn, hchange]
  | cons t rest ih =>
    unfold updateIn
    by_cases hsame : t.key = lowercase name
    · simp [hsame, hchange]
    · by_cases hlt : lowercase name < t.key
      · simp [hsame, hlt, hchange]
      · rw [if_neg hsame, if_neg hlt, List.map_cons, List.mem_cons, ih, List.map_cons,
          List.mem_cons, or_left_comm]

theorem ordered_updateIn (hchange : ∀ t, (change t).key = t.key) {tables : List Table}
    (h : (tables.map (·.key)).Pairwise (· < ·)) :
    ((updateIn name change tables).map (·.key)).Pairwise (· < ·) := by
  induction tables with
  | nil => simp [updateIn]
  | cons t rest ih =>
    rw [List.map_cons, List.pairwise_cons] at h
    obtain ⟨ht, hrest⟩ := h
    unfold updateIn
    by_cases hsame : t.key = lowercase name
    · rw [if_pos hsame, List.map_cons, List.pairwise_cons, hchange]
      exact ⟨ht, hrest⟩
    · by_cases hlt : lowercase name < t.key
      · rw [if_neg hsame, if_pos hlt, List.map_cons, List.map_cons, List.pairwise_cons,
          List.pairwise_cons, hchange]
        refine ⟨List.forall_mem_cons.2 ⟨hlt, fun key hkey => ?_⟩, ht, hrest⟩
        exact hlt.trans (ht key hkey)
      · have hgt : t.key < lowercase name := lt_of_le_of_ne (not_lt.1 hlt) hsame
        rw [if_neg hsame, if_neg hlt, List.map_cons, List.pairwise_cons]
        refine ⟨fun key hkey => ?_, ih hrest⟩
        obtain rfl | hold := (mem_keys_updateIn hchange rest key).1 hkey
        · exact hgt
        · exact ht key hold

theorem find?_updateIn (hchange : ∀ t, (change t).key = t.key) {tables : List Table}
    (h : (tables.map (·.key)).Pairwise (· < ·)) (key : String) :
    (updateIn name change tables).find? (·.key == key) =
      if lowercase name = key then
        some (change ((tables.find? (·.key == key)).getD (blank name)))
      else tables.find? (·.key == key) := by
  induction tables with
  | nil => by_cases hkey : lowercase name = key <;> simp [updateIn, hchange, blank, hkey]
  | cons t rest ih =>
    rw [List.map_cons, List.pairwise_cons] at h
    obtain ⟨ht, hrest⟩ := h
    unfold updateIn
    by_cases hsame : t.key = lowercase name
    · by_cases hkey : lowercase name = key <;> simp [hsame, hchange, hkey]
    · by_cases hlt : lowercase name < t.key
      · by_cases hkey : lowercase name = key
        · subst hkey
          -- All keys behind are greater, so the table is not there.
          have hnone : rest.find? (·.key == lowercase name) = none := by
            rw [List.find?_eq_none]
            intro u hu hukey
            rw [beq_iff_eq] at hukey
            exact lt_irrefl _ ((hlt.trans (ht u.key (List.mem_map_of_mem hu))).trans_eq hukey)
          simp [hsame, hlt, hchange, blank, hnone]
        · simp [hsame, hlt, hchange, hkey]
      · by_cases htkey : t.key = key
        · have hne : lowercase name ≠ key := fun hkey => hsame (htkey.trans hkey.symm)
          rw [if_neg hsame, if_neg hlt, if_neg hne, List.find?_cons_of_pos (by simpa using htkey),
            List.find?_cons_of_pos (by simpa using htkey)]
        · rw [if_neg hsame, if_neg hlt, List.find?_cons_of_neg (by simpa using htkey), ih hrest,
            List.find?_cons_of_neg (by simpa using htkey)]

theorem key_addColumn (column : String) (type? : Option String) (t : Table) :
    (t.addColumn column type?).key = t.key := rfl

variable {s s' : Snapshot}

theorem Ordered.addColumn (h : s.Ordered) (table column : String) (type? : Option String) :
    (s.addColumn table column type?).Ordered :=
  ordered_updateIn (key_addColumn column type?) h

theorem table?_addColumn (h : s.Ordered) (table column : String) (type? : Option String)
    (name : String) : (s.addColumn table column type?).table? name =
      if lowercase table = lowercase name then
        some (((s.table? name).getD (blank table)).addColumn column type?)
      else s.table? name :=
  find?_updateIn (key_addColumn column type?) h (lowercase name)

/-! ## Listings -/

/-- Adds a column as the catalog lists it. -/
def addRecord (s : Snapshot) (r : ColumnRecord) : Snapshot :=
  s.addColumn r.table r.name (some r.innerType)

/-- What is found under a name comes from the rows that name it. -/
theorem table?_foldl_addRecord (rows : List ColumnRecord) (name : String) (h : s.Ordered)
    (h' : s'.Ordered) (hsame : s.table? name = s'.table? name) :
    (rows.foldl addRecord s).table? name =
      ((rows.filter fun r => lowercase r.table == lowercase name).foldl addRecord s').table?
        name := by
  induction rows generalizing s s' with
  | nil => exact hsame
  | cons r rest ih =>
    have hadd : (s.addRecord r).Ordered := h.addColumn ..
    have hadd' : (s'.addRecord r).Ordered := h'.addColumn ..
    rw [List.foldl_cons]
    by_cases hr : lowercase r.table = lowercase name
    · rw [List.filter_cons_of_pos (by simpa using hr), List.foldl_cons]
      refine ih hadd hadd' ?_
      rw [addRecord, addRecord, table?_addColumn h, table?_addColumn h', hsame]
    · rw [List.filter_cons_of_neg (by simpa using hr)]
      refine ih hadd h' ?_
      rw [addRecord, table?_addColumn h, if_neg hr, hsame]

theorem table?_foldl_addRecord_eq_none {rows : List ColumnRecord} (h : s.Ordered)
    (hnone : s.table? name = none) (hrows : ∀ r ∈ rows, lowercase r.table ≠ lowercase name) :
    (rows.foldl addRecord s).table? name = none := by
  rw [table?_foldl_addRecord rows name h h rfl, List.filter_eq_nil_iff.2 (by simpa using hrows)]
  exact hnone

theorem tables_foldl {α : Type} {f : Snapshot → α → Snapshot}
    (hf : ∀ s a, (f s a).tables = s.tables) (xs : List α) (s : Snapshot) :
    (xs.foldl f s).tables = s.tables := by
  induction xs generalizing s with
  | nil => rfl
  | cons x rest ih => rw [List.foldl_cons, ih, hf]

/-- Keys leave the tables as they are. -/
theorem tables_snapshotOf (columns : List ColumnRecord) (keys : List KeyRecord)
    (references : List ReferenceRecord) :
    (Schema.snapshotOf columns keys references).tables =
      (columns.foldl addRecord ({} : Snapshot)).tables := by
  have hkeys : ∀ (s : Snapshot) (k : String × List String),
      (s.setPrimaryKey k.1 k.2).tables = s.tables := fun _ _ => rfl
  have hreferences : ∀ (s : Snapshot) (r : ReferenceRecord), (s.addForeignKey r.referencingTable
      r.referencingColumn r.referencedTable r.referencedColumn).tables = s.tables := fun _ _ => rfl
  rw [Schema.snapshotOf, tables_foldl hreferences, tables_foldl hkeys]
  rfl

theorem table?_of_tables (h : s.tables = s'.tables) (name : String) :
    s.table? name = s'.table? name := by
  rw [table?, table?, h]

theorem ordered_empty : ({} : Snapshot).Ordered := List.Pairwise.nil

/-- A snapshot of the rows that name a table knows as much of it as one of all rows. -/
theorem table?_snapshotOf (columns : List ColumnRecord) (keys keys' : List KeyRecord)
    (references references' : List ReferenceRecord) (name : String) :
    (Schema.snapshotOf columns keys references).table? name =
      (Schema.snapshotOf (columns.filter fun r => lowercase r.table == lowercase name) keys'
        references').table? name := by
  rw [table?_of_tables (tables_snapshotOf ..), table?_of_tables (tables_snapshotOf ..)]
  exact table?_foldl_addRecord columns name ordered_empty ordered_empty rfl

/-- A table that no row names is not there. -/
theorem table?_snapshotOf_eq_none {columns : List ColumnRecord} (keys : List KeyRecord)
    (references : List ReferenceRecord)
    (h : ∀ r ∈ columns, lowercase r.table ≠ lowercase name) :
    (Schema.snapshotOf columns keys references).table? name = none := by
  rw [table?_of_tables (tables_snapshotOf ..)]
  exact table?_foldl_addRecord_eq_none ordered_empty rfl h

end Snapshot
end Granary
