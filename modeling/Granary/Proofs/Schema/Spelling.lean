import Granary.Proofs.Schema.Listing
import Granary.Proofs.Text.Casing
import Granary.Text.Blank
import Mathlib.Data.List.Sort
import Mathlib.Data.List.TakeWhile

/-!
# What a snapshot keeps of a listing

A snapshot looks names up in lower case, so it has one entry for all names that agree but for letter
case.  The first spelling stays, the last type counts, and the columns run together in the order in
which they come; the columns of primary keys are gathered after they have been sorted.  What is said
here of each of these is said of one table, whatever else the listing has.
-/

namespace Granary

open Schema (ColumnRecord KeyRecord ReferenceRecord Table)
open Text (lowercase)

/-! ## Sorting -/

section

variable {α : Type} {before : α → α → Bool}

theorem pairwise_insertBy (htotal : ∀ a b, before a b = false → before b a = true)
    (htrans : ∀ a b c, before a b = true → before b c = true → before a c = true) (x : α)
    {xs : List α} (h : xs.Pairwise fun a b => before a b = true) :
    (insertBy before x xs).Pairwise fun a b => before a b = true := by
  induction xs with
  | nil => exact List.pairwise_singleton _ _
  | cons y rest ih =>
    obtain ⟨hy, hrest⟩ := List.pairwise_cons.1 h
    cases hxy : before x y with
    | true =>
      rw [insertBy, if_pos hxy]
      refine List.pairwise_cons.2 ⟨List.forall_mem_cons.2 ⟨hxy, fun z hz => ?_⟩, h⟩
      exact htrans x y z hxy (hy z hz)
    | false =>
      rw [insertBy, if_neg (by simp [hxy])]
      refine List.pairwise_cons.2 ⟨fun z hz => ?_, ih hrest⟩
      obtain rfl | hz := List.mem_cons.1 ((insertBy_perm before x rest).mem_iff.1 hz)
      · exact htotal z y hxy
      · exact hy z hz

theorem pairwise_sortBy (htotal : ∀ a b, before a b = false → before b a = true)
    (htrans : ∀ a b c, before a b = true → before b c = true → before a c = true) (xs : List α) :
    (sortBy before xs).Pairwise fun a b => before a b = true := by
  induction xs with
  | nil => exact List.Pairwise.nil
  | cons x rest ih => exact pairwise_insertBy htotal htrans x ih

theorem sortBy_of_pairwise {xs : List α} (h : xs.Pairwise fun a b => before a b = true) :
    sortBy before xs = xs := by
  induction xs with
  | nil => rfl
  | cons x rest ih =>
    obtain ⟨hx, hrest⟩ := List.pairwise_cons.1 h
    rw [sortBy, ih hrest]
    cases rest with
    | nil => rfl
    | cons y rest => rw [insertBy, if_pos (hx y List.mem_cons_self)]

end

/-! ## Values under names -/

namespace Named

variable {α β : Type}

theorem get?_append (xs ys : Named α) (name : String) :
    get? (xs ++ ys) name = (xs.get? name).or (get? ys name) := by
  induction xs with
  | nil => rfl
  | cons x rest ih =>
    by_cases h : x.1 = name
    · simp [get?, h]
    · simp [get?, h, ih]

theorem get?_setNew (xs : Named α) (name other : String) (value : α) :
    (xs.setNew name value).get? other =
      (xs.get? other).or (if name = other then some value else none) := by
  rw [setNew]
  split
  · rename_i hthere
    rw [contains] at hthere
    split
    · rename_i hsame
      subst hsame
      obtain ⟨a, ha⟩ := Option.isSome_iff_exists.1 hthere
      rw [ha, Option.some_or]
    · rw [Option.or_none]
  · rw [get?_append]
    rfl

theorem mem_names_set (xs : Named α) (name other : String) (value : α) :
    other ∈ (xs.set name value).map (·.1) ↔ other = name ∨ other ∈ xs.map (·.1) := by
  induction xs with
  | nil => simp [set]
  | cons x rest ih =>
    by_cases h : x.1 = name
    · simp [set, h]
    · rw [set, if_neg h, List.map_cons, List.mem_cons, ih, List.map_cons, List.mem_cons,
        or_left_comm]

theorem nodup_names_set {xs : Named α} (h : (xs.map (·.1)).Nodup) (name : String) (value : α) :
    ((xs.set name value).map (·.1)).Nodup := by
  induction xs with
  | nil => exact List.nodup_singleton name
  | cons x rest ih =>
    obtain ⟨hx, hrest⟩ := List.nodup_cons.1 h
    by_cases hsame : x.1 = name
    · rw [set, if_pos hsame, List.map_cons, ← hsame]
      exact h
    · rw [set, if_neg hsame, List.map_cons]
      refine List.nodup_cons.2 ⟨fun hmem => ?_, ih hrest⟩
      obtain heq | hmem := (mem_names_set rest name x.1 value).1 hmem
      · exact hsame heq
      · exact hx hmem

theorem get?_eq_none {xs : Named α} {name : String} (h : name ∉ xs.map (·.1)) :
    xs.get? name = none := by
  induction xs with
  | nil => rfl
  | cons x rest ih =>
    rw [List.map_cons, List.mem_cons, not_or] at h
    rw [get?, if_neg (Ne.symm h.1), ih h.2]

theorem get?_foldl_set (f : α → β) {xs : Named α} (h : (xs.map (·.1)).Nodup) (start : Named β)
    (name : String) : (xs.foldl (fun found x => found.set x.1 (f x.2)) start).get? name =
      ((xs.get? name).map f).or (start.get? name) := by
  induction xs generalizing start with
  | nil => rfl
  | cons x rest ih =>
    obtain ⟨hx, hrest⟩ := List.nodup_cons.1 h
    rw [List.foldl_cons, ih hrest, get?_set]
    by_cases hsame : x.1 = name
    · subst hsame
      rw [get?_eq_none hx, if_pos rfl, get?, if_pos rfl]
      rfl
    · rw [if_neg hsame, get?, if_neg hsame]

end Named

/-! ## The columns of one table -/

namespace Schema.Table

/-- Adds a column as a listing has it. -/
def addRow (t : Table) (r : ColumnRecord) : Table := t.addColumn r.name (some r.innerType)

/-- A column under the name it is looked up by. -/
def rowKey (r : ColumnRecord) : String := lowercase r.name

theorem nodup_columns_addRow {t : Table} (h : t.columns.Nodup) (r : ColumnRecord) :
    (t.addRow r).columns.Nodup := by
  unfold addRow addColumn
  dsimp only
  split
  · exact h
  · rename_i hnew
    rw [List.contains_iff_mem] at hnew
    exact List.Nodup.append h (List.nodup_singleton _) (List.disjoint_singleton.2 hnew)

theorem nodup_columns_foldl (rows : List ColumnRecord) {t : Table} (h : t.columns.Nodup) :
    (rows.foldl addRow t).columns.Nodup := by
  induction rows generalizing t with
  | nil => exact h
  | cons r rest ih => exact ih (nodup_columns_addRow h r)

/-- Columns that are all new come to stand behind the others. -/
theorem columns_foldl {rows : List ColumnRecord} {t : Table}
    (h : (t.columns ++ rows.map rowKey).Nodup) :
    (rows.foldl addRow t).columns = t.columns ++ rows.map rowKey := by
  induction rows generalizing t with
  | nil => simp
  | cons r rest ih =>
    have hnew : rowKey r ∉ t.columns := by
      rw [List.nodup_append] at h
      intro hmem
      exact h.2.2 _ hmem _ (List.mem_map_of_mem List.mem_cons_self) rfl
    have hadd : (t.addRow r).columns = t.columns ++ [rowKey r] :=
      if_neg fun hthere => hnew (List.contains_iff_mem.1 hthere)
    have hall : t.columns ++ (r :: rest).map rowKey =
        (t.addRow r).columns ++ rest.map rowKey := by
      rw [hadd, List.map_cons, List.append_assoc, List.singleton_append]
    rw [List.foldl_cons, hall]
    exact ih (hall ▸ h)

theorem spelling_foldl (rows : List ColumnRecord) (t : Table) :
    (rows.foldl addRow t).spelling = t.spelling := by
  induction rows generalizing t with
  | nil => rfl
  | cons r rest ih => exact ih _

/-- The first spelling of a column stays. -/
theorem get?_spellings_foldl (rows : List ColumnRecord) (t : Table) (key : String) :
    (rows.foldl addRow t).spellings.get? key =
      (t.spellings.get? key).or ((rows.find? (rowKey · == key)).map (·.name)) := by
  induction rows generalizing t with
  | nil => simp
  | cons r rest ih =>
    have hadd : (t.addRow r).spellings = t.spellings.setNew (rowKey r) r.name := rfl
    rw [List.foldl_cons, ih, hadd, Named.get?_setNew, Option.or_assoc]
    by_cases hsame : rowKey r = key
    · rw [if_pos hsame, List.find?_cons_of_pos (by simpa using hsame)]
      rfl
    · rw [if_neg hsame, List.find?_cons_of_neg (by simpa using hsame), Option.none_or]

theorem get?_types_foldl_of_not_mem {rows : List ColumnRecord} {key : String}
    (h : key ∉ rows.map rowKey) (t : Table) :
    (rows.foldl addRow t).types.get? key = t.types.get? key := by
  induction rows generalizing t with
  | nil => rfl
  | cons r rest ih =>
    rw [List.map_cons, List.mem_cons, not_or] at h
    have hadd : (t.addRow r).types = t.types.set (rowKey r) r.innerType := rfl
    rw [List.foldl_cons, ih h.2, hadd, Named.get?_set, if_neg (Ne.symm h.1)]

theorem get?_types_foldl {rows : List ColumnRecord} (h : (rows.map rowKey).Nodup)
    {r : ColumnRecord} (hr : r ∈ rows) (t : Table) :
    (rows.foldl addRow t).types.get? (rowKey r) = some r.innerType := by
  induction rows generalizing t with
  | nil => exact absurd hr List.not_mem_nil
  | cons x rest ih =>
    obtain ⟨hx, hrest⟩ := List.nodup_cons.1 h
    rw [List.foldl_cons]
    obtain rfl | hr := List.mem_cons.1 hr
    · have hadd : (t.addRow r).types = t.types.set (rowKey r) r.innerType := rfl
      rw [get?_types_foldl_of_not_mem hx, hadd, Named.get?_set, if_pos rfl]
    · exact ih hrest hr _

end Schema.Table

namespace Snapshot

open Schema.Table (addRow rowKey)

theorem table?_foldl_addRecord_of_some {rows : List ColumnRecord} {s : Snapshot} {name : String}
    {t : Table} (h : s.Ordered) (ht : s.table? name = some t)
    (hrows : ∀ r ∈ rows, lowercase r.table = lowercase name) :
    (rows.foldl addRecord s).table? name = some (rows.foldl addRow t) := by
  induction rows generalizing s t with
  | nil => exact ht
  | cons r rest ih =>
    obtain ⟨hr, hrest⟩ := List.forall_mem_cons.1 hrows
    have hadd : (s.addRecord r).table? name = some (t.addRow r) := by
      rw [addRecord, table?_addColumn h, if_pos hr, ht]
      rfl
    exact ih (h.addColumn ..) hadd hrest

/-- What a snapshot knows of a table is put together from its rows, the first of which gives the
spelling. -/
theorem table?_snapshotOf_eq_some {columns : List ColumnRecord} {name : String}
    {first : ColumnRecord} {rest : List ColumnRecord}
    (h : columns.filter (fun r => lowercase r.table == lowercase name) = first :: rest)
    (keys : List KeyRecord) (references : List ReferenceRecord) :
    (Schema.snapshotOf columns keys references).table? name =
      some ((first :: rest).foldl addRow (blank first.table)) := by
  have hrows : ∀ r ∈ first :: rest, lowercase r.table = lowercase name := by
    intro r hr
    rw [← h] at hr
    simpa using (List.mem_filter.1 hr).2
  obtain ⟨hfirst, hrest⟩ := List.forall_mem_cons.1 hrows
  rw [table?_snapshotOf columns keys keys references references, h,
    table?_of_tables (tables_snapshotOf ..), List.foldl_cons, List.foldl_cons]
  refine table?_foldl_addRecord_of_some (ordered_empty.addColumn ..) ?_ hrest
  rw [addRecord, table?_addColumn ordered_empty, if_pos hfirst]
  rfl

/-! ## Primary keys -/

theorem getD_get?_groupKeys (keys : List KeyRecord) (groups : Named (List String))
    (key : String) :
    ((keys.foldl (fun groups k => groups.set (lowercase k.table)
        ((groups.get? (lowercase k.table)).getD [] ++ [lowercase k.column])) groups).get?
          key).getD [] =
      (groups.get? key).getD [] ++
        (keys.filter fun k => lowercase k.table == key).map fun k => lowercase k.column := by
  induction keys generalizing groups with
  | nil => simp
  | cons k rest ih =>
    rw [List.foldl_cons, ih, Named.get?_set]
    by_cases hsame : lowercase k.table = key
    · simp [hsame]
    · simp [hsame]

theorem nodup_names_groupKeys (keys : List KeyRecord) :
    ((Schema.groupKeys keys).map (·.1)).Nodup := by
  rw [Schema.groupKeys]
  generalize sortBy KeyRecord.before keys = sorted
  have hkeep : ∀ (sorted : List KeyRecord) (groups : Named (List String)),
      (groups.map (·.1)).Nodup → ((sorted.foldl (fun groups k => groups.set (lowercase k.table)
        ((groups.get? (lowercase k.table)).getD [] ++ [lowercase k.column])) groups).map
          (·.1)).Nodup := by
    intro sorted
    induction sorted with
    | nil => exact fun groups h => h
    | cons k rest ih => exact fun groups h => ih _ (Named.nodup_names_set h ..)
  exact hkeep sorted [] List.nodup_nil

theorem lowercase_names_groupKeys (keys : List KeyRecord) :
    ∀ name ∈ (Schema.groupKeys keys).map (·.1), lowercase name = name := by
  rw [Schema.groupKeys]
  generalize sortBy KeyRecord.before keys = sorted
  have hkeep : ∀ (sorted : List KeyRecord) (groups : Named (List String)),
      (∀ name ∈ groups.map (·.1), lowercase name = name) →
      ∀ name ∈ (sorted.foldl (fun groups k => groups.set (lowercase k.table)
        ((groups.get? (lowercase k.table)).getD [] ++ [lowercase k.column])) groups).map (·.1),
          lowercase name = name := by
    intro sorted
    induction sorted with
    | nil => exact fun groups h => h
    | cons k rest ih =>
      intro groups h
      refine ih _ fun name hname => ?_
      obtain rfl | hname := (Named.mem_names_set ..).1 hname
      · exact Text.lowercase_lowercase k.table
      · exact h name hname
  exact hkeep sorted [] fun name hname => absurd hname List.not_mem_nil

theorem primaryKeys_foldl (groups : Named (List String)) (s : Snapshot) :
    (groups.foldl (fun s k => s.setPrimaryKey k.1 k.2) s).primaryKeys =
      groups.foldl
        (fun (found : Named (List String)) k => found.set (lowercase k.1) (k.2.map lowercase))
        s.primaryKeys := by
  induction groups generalizing s with
  | nil => rfl
  | cons k rest ih => exact ih _

theorem primaryKeys_foldl_addRecord (rows : List ColumnRecord) (s : Snapshot) :
    (rows.foldl addRecord s).primaryKeys = s.primaryKeys := by
  induction rows generalizing s with
  | nil => rfl
  | cons r rest ih => exact ih _

theorem primaryKeys_foldl_addForeignKey (references : List ReferenceRecord) (s : Snapshot) :
    (references.foldl (fun s r => s.addForeignKey r.referencingTable r.referencingColumn
      r.referencedTable r.referencedColumn) s).primaryKeys = s.primaryKeys := by
  induction references generalizing s with
  | nil => rfl
  | cons r rest ih => exact ih _

/-- Keys are set under their names in lower case, which is how they are grouped already. -/
theorem primaryKeys_snapshotOf (columns : List ColumnRecord) (keys : List KeyRecord)
    (references : List ReferenceRecord) :
    (Schema.snapshotOf columns keys references).primaryKeys =
      (Schema.groupKeys keys).foldl
        (fun (found : Named (List String)) k => found.set k.1 (k.2.map lowercase)) [] := by
  have hstart : (columns.foldl addRecord ({} : Snapshot)).primaryKeys = [] :=
    primaryKeys_foldl_addRecord columns {}
  have hset := primaryKeys_foldl (Schema.groupKeys keys) (columns.foldl addRecord {})
  rw [hstart] at hset
  refine (primaryKeys_foldl_addForeignKey references _).trans (hset.trans ?_)
  refine List.foldl_ext _ _ _ fun found k hk => ?_
  rw [lowercase_names_groupKeys keys k.1 (List.mem_map_of_mem hk)]

/-- The primary key of a table has the columns of the key rows that name it, in any letter case. -/
theorem primaryKeyOf_snapshotOf (columns : List ColumnRecord) (keys : List KeyRecord)
    (references : List ReferenceRecord) (name : String) :
    (Schema.snapshotOf columns keys references).primaryKeyOf name =
      ((sortBy KeyRecord.before keys).filter fun k => lowercase k.table == lowercase name).map
        fun k => lowercase k.column := by
  have hgroups : ((Schema.groupKeys keys).get? (lowercase name)).getD [] =
      ((sortBy KeyRecord.before keys).filter fun k => lowercase k.table == lowercase name).map
        fun k => lowercase k.column :=
    getD_get?_groupKeys (sortBy KeyRecord.before keys) [] (lowercase name)
  have hmap : (((Schema.groupKeys keys).get? (lowercase name)).map (·.map lowercase)).getD [] =
      (((Schema.groupKeys keys).get? (lowercase name)).getD []).map lowercase := by
    cases (Schema.groupKeys keys).get? (lowercase name) <;> rfl
  rw [primaryKeyOf, primaryKeys_snapshotOf, Named.get?_foldl_set _ (nodup_names_groupKeys keys),
    Named.get?_nil, Option.or_none, hmap, hgroups, List.map_map]
  exact List.map_congr_left fun k _ => Text.lowercase_lowercase k.column

end Snapshot

/-! ## Blanks -/

namespace Text

theorem length_lowerBetween (before : List Char) (c : Char) (after : List Char) :
    (lowerBetween before c after).length = if c = 'İ' then 2 else 1 := by
  rw [lowerBetween]
  split
  · rename_i hsigma
    subst hsigma
    rfl
  · split
    · rfl
    · rfl

/-- The dotted capital I is the one character that becomes two. -/
theorem length_lowerFrom (before cs : List Char) :
    (lowerFrom before cs).length = cs.length + cs.count 'İ' := by
  induction cs generalizing before with
  | nil => rfl
  | cons c rest ih =>
    rw [lowerFrom, List.length_append, length_lowerBetween, ih, List.length_cons, List.count_cons]
    simp only [beq_iff_eq]
    split <;> omega

theorem sublist_trimChars (cs : List Char) : (trimChars cs).Sublist cs := by
  have hback : ((cs.dropWhile isBlank).reverse.dropWhile isBlank).Sublist
      (cs.dropWhile isBlank).reverse := List.dropWhile_sublist _
  rw [trimChars]
  refine List.Sublist.trans ?_ (List.dropWhile_sublist isBlank)
  rw [← List.reverse_sublist, List.reverse_reverse]
  exact hback

/-- What is trimmed off cannot come back in lower case. -/
theorem trim_eq_of_lowercase {s : String} (h : lowercase (trim s) = lowercase s) : trim s = s := by
  have hchars : lowerFrom [] (trimChars s.toList) = lowerFrom [] s.toList := by
    have hlists := congrArg String.toList h
    rwa [lowercase, trim, String.toList_ofList, String.toList_ofList, lowercase,
      String.toList_ofList] at hlists
  have hlength := congrArg List.length hchars
  rw [length_lowerFrom, length_lowerFrom] at hlength
  have hsub := sublist_trimChars s.toList
  have hcount : (trimChars s.toList).count 'İ' ≤ s.toList.count 'İ' := hsub.count_le 'İ'
  have hle : (trimChars s.toList).length ≤ s.toList.length := hsub.length_le
  rw [trim, hsub.eq_of_length (by omega), String.ofList_toList]

/-- A text that trimming leaves alone is not all blank, unless it is empty. -/
theorem allBlank_eq_false_of_trim {s : String} (h : trim s = s) (hne : s ≠ "") :
    allBlank s = false := by
  by_contra hblank
  rw [Bool.not_eq_false, allBlank, List.all_eq_true] at hblank
  have hdropped : s.toList.dropWhile isBlank = [] := List.dropWhile_eq_nil_iff.2 hblank
  have htrimmed : trim s = "" := by
    rw [trim, trimChars, hdropped]
    rfl
  exact hne (h.symm.trans htrimmed)

end Text

end Granary
