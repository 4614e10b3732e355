import Granary.Proofs.Schema.Built

/-!
# Tables as they are listed

A snapshot is faithful to a listing if it has every table with its own columns, types and primary
key, all as they are spelled, and if a request that names a table reads from that table:
`Faithful`.  Nothing but letter case and blanks stands in the way (`faithful_snapshotOf`): a catalog
may hold names that agree but for letter case, and these come to one entry of the snapshot, and a
name that begins or ends with a blank is never found, since requests are trimmed.
-/

namespace Granary

open Outcome
open Schema (ColumnRecord KeyRecord ReferenceRecord Table)
open Text (lowercase trim)

namespace Schema

theorem KeyRecord.before_total (a b : KeyRecord) (h : a.before b = false) :
    b.before a = true := by
  simp only [before, Bool.or_eq_false_iff, decide_eq_false_iff_not, not_lt, Bool.and_eq_false_iff,
    beq_eq_false_iff_ne, not_le] at h
  obtain hlt | heq := lt_or_eq_of_le h.1
  · simp [before, hlt]
  · have hpos := h.2.resolve_left fun hne => hne heq.symm
    simp [before, heq, hpos.le]

theorem KeyRecord.before_trans (a b c : KeyRecord) (hab : a.before b = true)
    (hbc : b.before c = true) : a.before c = true := by
  simp only [before, Bool.or_eq_true, decide_eq_true_eq, Bool.and_eq_true, beq_iff_eq] at hab hbc ⊢
  obtain hab | ⟨hab, hab'⟩ := hab
  · obtain hbc | ⟨hbc, _⟩ := hbc
    · exact .inl (hab.trans hbc)
    · exact .inl (hbc ▸ hab)
  · obtain hbc | ⟨hbc, hbc'⟩ := hbc
    · exact .inl (hab ▸ hbc)
    · exact .inr ⟨hab.trans hbc, hab'.trans hbc'⟩

/-- The rows of one table, in ordinal order. -/
def rowsOf (columns : List ColumnRecord) (table : String) : List ColumnRecord :=
  sortBy (fun a b => a.ordinal ≤ b.ordinal) (columns.filter (·.table == table))

/-- The rows of one primary key, in the order of their positions. -/
def keyRowsOf (keys : List KeyRecord) (table : String) : List KeyRecord :=
  sortBy (fun a b => a.position ≤ b.position) (keys.filter (·.table == table))

/-- A listing as a server makes it: the columns of every table come in ordinal order, and keys come
in any order and name columns that are listed. -/
structure Listed (columns : List ColumnRecord) (keys : List KeyRecord) : Prop where
  named : ∀ r ∈ columns, r.table ≠ ""
  ordered : columns.Pairwise fun a b => a.table = b.table → a.ordinal < b.ordinal
  distinct : columns.Pairwise fun a b => a.table = b.table → a.name ≠ b.name
  placed : ∀ a ∈ keys, ∀ b ∈ keys, a.table = b.table → a.position = b.position → a = b
  keyed : ∀ k ∈ keys, ∃ r ∈ columns, r.table = k.table ∧ r.name = k.column

/-- Nothing that a request can say takes the table or one of its columns for another: its name is
not changed by trimming, and no name beside it agrees with it but for letter case. -/
structure Unmistakable (columns : List ColumnRecord) (table : String) : Prop where
  trimmed : trim table = table
  alone : ∀ r ∈ columns, lowercase r.table = lowercase table → r.table = table
  apart : ∀ a ∈ columns, ∀ b ∈ columns, a.table = table → b.table = table →
    lowercase a.name = lowercase b.name → a.name = b.name

/-- The snapshot has the table as it is listed, and requests that name it read from it. -/
structure Faithful (s : Snapshot) (columns : List ColumnRecord) (keys : List KeyRecord)
    (table : String) : Prop where
  spelling : s.tableSpelling table = table
  listed : s.columns? table = some ((rowsOf columns table).map fun r => lowercase r.name)
  spellings : ∀ r ∈ rowsOf columns table, s.columnSpelling table r.name = r.name
  types : ∀ r ∈ rowsOf columns table, s.columnType? table r.name = some r.innerType
  primaryKey : s.primaryKeyOf table = (keyRowsOf keys table).map fun k => lowercase k.column
  /-- Whatever else a request asks for, it reads from the table. -/
  source : ∀ (r : Request) (st : Statement), r.table = table → r.compile (some s) = .ok st →
    st.query.source = ⟨table, none⟩
  /-- A request that asks for nothing else compiles. -/
  compiles : ∃ st, ({ table := table } : Request).compile (some s) = .ok st

end Schema

open Schema

section

variable {columns : List ColumnRecord} {keys : List KeyRecord} {references : List ReferenceRecord}
  {table : String}

theorem Schema.Listed.rowsOf_eq (h : Listed columns keys) (table : String) :
    rowsOf columns table = columns.filter (·.table == table) := by
  refine sortBy_of_pairwise ?_
  have hrows := h.ordered.filter (·.table == table)
  refine hrows.imp_of_mem fun {a b} ha hb hlt => ?_
  have ha : a.table = table := by simpa using (List.mem_filter.1 ha).2
  have hb : b.table = table := by simpa using (List.mem_filter.1 hb).2
  exact decide_eq_true (hlt (ha.trans hb.symm)).le

/-- The key rows of a table lie in the order of their positions wherever rows are sorted by table
first. -/
theorem Schema.Listed.keyRowsOf_eq (h : Listed columns keys) (table : String) :
    (sortBy KeyRecord.before keys).filter (·.table == table) = keyRowsOf keys table := by
  have hsorted : ((sortBy KeyRecord.before keys).filter (·.table == table)).Pairwise
      fun a b => a.position ≤ b.position := by
    have hsort := pairwise_sortBy KeyRecord.before_total KeyRecord.before_trans keys
    refine (hsort.filter _).imp_of_mem fun {a b} ha hb hab => ?_
    have ha : a.table = table := by simpa using (List.mem_filter.1 ha).2
    have hb : b.table = table := by simpa using (List.mem_filter.1 hb).2
    simpa [KeyRecord.before, ha, hb] using hab
  have hkey : (keyRowsOf keys table).Pairwise fun a b => a.position ≤ b.position := by
    have hsort : (keyRowsOf keys table).Pairwise
        fun a b => decide (a.position ≤ b.position) = true :=
      pairwise_sortBy (fun a b hab => by simp at hab ⊢; omega)
        (fun a b c hab hbc => by simp at hab hbc ⊢; omega) (keys.filter (·.table == table))
    exact hsort.imp fun hab => of_decide_eq_true hab
  have hperm : ((sortBy KeyRecord.before keys).filter (·.table == table)).Perm
      (keyRowsOf keys table) :=
    ((sortBy_perm KeyRecord.before keys).filter _).trans (sortBy_perm _ _).symm
  refine hperm.eq_of_pairwise (fun a b ha hb hab hba => ?_) hsorted hkey
  -- Two rows of one key have distinct positions.
  have ha := List.mem_filter.1 ha
  have hb := List.mem_filter.1 (hperm.mem_iff.2 hb)
  have hmem : ∀ k ∈ sortBy KeyRecord.before keys, k ∈ keys :=
    fun k => (sortBy_perm KeyRecord.before keys).mem_iff.1
  have htables : a.table = b.table := by rw [beq_iff_eq.1 ha.2, beq_iff_eq.1 hb.2]
  exact h.placed a (hmem a ha.1) b (hmem b hb.1) htables (hab.antisymm hba)

/-! ## What an unmistakable table comes to -/

section

variable (h : Listed columns keys) (hu : Unmistakable columns table)
include h hu

omit h in
/-- The rows that name the table in any letter case are its own. -/
theorem Schema.Unmistakable.filter_eq :
    columns.filter (fun r => lowercase r.table == lowercase table) =
      columns.filter (·.table == table) := by
  refine List.filter_congr fun r hr => ?_
  rw [Bool.eq_iff_iff, beq_iff_eq, beq_iff_eq]
  exact ⟨hu.alone r hr, congrArg lowercase⟩

theorem Schema.Unmistakable.filter_keys_eq :
    (sortBy KeyRecord.before keys).filter (fun k => lowercase k.table == lowercase table) =
      keyRowsOf keys table := by
  rw [← h.keyRowsOf_eq]
  refine List.filter_congr fun k hk => ?_
  rw [Bool.eq_iff_iff, beq_iff_eq, beq_iff_eq]
  refine ⟨fun hsame => ?_, congrArg lowercase⟩
  obtain ⟨r, hr, hrk, _⟩ := h.keyed k ((sortBy_perm KeyRecord.before keys).mem_iff.1 hk)
  rw [← hrk] at hsame ⊢
  exact hu.alone r hr hsame

theorem Schema.Unmistakable.nodup_rowKey :
    ((columns.filter (·.table == table)).map Table.rowKey).Nodup := by
  refine List.pairwise_map.2 ((h.distinct.filter _).imp_of_mem fun {a b} ha hb hne => ?_)
  obtain ⟨ha, hat⟩ := List.mem_filter.1 ha
  obtain ⟨hb, hbt⟩ := List.mem_filter.1 hb
  rw [beq_iff_eq] at hat hbt
  exact fun hsame => hne (hat.trans hbt.symm) (hu.apart a ha b hb hat hbt hsame)

theorem Schema.Unmistakable.table?_eq (hlisted : ∃ r ∈ columns, r.table = table)
    (references : List ReferenceRecord) :
    (snapshotOf columns keys references).table? table =
      some ((rowsOf columns table).foldl Table.addRow (Snapshot.blank table)) := by
  obtain ⟨r, hr, hrt⟩ := hlisted
  have hmem : r ∈ columns.filter (·.table == table) :=
    List.mem_filter.2 ⟨hr, beq_iff_eq.2 hrt⟩
  rw [h.rowsOf_eq]
  cases hrows : columns.filter (·.table == table) with
  | nil =>
    rw [hrows] at hmem
    exact absurd hmem List.not_mem_nil
  | cons first rest =>
    have hfirst : first.table = table := by
      have hin : first ∈ columns.filter (·.table == table) := hrows ▸ List.mem_cons_self
      exact beq_iff_eq.1 (List.mem_filter.1 hin).2
    rw [Snapshot.table?_snapshotOf_eq_some (hu.filter_eq.trans hrows), hfirst]

end

/-- A request reads from its root table as the snapshot spells it. -/
theorem Request.source_of_compile {r : Request} {s : Snapshot} {st : Statement}
    (hst : r.compile (some s) = .ok st) :
    st.query.source = ⟨s.tableSpelling (trim r.table), none⟩ := by
  obtain ⟨stages, hof, rfl⟩ := compile_eq_ok_iff.1 hst
  have hsnapshot : stages.scope.snapshot? = some s := by rw [hof.scope_eq, r.snapshot?_scope]
  have hroot : s.tableSpelling r.root = s.tableSpelling (trim r.table) := by
    rw [Snapshot.tableSpelling, Snapshot.tableSpelling, Snapshot.table?, Snapshot.table?,
      r.lowercase_root, Request.root]
  rw [← hroot]
  simp only [Stages.statement, JoinPlan.spelling, hsnapshot]

/-- A request for nothing compiles if its table is there. -/
theorem Request.compile_bare {s : Snapshot} (hblank : Text.allBlank table = false)
    (hthere : s.hasTable (trim table) = true) :
    ∃ st, ({ table := table } : Request).compile (some s) = .ok st := by
  have hroot : s.hasTable (lowercase (trim table)) = true := by
    rw [← hthere, Snapshot.hasTable, Snapshot.hasTable, Snapshot.table?, Snapshot.table?,
      Text.lowercase_lowercase]
  let bare : Request := { table := table }
  let stages : Request.Stages :=
    ⟨JoinPlan.start ⟨lowercase bare.root, [], some s⟩, none, [], [], {}, [], none⟩
  have hvalid : bare.validate = .ok () := by simp [bare, Request.validate, hblank]; rfl
  have hcheck : JoinPlan.checkTable ⟨bare.root, [], some s⟩ bare.root = .ok () := by
    simp [JoinPlan.checkTable, bare, Request.root, hroot]
  have hof : stages.Of bare (some s) := ⟨hvalid, hcheck, rfl, rfl, rfl, rfl, rfl, rfl⟩
  exact ⟨stages.statement bare, Request.compile_eq_ok_iff.2 ⟨stages, hof, rfl⟩⟩

theorem Schema.Unmistakable.faithful (h : Listed columns keys) (hu : Unmistakable columns table)
    (hlisted : ∃ r ∈ columns, r.table = table) (references : List ReferenceRecord) :
    Faithful (snapshotOf columns keys references) columns keys table := by
  have htable := hu.table?_eq h hlisted references
  have hnodup := hu.nodup_rowKey h
  rw [← h.rowsOf_eq] at hnodup
  have hspelling : (snapshotOf columns keys references).tableSpelling table = table := by
    rw [Snapshot.tableSpelling, htable, Option.map_some, Option.getD_some, Table.spelling_foldl]
    rfl
  refine ⟨hspelling, ?_, fun r hr => ?_, fun r hr => ?_, ?_, fun r st hr hst => ?_, ?_⟩
  · rw [Snapshot.columns?, htable, Option.map_some,
      Table.columns_foldl (by simpa [Snapshot.blank] using hnodup)]
    rfl
  · -- The first row of a key is the only one, so the first spelling is its own.
    have hfind : (rowsOf columns table).find? (Table.rowKey · == Table.rowKey r) = some r := by
      have hfound : ((rowsOf columns table).find? (Table.rowKey · == Table.rowKey r)).isSome :=
        List.find?_isSome.2 ⟨r, hr, beq_self_eq_true (Table.rowKey r)⟩
      obtain ⟨x, hx⟩ := Option.isSome_iff_exists.1 hfound
      have hkey : Table.rowKey x = Table.rowKey r := by simpa using List.find?_some hx
      rw [hx, List.inj_on_of_nodup_map hnodup (List.mem_of_find?_eq_some hx) hr hkey]
    have hspellings := Table.get?_spellings_foldl (rowsOf columns table) (Snapshot.blank table)
      (Table.rowKey r)
    rw [hfind] at hspellings
    rw [Snapshot.columnSpelling, htable]
    exact congrArg (Option.getD · _) hspellings
  · rw [Snapshot.columnType?, htable]
    exact Table.get?_types_foldl hnodup hr _
  · rw [Snapshot.primaryKeyOf_snapshotOf, hu.filter_keys_eq h]
  · rw [Request.source_of_compile hst, hr, hu.trimmed, hspelling]
  · have hthere : (snapshotOf columns keys references).hasTable (trim table) = true := by
      rw [hu.trimmed, Snapshot.hasTable, htable]
      rfl
    obtain ⟨r, hr, hrt⟩ := hlisted
    refine Request.compile_bare ?_ hthere
    exact Text.allBlank_eq_false_of_trim hu.trimmed (hrt ▸ h.named r hr)

/-! ## What a faithful snapshot comes from -/

theorem Schema.nodup_of_columns? {names : List String}
    (h : (snapshotOf columns keys references).columns? table = some names) : names.Nodup := by
  rw [Snapshot.columns?] at h
  obtain ⟨t, ht, rfl⟩ := Option.map_eq_some_iff.1 h
  cases hrows : columns.filter (fun r => lowercase r.table == lowercase table) with
  | nil =>
    have hnone : ∀ r ∈ columns, lowercase r.table ≠ lowercase table := fun r hr hsame =>
      List.filter_eq_nil_iff.1 hrows r hr (beq_iff_eq.2 hsame)
    rw [Snapshot.table?_snapshotOf_eq_none keys references hnone] at ht
    cases ht
  | cons first rest =>
    rw [Snapshot.table?_snapshotOf_eq_some hrows] at ht
    rw [← Option.some.inj ht]
    exact Table.nodup_columns_foldl _ List.nodup_nil

theorem Schema.unmistakable_of_faithful
    (h : ∀ r ∈ columns, Faithful (snapshotOf columns keys references) columns keys r.table)
    {r : ColumnRecord} (hr : r ∈ columns) : Unmistakable columns r.table := by
  have hf := h r hr
  refine ⟨?_, fun other hother hsame => ?_, fun a ha b hb hat hbt hsame => ?_⟩
  · -- The table is read from by a request that names it, and so has the name as it is trimmed.
    obtain ⟨st, hst⟩ := hf.compiles
    have hread := Request.source_of_compile hst
    rw [hf.source _ st rfl hst] at hread
    have hspelled : r.table = (snapshotOf columns keys references).tableSpelling (trim r.table) :=
      congrArg (·.name) hread
    have hlower := Snapshot.lowercase_tableSpelling
      (Snapshot.built_snapshotOf columns keys references).isSpelled (trim r.table)
    rw [← hspelled] at hlower
    exact Text.trim_eq_of_lowercase hlower.symm
  · -- Names that agree but for letter case are given one spelling, which cannot be right for both.
    rw [← hf.spelling, ← (h other hother).spelling, Snapshot.tableSpelling,
      Snapshot.tableSpelling, Snapshot.table?, Snapshot.table?, hsame]
  · have hnodup := nodup_of_columns? hf.listed
    have hrow : ∀ c ∈ columns, c.table = r.table → c ∈ rowsOf columns r.table :=
      fun c hc hct => (sortBy_perm _ _).mem_iff.2 (List.mem_filter.2 ⟨hc, beq_iff_eq.2 hct⟩)
    rw [List.inj_on_of_nodup_map hnodup (hrow a ha hat) (hrow b hb hbt) hsame]

/-- A table that cannot be mistaken is known as it is listed, and so all tables are known as they
are listed exactly if none can be mistaken. -/
theorem Schema.faithful_snapshotOf (h : Listed columns keys) (references : List ReferenceRecord) :
    (∀ r ∈ columns, Unmistakable columns r.table →
      Faithful (snapshotOf columns keys references) columns keys r.table) ∧
    ((∀ r ∈ columns, Faithful (snapshotOf columns keys references) columns keys r.table) ↔
      ∀ r ∈ columns, Unmistakable columns r.table) := by
  have hfaithful : ∀ r ∈ columns, Unmistakable columns r.table →
      Faithful (snapshotOf columns keys references) columns keys r.table :=
    fun r hr hu => hu.faithful h ⟨r, hr, rfl⟩ references
  refine ⟨hfaithful, fun hall r hr => unmistakable_of_faithful hall hr, fun hall r hr => ?_⟩
  exact hfaithful r hr (hall r hr)

end

/-- A shop whose tables are spelled in capitals, with a key that is listed backwards. -/
def capitalRows : List ColumnRecord :=
  [⟨"Orders", "ID", "integer", "int4", false, 1, none, none, none⟩,
    ⟨"Orders", "Region", "text", "text", false, 2, none, none, none⟩,
    ⟨"customers", "id", "uuid", "uuid", false, 1, none, none, none⟩]

def capitalKeys : List KeyRecord := [⟨"Orders", "ID", 2⟩, ⟨"Orders", "Region", 1⟩]

theorem faithful_capitalRows : Listed capitalRows capitalKeys ∧
    ∀ r ∈ capitalRows, Faithful (snapshotOf capitalRows capitalKeys []) capitalRows capitalKeys
      r.table := by
  have hlisted : Listed capitalRows capitalKeys := by
    constructor <;> decide +kernel
  refine ⟨hlisted, (Schema.faithful_snapshotOf hlisted []).2.2 ?_⟩
  have htrimmed : ∀ r ∈ capitalRows, trim r.table = r.table := by decide +kernel
  have halone : ∀ t ∈ capitalRows, ∀ r ∈ capitalRows, lowercase r.table = lowercase t.table →
      r.table = t.table := by decide +kernel
  have hapart : ∀ t ∈ capitalRows, ∀ a ∈ capitalRows, ∀ b ∈ capitalRows, a.table = t.table →
      b.table = t.table → lowercase a.name = lowercase b.name → a.name = b.name := by
    decide +kernel
  exact fun r hr => ⟨htrimmed r hr, halone r hr, hapart r hr⟩

/-- A warehouse with the tables of a source that has both `Users` and `users`. -/
def userRows : List ColumnRecord :=
  [⟨"Users", "id", "integer", "int4", false, 1, none, none, none⟩,
    ⟨"users", "id", "uuid", "uuid", false, 1, none, none, none⟩,
    ⟨"users", "email", "text", "text", true, 2, none, none, none⟩]

/-- A request for `users` is one for `Users`. -/
theorem not_faithful_userRows : Listed userRows [] ∧
    (∃ r ∈ userRows, r.table = "users") ∧
    ¬ Faithful (snapshotOf userRows [] []) userRows [] "users" ∧
    ∃ st, ({ table := "users", dimensions := ["email"] } : Request).compile
      (some (snapshotOf userRows [] [])) = .ok st ∧ st.query.source = ⟨"Users", none⟩ := by
  have hlisted : Listed userRows [] := by
    constructor <;> decide +kernel
  have hspelling : (snapshotOf userRows [] []).tableSpelling "users" = "Users" := by
    decide +kernel
  have hcompiles : (({ table := "users", dimensions := ["email"] } : Request).compile
      (some (snapshotOf userRows [] []))).toOption.isSome = true := by decide +kernel
  obtain ⟨st, hst⟩ := Option.isSome_iff_exists.1 hcompiles
  have hst := toOption_eq_some.1 hst
  refine ⟨hlisted, by decide, fun hf => ?_, st, hst, ?_⟩
  · exact absurd (hspelling.symm.trans hf.spelling) (by decide)
  · have htrim : trim "users" = "users" := by decide +kernel
    rw [Request.source_of_compile hst, htrim, hspelling]

end Granary
