import Granary.Proofs.Rehearsal.Databases
import Granary.Proofs.Rehearsal.Indexes

/-!
# Which indexes are created

The name of an index joins its table, its column and a word for the kind of the column with
underscores, and is cut and tagged if it is too long.  Neither cutting nor the word brings two names
together, but the joint may: a table `a_b` with a column `c` and a table `a` with a column `b_c`
have the same text between them.  Index names are those of a whole schema, and an index whose name
is taken is silently not created, so the columns of some tables are all indexed exactly if none of
their joint texts coincide (`indexed_iff_unmixed`).
-/

namespace Granary

namespace Digest

def hexDigits : List Char := "0123456789abcdef".toList

theorem digitChar_mem {n : Nat} (h : n < 16) : Nat.digitChar n ∈ hexDigits := by
  revert n
  decide

theorem mem_hex {bytes : List UInt8} {c : Char} (h : c ∈ (hex bytes).toList) : c ∈ hexDigits := by
  rw [hex, String.toList_ofList, List.mem_flatMap] at h
  obtain ⟨b, _, hc⟩ := h
  have hb : b.toNat < 256 := b.toNat_lt
  obtain rfl | hc := List.mem_cons.1 hc
  · exact digitChar_mem (by omega)
  · obtain rfl := List.mem_singleton.1 hc
    exact digitChar_mem (by omega)

theorem length_hex (bytes : List UInt8) : (hex bytes).toList.length = 2 * bytes.length := by
  rw [hex, String.toList_ofList]
  induction bytes with
  | nil => rfl
  | cons b rest ih =>
    rw [List.flatMap_cons, List.length_append, ih, List.length_cons]
    show 2 + _ = _
    omega

theorem length_sha256 (message : List UInt8) : (sha256 message).length = 32 := rfl

end Digest

namespace Replica

open Digest (hexDigits)

/-! ## Names that are cut -/

theorem length_tag (name : String) : (tag name).toList.length = 8 := by
  rw [tag, String.toList_ofList, List.length_take, Digest.length_hex, Digest.length_sha256]
  rfl

theorem mem_tag {name : String} {c : Char} (h : c ∈ (tag name).toList) : c ∈ hexDigits := by
  rw [tag, String.toList_ofList] at h
  exact Digest.mem_hex (List.mem_of_mem_take h)

/-- A name that does not end like a tag. -/
def Untagged (name : String) : Prop :=
  ∃ front back : List Char, name.toList = front ++ back ∧ back.length ≤ 8 ∧
    ∃ c ∈ back, c ∉ hexDigits

theorem Untagged.ne_tagged {name : String} (h : Untagged name) (front other : String) :
    name ≠ front ++ tag other := by
  intro hname
  obtain ⟨before, back, hsplit, hlength, c, hc, hdigit⟩ := h
  rw [hname, String.toList_append] at hsplit
  have hshort : back.length ≤ (tag other).toList.length := by
    rw [length_tag]
    exact hlength
  have hsuffix : back <:+ (tag other).toList :=
    List.suffix_of_suffix_length_le ⟨before, hsplit.symm⟩ ⟨front.toList, rfl⟩ hshort
  exact hdigit (mem_tag (hsuffix.mem hc))

/-- Cutting and tagging keeps names apart, if their tags differ. -/
theorem fitted_inj {name name' : String} (h : Untagged name) (h' : Untagged name')
    (htags : name ≠ name' → tag name ≠ tag name') (hsame : fitted name = fitted name') :
    name = name' := by
  unfold fitted at hsame
  split at hsame
  · split at hsame
    · exact hsame
    · exact absurd hsame (h.ne_tagged _ _)
  · split at hsame
    · exact absurd hsame.symm (h'.ne_tagged _ _)
    · refine Classical.byContradiction fun hne => htags hne ?_
      have hchars := congrArg String.toList hsame
      simp only [String.toList_append] at hchars
      have htail := List.append_inj_right' hchars ((length_tag name).trans (length_tag name').symm)
      exact String.toList_inj.1 htail

/-! ## Names of indexes -/

/-- The name of an index before it is cut. -/
def fullName (table column kind : String) : String :=
  "idx_" ++ table ++ "_" ++ column ++ "_" ++ kind

/-- What the name of an index tells of its table and its column. -/
def jointText (table column : String) : String := table ++ "_" ++ column

theorem kind_cases {type : ColumnType} {kind : String} (h : Postgres.indexKind type = some kind) :
    kind = "date" ∨ kind = "num" := by
  unfold Postgres.indexKind at h
  split at h
  · exact .inl (Option.some.inj h).symm
  · split at h
    · exact .inr (Option.some.inj h).symm
    · cases h

variable {table table' column column' kind kind' : String}

theorem fullName_eq (table column kind : String) :
    fullName table column kind = "idx_" ++ jointText table column ++ ("_" ++ kind) := by
  simp only [fullName, jointText, String.append_assoc]

theorem untagged_fullName (hkind : kind = "date" ∨ kind = "num") :
    Untagged (fullName table column kind) := by
  obtain rfl | rfl := hkind
  · exact ⟨_, "date".toList, String.toList_append, by decide, 't', by decide, by decide⟩
  · exact ⟨_, "num".toList, String.toList_append, by decide, 'm', by decide, by decide⟩

theorem fullName_inj (hkind : kind = "date" ∨ kind = "num")
    (hkind' : kind' = "date" ∨ kind' = "num")
    (h : fullName table column kind = fullName table' column' kind') :
    kind = kind' ∧ jointText table column = jointText table' column' := by
  rw [fullName_eq, fullName_eq] at h
  have hchars : ("idx_" ++ jointText table column).toList ++ ("_" ++ kind).toList =
      ("idx_" ++ jointText table' column').toList ++ ("_" ++ kind').toList := by
    rw [← String.toList_append, ← String.toList_append, h]
  -- The words end differently, so they are the same, and what is before them is too.
  have hlast : ("_" ++ kind).toList.getLast? = ("_" ++ kind').toList.getLast? := by
    have hends := congrArg List.getLast? hchars
    rwa [List.getLast?_append_of_ne_nil _ (by simp), List.getLast?_append_of_ne_nil _ (by simp)]
      at hends
  obtain rfl : kind = kind' := by
    obtain rfl | rfl := hkind <;> obtain rfl | rfl := hkind' <;> first | rfl | cases hlast
  have hfront := List.append_cancel_right hchars
  rw [String.toList_append, String.toList_append] at hfront
  exact ⟨rfl, String.toList_inj.1 (List.append_cancel_left hfront)⟩

/-- The names of two indexes are the same exactly if they tell the same. -/
theorem indexName_eq_iff (hkind : kind = "date" ∨ kind = "num")
    (hkind' : kind' = "date" ∨ kind' = "num")
    (htags : fullName table column kind ≠ fullName table' column' kind' →
      tag (fullName table column kind) ≠ tag (fullName table' column' kind')) :
    indexName table column kind = indexName table' column' kind' ↔
      kind = kind' ∧ jointText table column = jointText table' column' := by
  refine ⟨fun h => ?_, fun ⟨hkinds, hjoint⟩ => ?_⟩
  · exact fullName_inj hkind hkind'
      (fitted_inj (untagged_fullName hkind) (untagged_fullName hkind') htags h)
  · show fitted (fullName _ _ _) = fitted (fullName _ _ _)
    rw [fullName_eq, fullName_eq, hkinds, hjoint]

end Replica

namespace Rehearsal

open Replica (Call Column fullName jointText tag)

/-! ## Columns that are to be indexed -/

/-- A table that is to be finalized. -/
structure Finishing where
  table : String
  key : List String
  columns : List Column

def Finishing.call (f : Finishing) : Call Cursor Loader := .finalize f.table f.key f.columns

/-- A column that is to be indexed, with the word for its kind. -/
structure Wanted where
  table : String
  column : String
  kind : String
  deriving DecidableEq

namespace Wanted

def fullName (a : Wanted) : String := Replica.fullName a.table a.column a.kind

def index (a : Wanted) : Index := ⟨Replica.indexName a.table a.column a.kind, a.table, a.column⟩

theorem index_name (a : Wanted) : a.index.name = Replica.indexName a.table a.column a.kind := rfl

/-- The columns of a table that are to be indexed. -/
def ofTable (f : Finishing) : List Wanted :=
  f.columns.filterMap fun c => (Postgres.indexKind c.type).map (⟨f.table, c.name, ·⟩)

theorem map_index (f : Finishing) : (ofTable f).map index = indexesOf f.table f.columns := by
  rw [ofTable, indexesOf, List.map_filterMap]
  refine List.filterMap_congr fun c _ => ?_
  rw [Option.map_map]
  rfl

theorem kind_of_mem {f : Finishing} {a : Wanted} (h : a ∈ ofTable f) :
    a.kind = "date" ∨ a.kind = "num" := by
  obtain ⟨c, _, hc⟩ := List.mem_filterMap.1 h
  obtain ⟨kind, hkind, rfl⟩ := Option.map_eq_some_iff.1 hc
  exact Replica.kind_cases hkind

end Wanted

/-- The columns of some tables that are to be indexed. -/
def wanted (tables : List Finishing) : List Wanted := tables.flatMap Wanted.ofTable

theorem mem_wanted_cons {f : Finishing} {tables : List Finishing} {a : Wanted} :
    a ∈ wanted (f :: tables) ↔ a ∈ Wanted.ofTable f ∨ a ∈ wanted tables := by
  rw [wanted, List.flatMap_cons, List.mem_append, wanted]

/-- No two columns that are to be indexed for the same reason have the same joint text. -/
def Unmixed (tables : List Finishing) : Prop :=
  ∀ a ∈ wanted tables, ∀ b ∈ wanted tables, a.kind = b.kind →
    jointText a.table a.column = jointText b.table b.column →
      a.table = b.table ∧ a.column = b.column

instance (tables : List Finishing) : Decidable (Unmixed tables) :=
  inferInstanceAs (Decidable (∀ a ∈ wanted tables, ∀ b ∈ wanted tables, a.kind = b.kind →
    jointText a.table a.column = jointText b.table b.column →
      a.table = b.table ∧ a.column = b.column))

namespace Indexed

/-! ## Names that are taken -/

variable {s : Indexed} {i : Index} {name : String}

theorem taken_createIndex (s : Indexed) (i : Index) (name : String) :
    (s.createIndex i).taken name = (s.taken name || i.name == name) := by
  unfold createIndex
  split
  · rename_i htaken
    by_cases hname : i.name = name
    · rw [← hname, htaken, Bool.true_or]
    · rw [beq_eq_false_iff_ne.2 hname, Bool.or_false]
  · simp only [taken, reserved, List.any_append, List.any_cons, List.any_nil, Bool.or_false]
    ac_rfl

theorem taken_foldl_createIndex (s : Indexed) (indexes : List Index) (name : String) :
    (indexes.foldl createIndex s).taken name =
      (s.taken name || indexes.any (·.name == name)) := by
  induction indexes generalizing s with
  | nil => rw [List.foldl_nil, List.any_nil, Bool.or_false]
  | cons i rest ih => rw [List.foldl_cons, ih, taken_createIndex, List.any_cons, Bool.or_assoc]

theorem taken_foldl_of_mem {indexes : List Index} (h : i ∈ indexes) :
    (indexes.foldl createIndex s).taken i.name = true := by
  rw [taken_foldl_createIndex, List.any_eq_true.2 ⟨i, h, beq_self_eq_true i.name⟩, Bool.or_true]

theorem taken_of_mem (h : i ∈ s.indexes) : s.taken i.name = true := by
  rw [taken, reserved, List.any_eq_true.2 ⟨i, h, beq_self_eq_true i.name⟩, Bool.true_or,
    Bool.or_true]

theorem mem_createIndex {j : Index} (h : j ∈ (s.createIndex i).indexes) :
    j ∈ s.indexes ∨ s.taken i.name = false ∧ j = i := by
  unfold createIndex at h
  split at h
  · exact .inl h
  · rename_i hfree
    exact (List.mem_append.1 h).imp id fun hj =>
      ⟨Bool.eq_false_iff.2 hfree, List.mem_singleton.1 hj⟩

theorem mem_createIndex_of_mem {j : Index} (h : j ∈ s.indexes) (i : Index) :
    j ∈ (s.createIndex i).indexes := by
  unfold createIndex
  split
  · exact h
  · exact List.mem_append_left _ h

/-- At most one index has the name. -/
def Single (name : String) (s : Indexed) : Prop :=
  ∀ i ∈ s.indexes, ∀ j ∈ s.indexes, i.name = name → j.name = name → i = j

theorem Single.createIndex (h : s.Single name) (i : Index) : (s.createIndex i).Single name := by
  -- An index that is new has a name that no other has.
  have hnew : ∀ j ∈ s.indexes, s.taken i.name = false → j.name = name → i.name ≠ name := by
    intro j hj hfree hjname hname
    rw [hname, ← hjname, taken_of_mem hj] at hfree
    cases hfree
  intro j hj k hk hjname hkname
  cases mem_createIndex hj with
  | inl hjold =>
    cases mem_createIndex hk with
    | inl hkold => exact h j hjold k hkold hjname hkname
    | inr hknew => exact absurd (hknew.2 ▸ hkname) (hnew j hjold hknew.1 hjname)
  | inr hjnew =>
    cases mem_createIndex hk with
    | inl hkold => exact absurd (hjnew.2 ▸ hjname) (hnew k hkold hjnew.1 hkname)
    | inr hknew => exact hjnew.2.trans hknew.2.symm

/-- A name is taken by one index only. -/
def Owned (i : Index) (s : Indexed) : Prop := s.taken i.name = true → i ∈ s.indexes

theorem Owned.createIndex {j : Index} (h : s.Owned j) (hname : i.name = j.name → i = j) :
    (s.createIndex i).Owned j := by
  intro htaken
  by_cases hold : s.taken j.name = true
  · exact mem_createIndex_of_mem (h hold) i
  · rw [taken_createIndex, Bool.eq_false_iff.2 hold, Bool.false_or] at htaken
    obtain rfl := hname (beq_iff_eq.1 htaken)
    rw [createIndex_of_free (Bool.eq_false_iff.2 hold)]
    exact List.mem_append_right _ (List.mem_singleton.2 rfl)

/-! ## Finalizing tables -/

/-- The tables are finalized one after another. -/
def finish (s : Indexed) (tables : List Finishing) : Indexed :=
  tables.foldl (fun s f => (handle f.call s).2) s

theorem stage_foldl_createIndex (s : Indexed) (indexes : List Index) :
    (indexes.foldl createIndex s).stage = s.stage := by
  induction indexes generalizing s with
  | nil => rfl
  | cons i rest ih =>
    rw [List.foldl_cons, ih]
    unfold createIndex
    split <;> rfl

/-- While nothing fails, finalizing a table creates its indexes and changes no table's name. -/
theorem handle_finalize (hcalm : s.stage.failures = []) (f : Finishing) :
    ∃ stage : Stage, stage.failures = [] ∧
      (∀ name, stage.warehouse.has name = s.stage.warehouse.has name) ∧
      handle f.call s = (.ok (), ((Wanted.ofTable f).map Wanted.index).foldl createIndex
        { s with stage }) := by
  obtain ⟨⟨source, warehouse, leases, failures, trace⟩, indexes, relations⟩ := s
  obtain rfl : failures = [] := hcalm
  refine ⟨_, rfl, fun name => ?_, by rw [Wanted.map_index]; rfl⟩
  show (warehouse.setPrimaryKey f.table f.key).has name = _
  rw [Warehouse.has, Warehouse.table?_setPrimaryKey]
  split
  · rename_i hname
    rw [Option.isSome_map, hname, Warehouse.has]
  · rfl

/-- What holds while nothing fails, since creating an index keeps it. -/
theorem finish_preserves {P : Indexed → Prop} {tables : List Finishing}
    (hcreate : ∀ a ∈ wanted tables, ∀ u, P u → P (u.createIndex a.index))
    (hstage : ∀ (u : Indexed) (stage : Stage),
      (∀ name, stage.warehouse.has name = u.stage.warehouse.has name) → P u → P { u with stage })
    (hcalm : s.stage.failures = []) (h : P s) : P (s.finish tables) := by
  induction tables generalizing s with
  | nil => exact h
  | cons f rest ih =>
    obtain ⟨stage, hcalm', hhas, hhandle⟩ := handle_finalize hcalm f
    rw [finish, List.foldl_cons, hhandle]
    refine ih (fun a ha => hcreate a (mem_wanted_cons.2 (.inr ha))) ?_ ?_
    · rw [stage_foldl_createIndex]
      exact hcalm'
    · refine List.foldlRecOn _ createIndex (hstage s stage hhas h) fun u hu i hi => ?_
      obtain ⟨a, ha, rfl⟩ := List.mem_map.1 hi
      exact hcreate a (mem_wanted_cons.2 (.inl ha)) u hu

/-- In the end every name that is wanted is taken. -/
theorem taken_finish {tables : List Finishing} (hcalm : s.stage.failures = []) {a : Wanted}
    (ha : a ∈ wanted tables) : (s.finish tables).taken a.index.name = true := by
  induction tables generalizing s with
  | nil => cases ha
  | cons f rest ih =>
    obtain ⟨stage, hcalm', _, hhandle⟩ := handle_finalize hcalm f
    rw [finish, List.foldl_cons, hhandle]
    have hcalm'' : (((Wanted.ofTable f).map Wanted.index).foldl createIndex
        { s with stage }).stage.failures = [] := by
      rw [stage_foldl_createIndex]
      exact hcalm'
    obtain ha | ha := mem_wanted_cons.1 ha
    · refine finish_preserves (P := (·.taken a.index.name = true)) (fun b _ u hu => ?_)
        (fun u stage hhas hu => ?_) hcalm'' ?_
      · rw [taken_createIndex, hu, Bool.true_or]
      · rw [taken, hhas]
        exact hu
      · exact taken_foldl_of_mem (List.mem_map_of_mem ha)
    · exact ih hcalm'' ha

theorem single_finish {tables : List Finishing} (hcalm : s.stage.failures = [])
    (hfree : s.taken name = false) : (s.finish tables).Single name := by
  refine finish_preserves (fun a _ u hu => hu.createIndex a.index) (fun _ _ _ hu => hu) hcalm ?_
  intro i hi j _ hname
  have htaken := taken_of_mem hi
  rw [hname, hfree] at htaken
  cases htaken

/-- An index is created in the end if no other of its name is wanted. -/
theorem mem_finish {tables : List Finishing} (hcalm : s.stage.failures = []) {a : Wanted}
    (ha : a ∈ wanted tables) (hfree : s.taken a.index.name = false)
    (hown : ∀ b ∈ wanted tables, b.index.name = a.index.name → b.index = a.index) :
    a.index ∈ (s.finish tables).indexes := by
  have howned : (s.finish tables).Owned a.index := by
    refine finish_preserves (fun b hb u hu => hu.createIndex (hown b hb))
      (fun u stage hhas hu htaken => ?_) hcalm fun htaken => ?_
    · rw [taken, hhas] at htaken
      exact hu htaken
    · rw [hfree] at htaken
      cases htaken
  exact howned (taken_finish hcalm ha)

end Indexed

/-! ## Which indexes are there -/

theorem index_name_eq_iff {tables : List Finishing} {a b : Wanted} (ha : a ∈ wanted tables)
    (hb : b ∈ wanted tables) (htags : a.fullName ≠ b.fullName → tag a.fullName ≠ tag b.fullName) :
    a.index.name = b.index.name ↔
      a.kind = b.kind ∧ jointText a.table a.column = jointText b.table b.column := by
  obtain ⟨f, _, haf⟩ := List.mem_flatMap.1 ha
  obtain ⟨g, _, hbg⟩ := List.mem_flatMap.1 hb
  rw [Wanted.index_name, Wanted.index_name]
  exact Replica.indexName_eq_iff (Wanted.kind_of_mem haf) (Wanted.kind_of_mem hbg) htags

/-- Indexes of different columns have different names, and all columns are indexed in the end,
exactly if no joint texts coincide. -/
theorem indexed_iff_unmixed {s : Indexed} {tables : List Finishing}
    (hcalm : s.stage.failures = []) (hfree : ∀ a ∈ wanted tables, s.taken a.index.name = false)
    (htags : ∀ a ∈ wanted tables, ∀ b ∈ wanted tables,
      a.fullName ≠ b.fullName → tag a.fullName ≠ tag b.fullName) :
    ((∀ a ∈ wanted tables, ∀ b ∈ wanted tables, a.index.name = b.index.name →
      a.table = b.table ∧ a.column = b.column) ↔ Unmixed tables) ∧
    ((∀ a ∈ wanted tables, a.index ∈ (s.finish tables).indexes) ↔ Unmixed tables) := by
  have hnames : ∀ a ∈ wanted tables, ∀ b ∈ wanted tables, a.index.name = b.index.name ↔
      a.kind = b.kind ∧ jointText a.table a.column = jointText b.table b.column :=
    fun a ha b hb => index_name_eq_iff ha hb (htags a ha b hb)
  have hapart : (∀ a ∈ wanted tables, ∀ b ∈ wanted tables, a.index.name = b.index.name →
      a.table = b.table ∧ a.column = b.column) ↔ Unmixed tables := by
    refine ⟨fun h a ha b hb hkind hjoint => ?_, fun h a ha b hb hname => ?_⟩
    · exact h a ha b hb ((hnames a ha b hb).2 ⟨hkind, hjoint⟩)
    · obtain ⟨hkind, hjoint⟩ := (hnames a ha b hb).1 hname
      exact h a ha b hb hkind hjoint
  refine ⟨hapart, fun hall a ha b hb hkind hjoint => ?_, fun hunmixed a ha => ?_⟩
  · -- Both indexes are there, but only one has the name.
    have hname := (hnames a ha b hb).2 ⟨hkind, hjoint⟩
    have hsame :=
      Indexed.single_finish hcalm (hfree a ha) _ (hall a ha) _ (hall b hb) rfl hname.symm
    exact ⟨congrArg Index.table hsame, congrArg Index.column hsame⟩
  · refine Indexed.mem_finish hcalm ha (hfree a ha) fun b hb hname => ?_
    obtain ⟨htable, hcolumn⟩ := hapart.2 hunmixed b hb a ha hname
    exact Index.mk.injEq .. ▸ ⟨hname, htable, hcolumn⟩

/-- Two columns whose index names are too long, and differ behind what is kept of them. -/
def events : List Finishing :=
  [⟨"warehouse_of_the_whole_company__events_of_customers", [],
    [⟨"created_at_utc", .timestamp, false, false⟩, ⟨"updated_at_utc", .timestamp, true, false⟩]⟩]

theorem events_indexed :
    Unmixed events ∧
      (⟨"warehouse_of_the_whole_company__events_of_customers", "created_at_utc", "date"⟩ :
        Wanted).index ∈ (Indexed.finish {} events).indexes ∧
      (⟨"warehouse_of_the_whole_company__events_of_customers", "updated_at_utc", "date"⟩ :
        Wanted).index ∈ (Indexed.finish {} events).indexes := by
  have hunmixed : Unmixed events := by decide +kernel
  have hall : ∀ a ∈ wanted events, a.index ∈ (Indexed.finish {} events).indexes :=
    (indexed_iff_unmixed rfl (by decide +kernel) (by decide +kernel)).2.2 hunmixed
  exact ⟨hunmixed, hall _ (by decide +kernel), hall _ (by decide +kernel)⟩

/-- The column `line_id` of one table and the column `id` of another. -/
def orderLines : List Finishing :=
  [⟨"shop__orders", [], [⟨"line_id", .integer, false, false⟩]⟩,
    ⟨"shop__orders_line", [], [⟨"id", .integer, false, false⟩]⟩]

/-- Both indexes would have one name, so the second column is not indexed. -/
theorem orderLines_not_indexed :
    wanted orderLines = [⟨"shop__orders", "line_id", "num"⟩, ⟨"shop__orders_line", "id", "num"⟩] ∧
      (wanted orderLines).map (·.index.name) =
        ["idx_shop__orders_line_id_num", "idx_shop__orders_line_id_num"] ∧
      (Indexed.finish {} orderLines).indexes =
        [⟨"idx_shop__orders_line_id_num", "shop__orders", "line_id"⟩] := by
  decide +kernel

end Rehearsal
end Granary
