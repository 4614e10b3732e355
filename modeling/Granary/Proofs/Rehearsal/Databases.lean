import Granary.Rehearsal.Replication
import Mathlib.Data.String.Basic
import Mathlib.Order.Basic

/-!
# What calls do to the databases

The tables of a warehouse are told apart by their names.  Putting or dropping a table leaves those
of other names alone, in any selection of tables by their names, and keeps the names in order.

`Stage.effect_of_handle` then says once what each call can do: however its failures are planned, it
leaves the source alone, and it either leaves the warehouse alone or changes one table of it.
-/

namespace Granary
namespace Rehearsal

open Replica (Answer Call LoadMode SourceTable)

namespace Warehouse

/-! ## Tables by their names -/

theorem find?_putIn (t : StoredTable) (tables : List StoredTable) (name : String) :
    (putIn t tables).find? (·.name == name) =
      if t.name = name then some t else tables.find? (·.name == name) := by
  induction tables with
  | nil => by_cases h : t.name = name <;> simp [putIn, h]
  | cons other rest ih =>
    unfold putIn
    by_cases h : t.name = name
    · subst h
      by_cases hsame : t.name = other.name
      · simp [hsame]
      · have hother : other.name ≠ t.name := Ne.symm hsame
        by_cases hlt : t.name < other.name
        · simp [hsame, hlt]
        · simp [hsame, hlt, hother, ih]
    · by_cases hsame : t.name = other.name
      · have hother : other.name ≠ name := hsame ▸ h
        simp [hsame, hother]
      · by_cases hlt : t.name < other.name
        · simp [hsame, hlt, h]
        · by_cases hother : other.name = name
          · subst hother
            simp [hsame, hlt]
          · simp [hsame, hlt, hother, ih, h]

theorem table?_put (w : Warehouse) (t : StoredTable) (name : String) :
    (w.put t).table? name = if t.name = name then some t else w.table? name :=
  find?_putIn t w.tables name

theorem name_of_table? {w : Warehouse} {name : String} {t : StoredTable}
    (h : w.table? name = some t) : t.name = name := by
  have hname := List.find?_some h
  simpa using hname

theorem has_iff {w : Warehouse} {name : String} :
    w.has name = true ↔ name ∈ w.tables.map (·.name) := by
  rw [has, table?, List.find?_isSome, List.mem_map]
  simp only [beq_iff_eq]

theorem mem_startingWith {w : Warehouse} {stem name : String} : name ∈ w.startingWith stem ↔
    stem.toList.isPrefixOf name.toList = true ∧ w.has name = true := by
  rw [startingWith, List.mem_filter, has_iff, and_comm]

theorem filter_putIn {q : String → Bool} {t : StoredTable} (h : q t.name = false)
    (tables : List StoredTable) :
    (putIn t tables).filter (fun x => q x.name) = tables.filter fun x => q x.name := by
  induction tables with
  | nil => simp [putIn, h]
  | cons other rest ih =>
    unfold putIn
    by_cases hsame : t.name = other.name
    · have hother : q other.name = false := hsame ▸ h
      simp [hsame, hother]
    · by_cases hlt : t.name < other.name
      · simp [hsame, hlt, h]
      · simp [hsame, hlt, ih, List.filter_cons]

/-- What a selection says of the tables that it keeps. -/
theorem table?_of_filter {q : String → Bool} {name : String} (hq : q name = true)
    {w w' : Warehouse}
    (h : w'.tables.filter (fun x => q x.name) = w.tables.filter fun x => q x.name) :
    w'.table? name = w.table? name := by
  have hfind : ∀ u : Warehouse, u.table? name =
      (u.tables.filter fun x => q x.name).find? (·.name == name) := by
    intro u
    rw [table?, List.find?_filter]
    refine congrArg (fun p => List.find? p u.tables) (funext fun x => ?_)
    by_cases hx : x.name = name
    · simp [hx, hq]
    · simp [hx]
  rw [hfind w', hfind w, h]

/-- Names in strictly ascending order, so that no two tables have one name. -/
def Ordered (w : Warehouse) : Prop := (w.tables.map (·.name)).Pairwise (· < ·)

theorem mem_names_putIn (t : StoredTable) (tables : List StoredTable) (name : String) :
    name ∈ (putIn t tables).map (·.name) ↔ name = t.name ∨ name ∈ tables.map (·.name) := by
  induction tables with
  | nil => simp [putIn]
  | cons other rest ih =>
    unfold putIn
    by_cases hsame : t.name = other.name
    · simp [hsame]
    · by_cases hlt : t.name < other.name
      · simp [hsame, hlt]
      · rw [if_neg hsame, if_neg hlt, List.map_cons, List.mem_cons, ih, List.map_cons,
          List.mem_cons, or_left_comm]

theorem Ordered.put {w : Warehouse} (h : w.Ordered) (t : StoredTable) : (w.put t).Ordered := by
  obtain ⟨tables⟩ := w
  show ((putIn t tables).map (·.name)).Pairwise (· < ·)
  replace h : (tables.map (·.name)).Pairwise (· < ·) := h
  induction tables with
  | nil => simp [putIn]
  | cons other rest ih =>
    rw [List.map_cons, List.pairwise_cons] at h
    obtain ⟨hother, hrest⟩ := h
    unfold putIn
    by_cases hsame : t.name = other.name
    · rw [if_pos hsame, List.map_cons, List.pairwise_cons, hsame]
      exact ⟨hother, hrest⟩
    · by_cases hlt : t.name < other.name
      · rw [if_neg hsame, if_pos hlt, List.map_cons, List.map_cons, List.pairwise_cons,
          List.pairwise_cons]
        refine ⟨List.forall_mem_cons.2 ⟨hlt, fun name hname => ?_⟩, hother, hrest⟩
        exact hlt.trans (hother name hname)
      · have hgt : other.name < t.name := lt_of_le_of_ne (not_lt.1 hlt) (Ne.symm hsame)
        rw [if_neg hsame, if_neg hlt, List.map_cons, List.pairwise_cons]
        refine ⟨fun name hname => ?_, ih hrest⟩
        obtain rfl | hold := (mem_names_putIn t rest name).1 hname
        · exact hgt
        · exact hother name hold

theorem Ordered.drop {w : Warehouse} (h : w.Ordered) (name : String) : (w.drop name).Ordered :=
  List.Pairwise.sublist (List.Sublist.map _ List.filter_sublist) h

/-! ## Commits and keys -/

/-- A committed load puts one table of its name. -/
theorem commit_eq_put (w : Warehouse) (name : String) (columns : List Replica.Column)
    (mode : LoadMode) (rows : List Replica.Row) :
    ∃ t : StoredTable, t.name = name ∧ w.commit name columns mode rows = w.put t := by
  cases mode with
  | create => exact ⟨_, rfl, rfl⟩
  | replace =>
    refine ⟨_, ?_, rfl⟩
    cases hold : w.table? name with
    | none => rfl
    | some old =>
      have hname : old.name = name := name_of_table? hold
      exact hname

/-- A key is set by putting the table once more, if it is there. -/
theorem setPrimaryKey_eq (w : Warehouse) (name : String) (key : List String) :
    w.setPrimaryKey name key = w ∨ ∃ t, w.table? name = some t ∧
      w.setPrimaryKey name key = w.put { t with primaryKey := key } := by
  unfold setPrimaryKey
  cases h : w.table? name with
  | none => exact .inl rfl
  | some t => exact .inr ⟨t, rfl, rfl⟩

theorem table?_setPrimaryKey (w : Warehouse) (name : String) (key : List String) (other : String) :
    (w.setPrimaryKey name key).table? other =
      if name = other then (w.table? name).map fun t => { t with primaryKey := key }
      else w.table? other := by
  unfold setPrimaryKey
  cases h : w.table? name with
  | none =>
    by_cases ho : name = other
    · subst ho
      simp [h]
    · simp [ho]
  | some t =>
    obtain rfl := name_of_table? h
    by_cases ho : t.name = other <;> simp [table?_put, ho]

theorem has_drop_self (w : Warehouse) (name : String) : (w.drop name).has name = false := by
  rw [has, table?, drop, List.find?_filter]
  simp

/-- A change of one table of a warehouse, or none. -/
inductive Change (name : String) (w : Warehouse) : Warehouse → Prop where
  | none : Change name w w
  | put {t : StoredTable} (h : t.name = name) : Change name w (w.put t)
  | drop : Change name w (w.drop name)

variable {w w' : Warehouse} {name : String}

theorem change_commit (w : Warehouse) (name : String) (columns : List Replica.Column)
    (mode : LoadMode) (rows : List Replica.Row) :
    Change name w (w.commit name columns mode rows) := by
  obtain ⟨t, ht, heq⟩ := w.commit_eq_put name columns mode rows
  rw [heq]
  exact .put ht

theorem change_setPrimaryKey (w : Warehouse) (name : String) (key : List String) :
    Change name w (w.setPrimaryKey name key) := by
  obtain heq | ⟨t, ht, heq⟩ := w.setPrimaryKey_eq name key
  · rw [heq]
    exact .none
  · have hname : t.name = name := name_of_table? ht
    rw [heq]
    exact .put hname

/-- Selections that leave out the changed table stay as they are. -/
theorem Change.filter {q : String → Bool} (hq : q name = false) (h : Change name w w') :
    w'.tables.filter (fun x => q x.name) = w.tables.filter fun x => q x.name := by
  cases h with
  | none => rfl
  | put ht => exact filter_putIn (ht ▸ hq) w.tables
  | drop =>
    rw [Warehouse.drop, List.filter_filter]
    refine List.filter_congr fun x _ => ?_
    by_cases hx : x.name = name
    · rw [hx, hq, Bool.false_and]
    · simp [hx]

theorem Change.table? {other : String} (hne : other ≠ name) (h : Change name w w') :
    w'.table? other = w.table? other := by
  cases h with
  | none => rfl
  | put ht => rw [table?_put, if_neg (ht ▸ Ne.symm hne)]
  | drop =>
    rw [Warehouse.table?, Warehouse.drop, List.find?_filter]
    refine congrArg (fun p => List.find? p w.tables) (funext fun x => ?_)
    by_cases hx : x.name = other
    · simp [hx, hne]
    · simp [hx]

theorem Change.ordered (h : Change name w w') (hw : w.Ordered) : w'.Ordered := by
  cases h with
  | none => exact hw
  | put _ => exact hw.put _
  | drop => exact hw.drop name

end Warehouse

/-! ## Calls -/

namespace Stage

/-- What a call can do to a warehouse. -/
def Effect : Call Cursor Loader → Warehouse → Warehouse → Prop
  | .dropTable table, w, w' => w' = w ∨ w' = w.drop table
  | .commit loader, w, w' =>
    w' = w ∨ w' = w.commit loader.table loader.columns loader.mode loader.rows
  | .finalize table key _, w, w' => w' = w ∨ w' = w.setPrimaryKey table key
  | _, w, w' => w' = w

/-- What an answer says, if it is no failure. -/
def Told (s : Stage) : (c : Call Cursor Loader) → Answer c → Prop
  | .listTables stem, answer => ∀ names, answer = .ok names →
    names = s.warehouse.startingWith stem
  | .listSource, answer => ∀ names, answer = .ok names → names = s.source.list
  | .describeSource table, answer => ∀ d, answer = .ok d → s.source.describe table = .ok d
  | .beginLoad table columns mode, answer => ∀ loader : Loader, answer = .ok loader →
    loader = ⟨table, columns, mode, []⟩
  | .insertBatch loader _, answer => answer.1.table = loader.table
  | .rowCount table, answer => ∀ n, answer = .ok n →
    n = ((s.warehouse.table? table).map (·.rowCount)).getD 0
  | .describeTable table, answer => ∀ columns, answer = .ok columns →
    columns = ((s.warehouse.table? table).map (·.columns)).getD []
  | _, _ => True

/-- A call fails as planned, or does what it does. -/
theorem attempt_cases {α : Type} (s : Stage) (event : Event) (point table : String)
    (act : Stage → Except Error α × Stage) : ∃ failures,
      (∃ e, s.attempt event point table act =
        (.error e, { s with failures, trace := s.trace ++ [event] })) ∨
      s.attempt event point table act = act { s with failures, trace := s.trace ++ [event] } := by
  unfold attempt
  cases hdue : Failure.check (·.appliesTo point table) s.failures with
  | mk due failures =>
    cases due with
    | none => exact ⟨failures, .inr rfl⟩
    | some breakdown => exact ⟨failures, .inl ⟨breakdown.error, rfl⟩⟩

theorem same_of_answer {α : Type} {s t : Stage} {event : Event} {point table : String}
    {value : Stage → Except Error α} {outcome : Except Error α}
    (h : s.attempt event point table (Stage.answer value) = (outcome, t)) :
    t.source = s.source ∧ t.warehouse = s.warehouse := by
  obtain ⟨failures, ⟨e, he⟩ | hact⟩ := s.attempt_cases event point table (Stage.answer value)
  · obtain ⟨rfl, rfl⟩ := Prod.mk.inj (he.symm.trans h)
    exact ⟨rfl, rfl⟩
  · obtain ⟨rfl, rfl⟩ := Prod.mk.inj (hact.symm.trans h)
    exact ⟨rfl, rfl⟩

/-- An answer that is no failure says of the databases what its value does. -/
theorem told_of_answer {α : Type} {told : α → Prop} {s t : Stage} {event : Event}
    {point table : String} {value : Stage → Except Error α} {outcome : Except Error α}
    (h : s.attempt event point table (Stage.answer value) = (outcome, t))
    (hvalue : ∀ u a, u.source = s.source → u.warehouse = s.warehouse → value u = .ok a → told a) :
    t.source = s.source ∧ t.warehouse = s.warehouse ∧ ∀ a, outcome = .ok a → told a := by
  obtain ⟨hsource, hwarehouse⟩ := same_of_answer h
  refine ⟨hsource, hwarehouse, fun a ha => ?_⟩
  obtain ⟨failures, ⟨e, he⟩ | hact⟩ := s.attempt_cases event point table (Stage.answer value)
  · cases (congrArg Prod.fst (he.symm.trans h)).trans ha
  · have hok : value { s with failures, trace := s.trace ++ [event] } = .ok a :=
      (congrArg Prod.fst (hact.symm.trans h)).trans ha
    exact hvalue { s with failures, trace := s.trace ++ [event] } a rfl rfl hok

theorem effect_of_change {s t : Stage} {event : Event} {point table : String}
    {f : Warehouse → Warehouse} {outcome : Except Error Unit}
    (h : s.attempt event point table (change f) = (outcome, t)) :
    t.source = s.source ∧ (t.warehouse = s.warehouse ∨ t.warehouse = f s.warehouse) := by
  obtain ⟨failures, ⟨e, he⟩ | hact⟩ := s.attempt_cases event point table (change f)
  · obtain ⟨rfl, rfl⟩ := Prod.mk.inj (he.symm.trans h)
    exact ⟨rfl, .inl rfl⟩
  · obtain ⟨rfl, rfl⟩ := Prod.mk.inj (hact.symm.trans h)
    exact ⟨rfl, .inr rfl⟩

/-- What a call can do, however failures are planned. -/
theorem effect_of_handle {c : Call Cursor Loader} {s t : Stage} {answer : Answer c}
    (h : handle c s = (answer, t)) :
    t.source = s.source ∧ Effect c s.warehouse t.warehouse ∧ Told s c answer := by
  cases c with
  | acquire connection =>
    simp only [handle] at h
    split at h
    · cases h
      exact ⟨rfl, rfl, trivial⟩
    · cases h
      exact ⟨rfl, rfl, trivial⟩
  | release guard =>
    cases h
    exact ⟨rfl, rfl, trivial⟩
  | dropCursor cursor =>
    cases h
    exact ⟨rfl, rfl, trivial⟩
  | listSource =>
    refine told_of_answer h fun u names hsource _ hnames => ?_
    rw [← hsource, Except.ok.inj hnames]
  | describeSource table =>
    refine told_of_answer h fun u d hsource _ hd => ?_
    rw [← hsource, hd]
  | openCursor table columns chunk =>
    obtain ⟨hsource, hwarehouse⟩ := same_of_answer h
    exact ⟨hsource, hwarehouse, trivial⟩
  | nextChunk cursor =>
    simp only [handle] at h
    generalize hcall : attempt s _ _ _ _ = result at h
    obtain ⟨outcome, u⟩ := result
    obtain ⟨hsource, hwarehouse⟩ := same_of_answer hcall
    cases h
    exact ⟨hsource, hwarehouse, trivial⟩
  | closeCursor cursor =>
    obtain ⟨hsource, hwarehouse⟩ := same_of_answer h
    exact ⟨hsource, hwarehouse, trivial⟩
  | listTables stem =>
    refine told_of_answer h fun u names _ hwarehouse hnames => ?_
    rw [← hwarehouse, Except.ok.inj hnames]
  | tableExists table =>
    obtain ⟨hsource, hwarehouse⟩ := same_of_answer h
    exact ⟨hsource, hwarehouse, trivial⟩
  | dropTable table =>
    obtain ⟨hsource, hchange⟩ := effect_of_change h
    exact ⟨hsource, hchange, trivial⟩
  | beginLoad table columns mode =>
    refine told_of_answer h fun u loader _ _ hloader => ?_
    split at hloader
    · cases hloader
    · exact (Except.ok.inj hloader).symm
  | insertBatch loader rows =>
    simp only [handle] at h
    generalize hcall : attempt s _ _ _ _ = result at h
    obtain ⟨outcome, u⟩ := result
    obtain ⟨hsource, hwarehouse⟩ := same_of_answer hcall
    cases outcome with
    | error e =>
      cases h
      exact ⟨hsource, hwarehouse, rfl⟩
    | ok n =>
      cases h
      exact ⟨hsource, hwarehouse, rfl⟩
  | commit loader =>
    obtain ⟨hsource, hchange⟩ := effect_of_change h
    exact ⟨hsource, hchange, trivial⟩
  | rollback loader =>
    obtain ⟨hsource, hwarehouse⟩ := same_of_answer h
    exact ⟨hsource, hwarehouse, trivial⟩
  | finalize table key columns =>
    obtain ⟨hsource, hchange⟩ := effect_of_change h
    exact ⟨hsource, hchange, trivial⟩
  | describeTable table =>
    refine told_of_answer h fun u columns _ hwarehouse hcolumns => ?_
    rw [← hwarehouse, Except.ok.inj hcolumns]
  | rowCount table =>
    refine told_of_answer h fun u n _ hwarehouse hn => ?_
    rw [← hwarehouse, Except.ok.inj hn]

/-- A call to databases that may fail at any call. -/
def Unreliable (c : Call Cursor Loader) (s : Stage) (answer : Answer c) (t : Stage) : Prop :=
  ∃ failures, handle c { s with failures } = (answer, t)

theorem Unreliable.effect {c : Call Cursor Loader} {s t : Stage} {answer : Answer c}
    (h : Unreliable c s answer t) :
    t.source = s.source ∧ Effect c s.warehouse t.warehouse ∧ Told s c answer := by
  obtain ⟨failures, hhandle⟩ := h
  obtain ⟨hsource, heffect, htold⟩ := effect_of_handle hhandle
  refine ⟨hsource, heffect, ?_⟩
  cases c <;> exact htold

end Stage
end Rehearsal
end Granary
