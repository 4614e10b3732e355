import Granary.Proofs.Replica.Asking
import Granary.Proofs.Replica.Confinement
import Granary.Proofs.Replica.Shelf

/-!
# The share of a connection

The share of a connection is its tables of the warehouse, with their indexes, and its lease.  The
calls that concern a connection see no more than its share, so they are answered from the share as
they are from the whole (`Stage.handle_own`), and they leave the shares of other connections alone.

Where there are indexes a call also sees whether the names of the relations that it creates are
taken.  So the share comes with those of them that somebody else has (`Indexed.handle_own`).
-/

namespace Granary
namespace Replica.Leases

variable {leases : Leases} {connection : String}

/-- The lease of a connection, if it is held. -/
def own (leases : Leases) (connection : String) : Leases :=
  ⟨leases.held.filter (· == connection)⟩

theorem isHeld_own : (leases.own connection).isHeld connection = leases.isHeld connection := by
  simp [own, isHeld, List.contains_eq_mem, List.mem_filter]

theorem acquire_own : (leases.own connection).acquire connection =
    (leases.acquire connection).map fun taken => (taken.1, taken.2.own connection) := by
  rw [acquire, isHeld_own, acquire]
  split
  · rfl
  · simp [own, Except.map, List.filter_append]

theorem drop_own {guard : Guard} :
    (leases.own connection).drop guard = (leases.drop guard).own connection := by
  rw [own, drop, drop, own, List.filter_filter, List.filter_filter]
  simp only [Bool.and_comm]

end Replica.Leases

namespace Rehearsal

open Replica (Answer Blocked Call Leases LoadMode Mode shelf stem tableName Under)

namespace Warehouse

variable {w w' : Warehouse} {connection name : String}

theorem Ordered.nodup (h : w.Ordered) : (w.tables.map (·.name)).Nodup :=
  List.Pairwise.imp (fun hlt => hlt.ne) h

theorem Ordered.mem_iff (h : w.Ordered) {t : StoredTable} :
    t ∈ w.tables ↔ w.table? t.name = some t :=
  ⟨fun ht => Named.find?_of_nodup h.nodup ht, List.mem_of_find?_eq_some⟩

/-- Warehouses in order are the same if they have the same tables. -/
theorem eq_of_ordered (h : w.Ordered) (h' : w'.Ordered) (htable : ∀ name, w.table? name =
    w'.table? name) : w = w' := by
  have hperm : w.tables.Perm w'.tables := by
    refine (List.perm_ext_iff_of_nodup h.nodup.of_map h'.nodup.of_map).2 fun t => ?_
    rw [h.mem_iff, h'.mem_iff, htable]
  have htables : w.tables = w'.tables := hperm.eq_of_pairwise
    (fun _ _ _ _ hab hba => absurd hba hab.asymm) (List.pairwise_map.1 h) (List.pairwise_map.1 h')
  exact congrArg Warehouse.mk htables

/-! ## Tables of one connection -/

/-- The tables of a connection. -/
def under (connection : String) (w : Warehouse) : Warehouse :=
  ⟨w.tables.filter fun t => (stem connection).toList.isPrefixOf t.name.toList⟩

theorem Ordered.under (h : w.Ordered) (connection : String) : (w.under connection).Ordered :=
  List.Pairwise.sublist (List.Sublist.map _ List.filter_sublist) h

theorem table?_under (h : Under connection name) :
    (w.under connection).table? name = w.table? name := by
  rw [table?, under, List.find?_filter, table?]
  refine congrArg (fun p => List.find? p w.tables) (funext fun t => ?_)
  by_cases ht : t.name = name
  · have hunder : (stem connection).toList.isPrefixOf name.toList = true := h
    simp [ht, hunder]
  · simp [ht]

theorem table?_under_of_not (h : ¬Under connection name) :
    (w.under connection).table? name = none := by
  refine List.find?_eq_none.2 fun t ht hsame => h ?_
  rw [beq_iff_eq] at hsame
  exact hsame ▸ (List.mem_filter.1 ht).2

theorem has_under (h : Under connection name) : (w.under connection).has name = w.has name := by
  rw [has, table?_under h, has]

theorem startingWith_under :
    (w.under connection).startingWith (stem connection) = w.startingWith (stem connection) := by
  rw [startingWith, under, startingWith, List.filter_map, List.filter_map, List.filter_filter]
  simp [Function.comp_def]

theorem under_put (hw : w.Ordered) {t : StoredTable} (ht : Under connection t.name) :
    (w.put t).under connection = (w.under connection).put t := by
  refine eq_of_ordered ((hw.put t).under connection) ((hw.under connection).put t) fun name => ?_
  rw [table?_put]
  by_cases hname : Under connection name
  · rw [table?_under hname, table?_put, table?_under hname]
  · have hne : t.name ≠ name := fun hsame => hname (hsame ▸ ht)
    rw [table?_under_of_not hname, table?_under_of_not hname, if_neg hne]

theorem under_drop : (w.drop name).under connection = (w.under connection).drop name := by
  rw [under, drop, drop, under, List.filter_filter, List.filter_filter]
  simp only [Bool.and_comm]

theorem under_commit (hw : w.Ordered) (hname : Under connection name)
    (columns : List Replica.Column) (mode : LoadMode) (rows : List Replica.Row) :
    (w.commit name columns mode rows).under connection =
      (w.under connection).commit name columns mode rows := by
  cases mode with
  | create => exact under_put hw hname
  | replace =>
    rw [commit, commit, table?_under hname]
    refine under_put hw ?_
    cases hold : w.table? name with
    | none => exact hname
    | some old =>
      have hsame : old.name = name := name_of_table? hold
      exact hsame.symm ▸ hname

theorem under_setPrimaryKey (hw : w.Ordered) (hname : Under connection name) (key : List String) :
    (w.setPrimaryKey name key).under connection =
      (w.under connection).setPrimaryKey name key := by
  unfold setPrimaryKey
  rw [table?_under hname]
  cases hold : w.table? name with
  | none => rfl
  | some old =>
    have hsame : old.name = name := name_of_table? hold
    exact under_put hw (t := { old with primaryKey := key }) (hsame.symm ▸ hname)

end Warehouse

namespace Stage

/-- What a connection has of the databases. -/
def own (connection : String) (s : Stage) : Stage :=
  { s with warehouse := s.warehouse.under connection, leases := s.leases.own connection }

variable {connection : String} {s : Stage}

/-- A call is answered from the share if what it does can be done on the share. -/
theorem attempt_own {α : Type} {act act' : Stage → Except Error α × Stage}
    (h : ∀ u : Stage, u.warehouse = s.warehouse →
      act' (u.own connection) = ((act u).1, (act u).2.own connection))
    (event : Event) (point table : String) :
    (s.own connection).attempt event point table act' =
      ((s.attempt event point table act).1,
        (s.attempt event point table act).2.own connection) := by
  unfold attempt
  cases hdue : Failure.check (·.appliesTo point table) s.failures with
  | mk due failures =>
    have hdue' : Failure.check (·.appliesTo point table) (s.own connection).failures =
      (due, failures) := hdue
    simp only [hdue']
    cases due with
    | none => exact h { s with failures, trace := s.trace ++ [event] } rfl
    | some breakdown => rfl

theorem attempt_answer_own {α : Type} {f f' : Stage → Except Error α}
    (h : ∀ u : Stage, u.warehouse = s.warehouse → f' (u.own connection) = f u)
    (event : Event) (point table : String) :
    (s.own connection).attempt event point table (answer f') =
      ((s.attempt event point table (answer f)).1,
        (s.attempt event point table (answer f)).2.own connection) :=
  attempt_own (fun u hu => congrArg (·, u.own connection) (h u hu)) event point table

theorem attempt_change_own {f f' : Warehouse → Warehouse}
    (h : f' (s.warehouse.under connection) = (f s.warehouse).under connection)
    (event : Event) (point table : String) :
    (s.own connection).attempt event point table (change f') =
      ((s.attempt event point table (change f)).1,
        (s.attempt event point table (change f)).2.own connection) := by
  refine attempt_own (fun u hu => ?_) event point table
  have hf : f' (u.own connection).warehouse = (f u.warehouse).under connection := by
    rw [hu, ← h, ← hu]
    rfl
  show (Except.ok (), { u.own connection with warehouse := f' (u.own connection).warehouse }) = _
  rw [hf]
  rfl

/-- A call that concerns a connection is answered from the share of the connection as it is from
the whole, and does to the share what it does to the whole. -/
theorem handle_own {mode : Mode} {source : Source} {c : Call Cursor Loader}
    (hs : s.warehouse.Ordered)
    (hconcerns : c.Concerns connection) (hallowed : Replica.Allowed mode connection source c) :
    handle c (s.own connection) = ((handle c s).1, (handle c s).2.own connection) := by
  cases c with
  | acquire name =>
    obtain rfl : name = connection := hconcerns
    have hacquire : (s.own name).leases.acquire name =
        (s.leases.acquire name).map fun taken => (taken.1, taken.2.own name) := Leases.acquire_own
    rw [handle, hacquire, handle]
    cases s.leases.acquire name with
    | error e => rfl
    | ok taken => rfl
  | release guard =>
    show ((), { s.own connection with leases := (s.leases.own connection).drop guard }) = _
    rw [Leases.drop_own]
    rfl
  | listSource => exact attempt_answer_own (fun _ _ => rfl) _ _ _
  | describeSource table => exact attempt_answer_own (fun _ _ => rfl) _ _ _
  | openCursor table columns chunk => exact attempt_answer_own (fun _ _ => rfl) _ _ _
  | nextChunk cursor =>
    simp only [handle]
    rw [attempt_answer_own (f := fun _ => .ok (cursor.rows.take cursor.chunk))
      fun _ _ => rfl]
  | closeCursor cursor => exact attempt_answer_own (fun _ _ => rfl) _ _ _
  | dropCursor cursor => rfl
  | listTables stem =>
    obtain rfl : stem = Replica.stem connection := hconcerns
    refine attempt_answer_own (fun u _ => ?_) _ _ _
    exact congrArg Except.ok Warehouse.startingWith_under
  | tableExists table =>
    refine attempt_answer_own (fun u _ => ?_) _ _ _
    exact congrArg Except.ok (Warehouse.has_under hconcerns)
  | dropTable table =>
    exact attempt_change_own Warehouse.under_drop.symm _ _ _
  | beginLoad table columns mode =>
    have hunder : Under connection table := Replica.Allowed.under hallowed
    refine attempt_answer_own (fun u _ => ?_) _ _ _
    show (if mode = .create ∧ (u.warehouse.under connection).has table = true then _ else _) = _
    rw [Warehouse.has_under hunder]
  | insertBatch loader rows =>
    simp only [handle]
    rw [attempt_answer_own (f := fun _ => .ok rows.length) fun _ _ => rfl]
    generalize s.attempt _ _ _ _ = result
    obtain ⟨outcome, t⟩ := result
    cases outcome with
    | error e => rfl
    | ok n => rfl
  | commit loader =>
    have hunder : Under connection loader.table := Replica.Target.under hallowed
    exact attempt_change_own (Warehouse.under_commit hs hunder _ _ _).symm _ _ _
  | rollback loader => exact attempt_answer_own (fun _ _ => rfl) _ _ _
  | finalize table key columns =>
    have hunder : Under connection table := (Replica.Created.target hallowed).under
    exact attempt_change_own (Warehouse.under_setPrimaryKey hs hunder _).symm _ _ _
  | describeTable table => cases hconcerns
  | rowCount table => cases hconcerns

/-! ## Other shares -/

theorem leases_of_attempt {α : Type} {f : Stage → Except Error α × Stage}
    (hf : ∀ u, (f u).2.leases = u.leases) (event : Event) (point table : String) :
    (s.attempt event point table f).2.leases = s.leases := by
  obtain ⟨failures, ⟨e, he⟩ | hdone⟩ := s.attempt_cases event point table f
  · rw [he]
  · rw [hdone, hf]

/-- Leases are taken and given back by the calls for them only. -/
theorem leases_of_inner {c : Call Cursor Loader} (hinner : c.Inner connection) :
    (handle c s).2.leases = s.leases := by
  cases c with
  | acquire name => cases hinner
  | release guard => cases hinner
  | dropCursor cursor => rfl
  | nextChunk cursor => exact leases_of_attempt (fun _ => rfl) _ _ _
  | insertBatch loader rows =>
    have hattempt := leases_of_attempt (s := s) (f := answer fun _ => .ok rows.length)
      (fun _ => rfl) ⟨.insertBatch loader rows, 0⟩ "loader.insert_batch" loader.table
    rw [← hattempt, handle]
    generalize s.attempt _ _ _ _ = result
    obtain ⟨outcome, t⟩ := result
    cases outcome with
    | error e => rfl
    | ok n => rfl
  | _ => exact leases_of_attempt (fun _ => rfl) _ _ _

/-- A call that concerns a connection changes the lease of no other. -/
theorem leases_own_of_concerns {c : Call Cursor Loader} {other : String}
    (hconcerns : c.Concerns connection) (hother : other ≠ connection) :
    (handle c s).2.leases.own other = s.leases.own other := by
  obtain rfl | ⟨guard, rfl, hguard⟩ | hinner := hconcerns.cases
  · obtain ⟨_, hanswer⟩ | ⟨_, hanswer⟩ := s.handle_acquire_cases connection
    · rw [hanswer]
    · have hne : connection ≠ other := Ne.symm hother
      rw [hanswer]
      simp [Leases.own, List.filter_append, hne]
  · show (s.leases.drop guard).own other = _
    rw [Leases.own, Leases.drop, List.filter_filter, Leases.own]
    refine congrArg Leases.mk (List.filter_congr fun name _ => ?_)
    by_cases hname : name = other
    · subst hname
      simp [hguard, hother]
    · simp [hname]
  · rw [leases_of_inner hinner]

/-- A call that concerns a connection changes one table of it, if any. -/
theorem change_of_allowed {mode : Mode} {source : Source} {c : Call Cursor Loader}
    (hallowed : Replica.Allowed mode connection source c) :
    ∃ name, Under connection name ∧ Warehouse.Change name s.warehouse (handle c s).2.warehouse := by
  obtain ⟨_, heffect, _⟩ := effect_of_handle (c := c) (s := s) rfl
  have hnone : (handle c s).2.warehouse = s.warehouse → ∃ name, Under connection name ∧
      Warehouse.Change name s.warehouse (handle c s).2.warehouse := by
    intro hsame
    rw [hsame]
    exact ⟨tableName connection "", Replica.under_tableName connection "", .none⟩
  cases c with
  | dropTable table =>
    obtain hsame | hdrop := heffect
    · exact hnone hsame
    · exact ⟨table, hallowed, hdrop ▸ .drop⟩
  | commit loader =>
    obtain hsame | hcommit := heffect
    · exact hnone hsame
    · exact ⟨loader.table, Replica.Target.under hallowed, hcommit ▸ Warehouse.change_commit ..⟩
  | finalize table key columns =>
    obtain hsame | hkey := heffect
    · exact hnone hsame
    · exact ⟨table, (Replica.Created.target hallowed).under,
        hkey ▸ Warehouse.change_setPrimaryKey ..⟩
  | _ => exact hnone heffect

end Stage

/-! ## Shares with indexes -/

namespace Indexed

/-- The names of the relations that a call creates, unless they are taken. -/
def asks : Call Cursor Loader → List String
  | .beginLoad table _ .create => [table]
  | .finalize table _ columns => (indexesOf table columns).map (·.name)
  | _ => []

/-- What a connection has of the databases, with what is taken by others of the names it asks
for. -/
def own (connection : String) (taken : List String) (s : Indexed) : Indexed where
  stage := s.stage.own connection
  indexes := s.indexes.filter (Under connection ·.table)
  relations := taken

variable {connection name : String} {taken : List String} {s : Indexed} {i : Index}

theorem reserved_iff : s.reserved name = true ↔
    (∃ i ∈ s.indexes, i.name = name) ∨ name ∈ s.relations := by
  simp [reserved]

/-- An index is on a table of the connection, or it is not. -/
theorem exists_index_iff (connection : String) (taken : List String) :
    (∃ i ∈ s.indexes, i.name = name) ↔
    (∃ i ∈ (s.own connection taken).indexes, i.name = name) ∨
      ∃ i ∈ s.indexes, i.name = name ∧ ¬Under connection i.table := by
  constructor
  · rintro ⟨i, hi, hname⟩
    by_cases hunder : Under connection i.table
    · exact .inl ⟨i, List.mem_filter.2 ⟨hi, decide_eq_true hunder⟩, hname⟩
    · exact .inr ⟨i, hi, hname, hunder⟩
  · rintro (⟨i, hi, hname⟩ | ⟨i, hi, hname, _⟩)
    · exact ⟨i, (List.mem_filter.1 hi).1, hname⟩
    · exact ⟨i, hi, hname⟩

/-- A table of the connection may be created on the share if it may be created on the whole. -/
theorem reserved_own (hname : Under connection name)
    (h : name ∈ taken ↔ Blocked connection s name) :
    (s.own connection taken).reserved name = s.reserved name := by
  rw [Bool.eq_iff_iff, reserved_iff, reserved_iff,
    exists_index_iff (s := s) connection taken, or_assoc]
  refine or_congr_right (h.trans ?_)
  rw [Blocked, iff_false_intro (not_and_of_not_left _ (not_not_intro hname)), false_or]

/-- A name is taken on the share if it is taken on the whole. -/
theorem taken_own (h : name ∈ taken ↔ Blocked connection s name) :
    (s.own connection taken).taken name = s.taken name := by
  by_cases hname : Under connection name
  · have hhas : (s.own connection taken).stage.warehouse.has name = s.stage.warehouse.has name :=
      Warehouse.has_under hname
    rw [Indexed.taken, Indexed.taken, hhas, reserved_own hname h]
  · have hnone : (s.own connection taken).stage.warehouse.has name = false :=
      congrArg Option.isSome (Warehouse.table?_under_of_not hname)
    rw [Indexed.taken, Indexed.taken, hnone, Bool.false_or, Bool.eq_iff_iff, Bool.or_eq_true,
      reserved_iff, reserved_iff,
      exists_index_iff (s := s) connection taken]
    have hrelation : name ∈ (s.own connection taken).relations ↔ Blocked connection s name := h
    rw [hrelation, Blocked, iff_true_intro hname, true_and, or_left_comm, or_assoc]

theorem createIndex_own (hunder : Under connection i.table)
    (h : i.name ∈ taken ↔ Blocked connection s i.name) :
    (s.own connection taken).createIndex i = (s.createIndex i).own connection taken := by
  rw [createIndex, taken_own h, createIndex]
  cases s.taken i.name with
  | true => rfl
  | false => simp [own, List.filter_append, hunder]

/-- Indexes on tables of the connection are created on the share as they are on the whole. -/
theorem foldl_createIndex_own {wanted : List Index}
    (hunder : ∀ i ∈ wanted, Under connection i.table)
    (h : ∀ i ∈ wanted, i.name ∈ taken ↔ Blocked connection s i.name) :
    wanted.foldl createIndex (s.own connection taken) =
      (wanted.foldl createIndex s).own connection taken := by
  induction wanted generalizing s with
  | nil => rfl
  | cons i rest ih =>
    rw [List.forall_mem_cons] at hunder h
    rw [List.foldl_cons, List.foldl_cons, createIndex_own hunder.1 h.1]
    refine ih hunder.2 fun other hother => (h.2 other hother).trans (Iff.symm ?_)
    -- An index of the connection is in nobody else's way.
    obtain ⟨added, hsub, hcreated⟩ := exists_foldl_createIndex [i] s
    have hadded : ∀ j ∈ added, Under connection j.table := fun j hj =>
      List.mem_singleton.1 (hsub.subset hj) ▸ hunder.1
    rw [List.foldl_cons, List.foldl_nil] at hcreated
    rw [hcreated]
    exact Replica.blocked_congr (fun _ hname => Replica.shelf_append hadded hname) rfl

variable {mode : Mode} {source : Source} {c : Call Cursor Loader}

/-- A call that is allowed changes no index outside the connection. -/
theorem filter_indexes_handle (hallowed : Replica.Allowed mode connection source c)
    {q : String → Bool} (hq : ∀ table, Under connection table → q table = false) :
    (handle c s).2.indexes.filter (q ·.table) = s.indexes.filter (q ·.table) := by
  have heffect := effect_handle c s
  cases c with
  | dropTable table =>
    obtain hsame | hdropped := heffect
    · rw [hsame]
    · rw [hdropped, List.filter_filter]
      refine List.filter_congr fun i _ => ?_
      by_cases hi : i.table = table
      · have hnot : q i.table = false := hi ▸ hq table hallowed
        rw [hnot, Bool.false_and]
      · simp [hi]
  | finalize table key columns =>
    obtain ⟨added, hsub, hadded⟩ := heffect
    have hnone : added.filter (q ·.table) = [] := by
      refine List.filter_eq_nil_iff.2 fun i hi => Bool.eq_false_iff.1 (hq _ ?_)
      rw [(mem_indexesOf (hsub.subset hi)).1]
      exact (Replica.Created.target hallowed).under
    rw [hadded, List.filter_append, hnone, List.append_nil]
  | _ => exact congrArg (List.filter _) heffect

/-- A call that is allowed changes nothing outside the connection. -/
theorem shelf_handle (hallowed : Replica.Allowed mode connection source c)
    (hname : ¬Under connection name) : shelf (handle c s).2 name = shelf s name := by
  obtain ⟨table, hunder, hchange⟩ := Stage.change_of_allowed (s := s.stage) hallowed
  refine congrArg₂ Replica.Shelf.mk ?_ (filter_indexes_handle (q := (· == name)) hallowed ?_)
  · rw [stage_handle]
    exact hchange.table? fun hsame => hname (hsame ▸ hunder)
  · intro other hother
    exact beq_eq_false_iff_ne.2 fun hsame => hname (hsame ▸ hother)

/-- A call that concerns a connection is answered from the share of the connection as it is from the
whole, and does to the share what it does to the whole. -/
theorem handle_own (hs : s.stage.warehouse.Ordered) (hconcerns : c.Concerns connection)
    (hallowed : Replica.Allowed mode connection source c)
    (htaken : ∀ name ∈ asks c, name ∈ taken ↔ Blocked connection s name) :
    handle c (s.own connection taken) =
      ((handle c s).1, (handle c s).2.own connection taken) := by
  have hstage : Stage.handle c (s.own connection taken).stage =
      ((Stage.handle c s.stage).1, (Stage.handle c s.stage).2.own connection) :=
    Stage.handle_own hs hconcerns hallowed
  cases c with
  | dropTable table =>
    simp only [handle, hstage]
    cases (Stage.handle (.dropTable table) s.stage).1 with
    | error e => rfl
    | ok _ =>
      refine congrArg (Prod.mk _) (congrArg (Indexed.mk _ · taken) ?_)
      rw [own, List.filter_filter, List.filter_filter]
      simp only [Bool.and_comm]
  | beginLoad table columns load =>
    simp only [handle, hstage]
    cases load with
    | create =>
      have hunder : Under connection table := Replica.Allowed.under hallowed
      rw [reserved_own hunder (htaken table (List.mem_singleton_self table))]
      split
      · rfl
      · rfl
    | replace => rfl
  | finalize table key columns =>
    have hunder : Under connection table := (Replica.Created.target hallowed).under
    obtain ⟨_, hother, hchange⟩ := Stage.change_of_allowed (s := s.stage) hallowed
    simp only [handle, hstage]
    generalize Stage.handle (.finalize table key columns) s.stage = result at hchange ⊢
    obtain ⟨outcome, stage⟩ := result
    cases outcome with
    | error e => rfl
    | ok _ =>
      -- The key changes no table of anybody else, so the same names are free.
      refine congrArg (Prod.mk _) (foldl_createIndex_own (s := { s with stage })
        (fun i hi => (mem_indexesOf hi).1 ▸ hunder) fun i hi => ?_)
      refine (htaken i.name (List.mem_map_of_mem hi)).trans (Iff.symm ?_)
      refine Replica.blocked_congr (fun name hname => congrArg (Replica.Shelf.mk · _) ?_) rfl
      exact hchange.table? fun hsame => hname (hsame ▸ hother)
  | describeTable | rowCount => cases hconcerns
  | _ =>
    simp only [handle, hstage]
    rfl

end Indexed
end Rehearsal
end Granary
