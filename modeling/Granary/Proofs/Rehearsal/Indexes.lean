import Granary.Proofs.Rehearsal.Databases
import Granary.Proofs.Replica.Naming
import Granary.Rehearsal.Indexes
import Mathlib.Data.String.Basic

/-!
# The indexes of replicated tables

The indexes of a table are a function of its columns (`indexesOf`), and creating them creates just
those if all their names are free.  The name of an index begins with `idx_` and the stem of its
connection, also where it had to be cut, so it is never the name of a table of that connection
(`not_under_indexName`).
-/

namespace Granary

namespace Replica

/-! ## Names of indexes -/

theorem utf8Len_keep_le (bytes : Nat) (chars : List Char) :
    String.utf8Len (keep bytes chars) ≤ bytes := by
  induction chars generalizing bytes with
  | nil => exact Nat.zero_le bytes
  | cons c rest ih =>
    unfold keep
    split
    · rename_i hc
      have hrest := ih (bytes - c.utf8Size)
      rw [String.utf8Len]
      omega
    · exact Nat.zero_le bytes

theorem keep_append {front : List Char} {bytes : Nat} (h : String.utf8Len front ≤ bytes)
    (rest : List Char) :
    keep bytes (front ++ rest) = front ++ keep (bytes - String.utf8Len front) rest := by
  induction front generalizing bytes with
  | nil => rfl
  | cons c front ih =>
    rw [String.utf8Len] at h
    have hc : c.utf8Size ≤ bytes := by omega
    have hfront : String.utf8Len front ≤ bytes - c.utf8Size := by omega
    rw [List.cons_append, keep, if_pos hc, ih hfront, String.utf8Len, List.cons_append,
      Nat.sub_sub, Nat.add_comm c.utf8Size]

/-- A name that had to be cut still begins as it did. -/
theorem prefix_fitted {front name : String} (hfront : front.utf8ByteSize ≤ longestIdentifier - 9)
    (h : front.toList <+: name.toList) : front.toList <+: (fitted name).toList := by
  unfold fitted
  split
  · exact h
  · obtain ⟨rest, hrest⟩ := h
    have hbytes : String.utf8Len front.toList ≤ longestIdentifier - 9 := by
      rw [← String.utf8ByteSize_ofList, String.ofList_toList]
      exact hfront
    rw [← hrest, keep_append hbytes]
    simp

variable {c x column kind : String}

theorem prefix_indexName (hc : isName c = true) :
    ("idx_" ++ stem c).toList <+: (indexName (tableName c x) column kind).toList := by
  refine prefix_fitted ?_ ?_
  · simp only [isName, Bool.and_eq_true, decide_eq_true_eq] at hc
    have hsize : c.utf8ByteSize ≤ 48 := hc.1.1.1.2
    have hstem : ("idx_" ++ stem c).utf8ByteSize = 4 + (c.utf8ByteSize + 2) := by
      rw [String.utf8ByteSize_append, stem, String.utf8ByteSize_append]
      rfl
    rw [hstem, longestIdentifier]
    omega
  · simp [tableName]

/-- Indexes of different connections have different names. -/
theorem connection_of_indexName {d y column' kind' : String} (hc : isName c = true)
    (hd : isName d = true) (hsame : indexName (tableName c x) column kind =
      indexName (tableName d y) column' kind') : c = d := by
  have hprefix : ("idx_" ++ stem c).toList <+: (indexName (tableName c x) column kind).toList :=
    prefix_indexName hc
  have hprefix' : ("idx_" ++ stem d).toList <+: (indexName (tableName d y) column' kind').toList :=
    prefix_indexName hd
  rw [hsame] at hprefix
  obtain ⟨rest, hrest⟩ := hprefix
  obtain ⟨rest', hrest'⟩ := hprefix'
  -- Behind `idx_` one text would begin with the stems of both.
  have hstems : (stem c).toList ++ rest = (stem d).toList ++ rest' := by
    have hboth := hrest.trans hrest'.symm
    rw [String.toList_append, String.toList_append, List.append_assoc, List.append_assoc] at hboth
    exact List.append_cancel_left hboth
  have htables : tableName c (String.ofList rest) = tableName d (String.ofList rest') := by
    rw [← String.toList_inj, tableName, tableName, String.toList_append, String.toList_append,
      String.toList_ofList, String.toList_ofList, hstems]
  exact (tableName_inj hc hd htables).1

/-- The name of an index is not that of a table of the same connection. -/
theorem not_under_indexName (hc : isName c = true) :
    ¬Under c (indexName (tableName c x) column kind) := by
  intro hunder
  rw [Under, List.isPrefixOf_iff_prefix] at hunder
  have hlength : (stem c).toList.length ≤ ("idx_" ++ stem c).toList.length := by
    simp only [String.toList_append, List.length_append]
    omega
  obtain ⟨rest, hrest⟩ := List.prefix_of_prefix_length_le hunder (prefix_indexName hc) hlength
  simp only [isName, Bool.and_eq_true, Bool.not_eq_true', bne_iff_ne, ne_eq, Text.occursIn,
    Option.isSome_eq_false_iff, Option.isNone_iff_eq_none] at hc
  obtain ⟨⟨⟨⟨hnonempty, _⟩, _⟩, hfree⟩, hlast⟩ := hc
  have hwhole : c.toList ++ '_' :: '_' :: rest =
      'i' :: 'd' :: 'x' :: '_' :: (c.toList ++ ['_', '_']) := by
    simpa [stem, separator] using hrest
  have hcut : Text.cutAt ['_', '_'] (c.toList ++ '_' :: '_' :: rest) = some (c.toList, rest) :=
    cutAt_append hfree hlast rest
  cases hchars : c.toList with
  | nil => simp [← String.toList_eq_nil_iff, hchars] at hnonempty
  | cons d chars =>
    rw [hchars] at hwhole hcut hfree hlast
    -- The name would begin with an `i`, so that no separator ends behind `idx_`.
    obtain rfl : d = 'i' := (List.cons.inj hwhole).1
    have hfree' : Text.cutAt ['_', '_'] ('i' :: 'd' :: 'x' :: '_' :: 'i' :: chars) = none := by
      have hchars : Text.cutAt ['_', '_'] ('i' :: chars) = none := hfree
      simp [Text.cutAt, List.isPrefixOf] at hchars ⊢
      exact hchars
    have hlast' : ('i' :: 'd' :: 'x' :: '_' :: 'i' :: chars).getLast? ≠ some '_' := by
      simpa [List.getLast?_cons_cons] using hlast
    have hcut' := cutAt_append hfree' hlast' []
    rw [hwhole] at hcut
    have hsame := (Prod.mk.inj (Option.some.inj (hcut.symm.trans hcut'))).1
    have hlengths := congrArg List.length hsame
    simp at hlengths

end Replica

namespace Rehearsal

open Replica (Answer Call Column)

/-! ## Creating indexes -/

/-- The indexes of a table with some columns. -/
def indexesOf (table : String) (columns : List Column) : List Index :=
  columns.filterMap (Index.ofColumn? table)

/-- The statements that create the indexes of a table are those of these indexes. -/
theorem createIndex_statements (table : String) (columns : List Column) :
    columns.filterMap (Postgres.Statements.createIndex table) =
      (indexesOf table columns).map Index.statement := by
  rw [indexesOf, List.map_filterMap]
  refine List.filterMap_congr fun c _ => ?_
  rw [Index.ofColumn?, Option.map_map]
  rfl

theorem mem_indexesOf {table : String} {columns : List Column} {i : Index}
    (h : i ∈ indexesOf table columns) :
    i.table = table ∧ ∃ column kind, i.name = Replica.indexName table column kind := by
  obtain ⟨c, _, hc⟩ := List.mem_filterMap.1 h
  obtain ⟨kind, _, rfl⟩ := Option.map_eq_some_iff.1 hc
  exact ⟨rfl, c.name, kind, rfl⟩

namespace Indexed

theorem createIndex_of_free {s : Indexed} {i : Index} (h : s.taken i.name = false) :
    s.createIndex i = { s with indexes := s.indexes ++ [i] } := by
  rw [createIndex, h, if_neg Bool.false_ne_true]

/-- Indexes whose names are free and differ are all created. -/
theorem foldl_createIndex {s : Indexed} {wanted : List Index} (hnodup : (wanted.map (·.name)).Nodup)
    (hfree : ∀ i ∈ wanted, s.taken i.name = false) :
    wanted.foldl createIndex s = { s with indexes := s.indexes ++ wanted } := by
  induction wanted generalizing s with
  | nil => rw [List.foldl_nil, List.append_nil]
  | cons i rest ih =>
    rw [List.map_cons, List.nodup_cons] at hnodup
    rw [List.forall_mem_cons] at hfree
    rw [List.foldl_cons, createIndex_of_free hfree.1, ih hnodup.2]
    · rw [List.append_assoc, List.singleton_append]
    · intro other hother
      have hne : i.name ≠ other.name := fun h => hnodup.1 (h ▸ List.mem_map_of_mem hother)
      have hold := hfree.2 other hother
      simpa [taken, reserved, hne] using hold

/-- Creating indexes adds some of them, and does nothing else. -/
theorem exists_foldl_createIndex (wanted : List Index) (s : Indexed) :
    ∃ added, added.Sublist wanted ∧
      wanted.foldl createIndex s = { s with indexes := s.indexes ++ added } := by
  induction wanted generalizing s with
  | nil => exact ⟨[], .slnil, by rw [List.foldl_nil, List.append_nil]⟩
  | cons i rest ih =>
    rw [List.foldl_cons]
    cases hfree : s.taken i.name with
    | true =>
      obtain ⟨added, hsub, hfold⟩ := ih s
      exact ⟨added, hsub.cons i, by rwa [createIndex, if_pos hfree]⟩
    | false =>
      obtain ⟨added, hsub, hfold⟩ := ih { s with indexes := s.indexes ++ [i] }
      refine ⟨i :: added, hsub.cons_cons i, ?_⟩
      rw [createIndex_of_free hfree, hfold, List.append_assoc, List.singleton_append]

/-! ## Calls -/

/-- What a call can do to the indexes. -/
def Effect : Call Cursor Loader → List Index → List Index → Prop
  | .dropTable table, old, new => new = old ∨ new = old.filter (·.table != table)
  | .finalize table _ columns, old, new =>
    ∃ added, added.Sublist (indexesOf table columns) ∧ new = old ++ added
  | _, old, new => new = old

/-- An index that is there after a call was there before, or the call has created it. -/
theorem Effect.mem {c : Call Cursor Loader} {old new : List Index} (h : Effect c old new)
    {i : Index} (hi : i ∈ new) : i ∈ old ∨
      ∃ table key columns, c = .finalize table key columns ∧ i ∈ indexesOf table columns := by
  cases c with
  | dropTable table =>
    obtain rfl | rfl := h
    · exact .inl hi
    · exact .inl (List.mem_filter.1 hi).1
  | finalize table key columns =>
    obtain ⟨added, hsub, rfl⟩ := h
    exact (List.mem_append.1 hi).imp id fun hadded =>
      ⟨table, key, columns, rfl, hsub.subset hadded⟩
  | _ => exact .inl ((show new = old from h) ▸ hi)

/-- A call does to tables what it does where there are no indexes, and tells no less. -/
theorem effect_of_handle {c : Call Cursor Loader} {s t : Indexed} {answer : Answer c}
    (h : handle c s = (answer, t)) :
    t.stage = (Stage.handle c s.stage).2 ∧ t.relations = s.relations ∧
      Effect c s.indexes t.indexes ∧ s.stage.Told c answer := by
  generalize hcall : Stage.handle c s.stage = result
  obtain ⟨given, stage⟩ := result
  have htold : s.stage.Told c given := (Stage.effect_of_handle hcall).2.2
  cases c with
  | dropTable table =>
    simp only [handle, hcall] at h
    cases given with
    | error e =>
      cases h
      exact ⟨rfl, rfl, .inl rfl, trivial⟩
    | ok _ =>
      cases h
      exact ⟨rfl, rfl, .inr rfl, trivial⟩
  | beginLoad table columns mode =>
    simp only [handle, hcall] at h
    split at h
    · cases h
      exact ⟨rfl, rfl, rfl, nofun⟩
    · cases h
      exact ⟨rfl, rfl, rfl, htold⟩
  | finalize table key columns =>
    simp only [handle, hcall] at h
    cases given with
    | error e =>
      cases h
      exact ⟨rfl, rfl, ⟨[], List.nil_sublist _, (List.append_nil _).symm⟩, trivial⟩
    | ok _ =>
      obtain ⟨added, hsub, hfold⟩ :=
        exists_foldl_createIndex (indexesOf table columns) { s with stage }
      rw [indexesOf] at hfold
      rw [hfold] at h
      cases h
      exact ⟨rfl, rfl, ⟨added, hsub, rfl⟩, trivial⟩
  | _ =>
    simp only [handle, hcall] at h
    cases h
    exact ⟨rfl, rfl, rfl, htold⟩

theorem stage_handle (c : Call Cursor Loader) (s : Indexed) :
    (handle c s).2.stage = (Stage.handle c s.stage).2 :=
  (effect_of_handle (c := c) (s := s) Prod.mk.eta.symm).1

theorem source_handle (c : Call Cursor Loader) (s : Indexed) :
    (handle c s).2.stage.source = s.stage.source := by
  rw [stage_handle]
  exact (Stage.effect_of_handle Prod.mk.eta.symm).1

theorem relations_handle (c : Call Cursor Loader) (s : Indexed) :
    (handle c s).2.relations = s.relations :=
  (effect_of_handle (c := c) (s := s) Prod.mk.eta.symm).2.1

theorem effect_handle (c : Call Cursor Loader) (s : Indexed) :
    Effect c s.indexes (handle c s).2.indexes :=
  (effect_of_handle (c := c) (s := s) Prod.mk.eta.symm).2.2.1

/-! ## Planned failures -/

/-- Databases in which calls fail as it is planned for each of them, whenever they are made. -/
def fated (fate : Call Cursor Loader → List (Failure Breakdown)) (c : Call Cursor Loader)
    (s : Indexed) : Answer c × Indexed :=
  handle c { s with stage := { s.stage with failures := fate c } }

end Indexed
end Rehearsal
end Granary
