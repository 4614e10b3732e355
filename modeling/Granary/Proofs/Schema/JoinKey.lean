import Granary.Proofs.Compile.JoinClause

/-!
# Which columns join two tables

Two tables may be asked for in either order.  A declared foreign key is between its tables whichever
of them is named first, so the two orders find the same one, and of several the one that was
declared first.  Only the keys that are found by name depend on the order: the key of the table that
is named first comes before that of the other.

`Relates` is this rule, one case a way that two tables belong together, and `joinKey?_eq_iff` says
that the search follows it.
-/

namespace Granary

open Schema (ForeignKey)
open Text (lowercase)

/-- The columns of a foreign key, as they join its tables. -/
def JoinKey.ofForeignKey (fk : ForeignKey) : JoinKey :=
  ⟨fk.referencingTable, fk.referencingColumn, fk.referencedTable, fk.referencedColumn, .foreignKey⟩

namespace Snapshot

variable {s : Snapshot} {a b : String} {fk : ForeignKey}

/-- Of the foreign keys between two tables, in either direction, the one that was declared first. -/
def DeclaresFirst (s : Snapshot) (a b : String) (fk : ForeignKey) : Prop :=
  s.Declares a b fk ∧ ∃ before after, s.foreignKeys = before ++ fk :: after ∧
    ∀ earlier ∈ before, ¬ s.Declares a b earlier

/-- How two tables belong together, as far as the catalog tells. -/
inductive Relates (s : Snapshot) (a b : String) : Option JoinKey → Prop where
  | declared {fk : ForeignKey} (h : s.DeclaresFirst a b fk) :
      Relates s a b (some (.ofForeignKey fk))
  | ownKey {column : String} (declared : ∀ fk, ¬ s.Declares a b fk) (h : s.Shares a b column) :
      Relates s a b (some ⟨b, column, a, column, .keyName⟩)
  | otherKey {column : String} (declared : ∀ fk, ¬ s.Declares a b fk)
      (own : ∀ column, ¬ s.Shares a b column) (h : s.Shares b a column) :
      Relates s a b (some ⟨a, column, b, column, .keyName⟩)
  | unrelated (h : s.Unrelated a b) : Relates s a b none

/-! ## The order of the two tables -/

theorem Declares.symm (h : s.Declares a b fk) : s.Declares b a fk := ⟨h.1, h.2.symm⟩

theorem DeclaresFirst.symm (h : s.DeclaresFirst a b fk) : s.DeclaresFirst b a fk := by
  obtain ⟨hfk, before, after, hkeys, hbefore⟩ := h
  exact ⟨hfk.symm, before, after, hkeys, fun earlier hmem hback => hbefore earlier hmem hback.symm⟩

theorem Unrelated.symm (h : s.Unrelated a b) : s.Unrelated b a where
  declared := fun fk hfk => h.declared fk hfk.symm
  shared := fun column => (h.shared column).symm

/-! ## The search -/

theorem declares_iff : s.Declares a b fk ↔ fk ∈ s.foreignKeys ∧ links a b fk = true := by
  simp [Declares, links]

theorem find?_links_eq_some_iff :
    s.foreignKeys.find? (links a b) = some fk ↔ s.DeclaresFirst a b fk := by
  rw [List.find?_eq_some_iff_append]
  constructor
  · rintro ⟨hlinks, before, after, hkeys, hbefore⟩
    refine ⟨declares_iff.2 ⟨by simp [hkeys], hlinks⟩, before, after, hkeys,
      fun earlier hmem h => ?_⟩
    have hapart := hbefore earlier hmem
    rw [(declares_iff.1 h).2] at hapart
    cases hapart
  · rintro ⟨h, before, after, hkeys, hbefore⟩
    refine ⟨(declares_iff.1 h).2, before, after, hkeys, fun earlier hmem => ?_⟩
    have hlisted : earlier ∈ s.foreignKeys := by
      rw [hkeys]
      exact List.mem_append_left _ hmem
    have hapart := hbefore earlier hmem
    rw [declares_iff, and_iff_right hlisted, Bool.not_eq_true] at hapart
    rw [hapart, Bool.not_false]

theorem exists_declaresFirst (h : s.Declares a b fk) : ∃ first, s.DeclaresFirst a b first := by
  cases hfind : s.foreignKeys.find? (links a b) with
  | none => exact absurd h (find?_links_eq_none_iff.1 hfind fk)
  | some first => exact ⟨first, find?_links_eq_some_iff.1 hfind⟩

theorem keyByName_eq_some_iff {owner other : String} {key : JoinKey} :
    s.keyByName owner other = some key ↔
      ∃ column, s.Shares owner other column ∧ key = ⟨other, column, owner, column, .keyName⟩ := by
  refine ⟨keyByName_eq_some, ?_⟩
  rintro ⟨column, ⟨hleading, hcolumn⟩, rfl⟩
  rw [keyByName, hleading, Option.bind_some, if_pos hcolumn]

theorem joinKey?_of_declaresFirst (h : s.DeclaresFirst (lowercase a) (lowercase b) fk) :
    s.joinKey? a b = some (.ofForeignKey fk) := by
  simp only [joinKey?, find?_links_eq_some_iff.2 h, JoinKey.ofForeignKey]

/-- Without a foreign key it is the keys that decide, in the order of the tables. -/
theorem joinKey?_of_undeclared (h : ∀ fk, ¬ s.Declares (lowercase a) (lowercase b) fk) :
    s.joinKey? a b = (s.keyByName (lowercase a) (lowercase b)).or
      (s.keyByName (lowercase b) (lowercase a)) := by
  simp only [joinKey?, find?_links_eq_none_iff.2 h]

theorem relates_joinKey? (s : Snapshot) (a b : String) :
    s.Relates (lowercase a) (lowercase b) (s.joinKey? a b) := by
  by_cases hdeclared : ∃ fk, s.Declares (lowercase a) (lowercase b) fk
  · obtain ⟨fk, hfk⟩ := hdeclared
    obtain ⟨first, hfirst⟩ := exists_declaresFirst hfk
    rw [joinKey?_of_declaresFirst hfirst]
    exact .declared hfirst
  · have hnone := not_exists.1 hdeclared
    rw [joinKey?_of_undeclared hnone]
    cases hown : s.keyByName (lowercase a) (lowercase b) with
    | some key =>
      obtain ⟨column, hshares, rfl⟩ := keyByName_eq_some hown
      exact .ownKey hnone hshares
    | none =>
      have hnotOwn := keyByName_eq_none_iff.1 hown
      rw [Option.none_or]
      cases hother : s.keyByName (lowercase b) (lowercase a) with
      | some key =>
        obtain ⟨column, hshares, rfl⟩ := keyByName_eq_some hother
        exact .otherKey hnone hnotOwn hshares
      | none =>
        have hnotOther := keyByName_eq_none_iff.1 hother
        exact .unrelated ⟨hnone, fun column => ⟨hnotOwn column, hnotOther column⟩⟩

/-- The search follows the rule, and the rule leaves it no choice. -/
theorem joinKey?_eq_iff {key? : Option JoinKey} :
    s.joinKey? a b = key? ↔ s.Relates (lowercase a) (lowercase b) key? := by
  refine ⟨fun h => h ▸ relates_joinKey? s a b, fun h => ?_⟩
  cases h with
  | declared h => exact joinKey?_of_declaresFirst h
  | ownKey hnone h =>
    rw [joinKey?_of_undeclared hnone, keyByName_eq_some_iff.2 ⟨_, h, rfl⟩, Option.some_or]
  | otherKey hnone hown h =>
    rw [joinKey?_of_undeclared hnone, keyByName_eq_none_iff.2 hown, Option.none_or,
      keyByName_eq_some_iff.2 ⟨_, h, rfl⟩]
  | unrelated h =>
    rw [joinKey?_of_undeclared h.declared, keyByName_eq_none_iff.2 fun c => (h.shared c).1,
      keyByName_eq_none_iff.2 fun c => (h.shared c).2, Option.none_or]

theorem joinKey?_eq_none_comm : s.joinKey? a b = none ↔ s.joinKey? b a = none := by
  have hback : ∀ {a b : String}, s.joinKey? a b = none → s.joinKey? b a = none := fun h => by
    cases joinKey?_eq_iff.1 h with
    | unrelated hapart => exact joinKey?_eq_iff.2 (.unrelated hapart.symm)
  exact ⟨hback, hback⟩

/-- What is found for two tables is what the rule says of their names in lower case, so that their
letter case does not matter.  Something is found in one order of the two exactly if it is in the
other; and with a foreign key between them it is the same in both, the first that was declared. -/
theorem joinKey?_relates (s : Snapshot) (a b : String) :
    (∀ key?, s.joinKey? a b = key? ↔ s.Relates (lowercase a) (lowercase b) key?) ∧
    ((s.joinKey? a b).isSome ↔ (s.joinKey? b a).isSome) ∧
    ((∃ fk, s.Declares (lowercase a) (lowercase b) fk) →
      ∃ first, s.DeclaresFirst (lowercase a) (lowercase b) first ∧
        s.joinKey? a b = some (.ofForeignKey first) ∧
        s.joinKey? b a = some (.ofForeignKey first)) ∧
    (∀ a' b', lowercase a' = lowercase a → lowercase b' = lowercase b →
      s.joinKey? a' b' = s.joinKey? a b) := by
  refine ⟨fun _ => joinKey?_eq_iff, ?_, ?_, fun a' b' ha hb => ?_⟩
  · rw [Option.isSome_iff_ne_none, Option.isSome_iff_ne_none]
    exact not_congr joinKey?_eq_none_comm
  · rintro ⟨fk, hfk⟩
    obtain ⟨first, hfirst⟩ := exists_declaresFirst hfk
    exact ⟨first, hfirst, joinKey?_of_declaresFirst hfirst, joinKey?_of_declaresFirst hfirst.symm⟩
  · have hrelates := relates_joinKey? s a b
    rw [← ha, ← hb] at hrelates
    exact joinKey?_eq_iff.2 hrelates

/-- Employees with two references to their managers, and teams and leads that each have the key of
the other as a column. -/
def staffCatalog : Snapshot :=
  ({} : Snapshot)
    |>.addTyped "employees" [("id", "int4"), ("manager_id", "int4"), ("deputy_id", "int4")]
    |>.addTyped "Teams" [("team_id", "int4"), ("lead_id", "int4")]
    |>.addTyped "leads" [("lead_id", "int4"), ("team_id", "int4")]
    |>.setPrimaryKey "employees" ["id"]
    |>.setPrimaryKey "Teams" ["team_id"]
    |>.setPrimaryKey "leads" ["lead_id"]
    |>.addForeignKey "employees" "manager_id" "employees" "id"
    |>.addForeignKey "employees" "deputy_id" "employees" "id"

theorem joinKey?_relates_staff :
    staffCatalog.joinKey? "EMPLOYEES" "employees" =
      some ⟨"employees", "manager_id", "employees", "id", .foreignKey⟩ ∧
    staffCatalog.joinKey? "TEAMS" "leads" =
      some ⟨"leads", "team_id", "teams", "team_id", .keyName⟩ ∧
    staffCatalog.joinKey? "leads" "teams" =
      some ⟨"teams", "lead_id", "leads", "lead_id", .keyName⟩ ∧
    staffCatalog.joinKey? "teams" "employees" = none := by
  have hkeys : staffCatalog.foreignKeys = [⟨"employees", "manager_id", "employees", "id"⟩,
      ⟨"employees", "deputy_id", "employees", "id"⟩] := by decide +kernel
  have hmanager : staffCatalog.Declares "employees" "employees"
      ⟨"employees", "manager_id", "employees", "id"⟩ := ⟨by simp [hkeys], .inl ⟨rfl, rfl⟩⟩
  have hemployees : lowercase "EMPLOYEES" = "employees" ∧ lowercase "employees" = "employees" := by
    decide +kernel
  have hteams : lowercase "TEAMS" = "teams" ∧ lowercase "teams" = "teams" ∧
      lowercase "leads" = "leads" := by decide +kernel
  have hundeclared : ∀ {a b : String}, (a = "employees" → b ≠ "employees") →
      ∀ fk, ¬ staffCatalog.Declares a b fk := by
    rintro a b hapart fk ⟨hmem, hends⟩
    rw [hkeys] at hmem
    obtain rfl | rfl : fk = _ ∨ fk = _ := by simpa using hmem
    · obtain ⟨rfl, rfl⟩ | ⟨rfl, rfl⟩ := hends <;> exact hapart rfl rfl
    · obtain ⟨rfl, rfl⟩ | ⟨rfl, rfl⟩ := hends <;> exact hapart rfl rfl
  refine ⟨?_, ?_, ?_, ?_⟩
  · obtain ⟨-, -, hdeclared, -⟩ := joinKey?_relates staffCatalog "EMPLOYEES" "employees"
    rw [hemployees.1, hemployees.2] at hdeclared
    obtain ⟨first, ⟨⟨hmem, _⟩, before, after, hsplit, hbefore⟩, hfound, -⟩ :=
      hdeclared ⟨_, hmanager⟩
    rw [hkeys] at hsplit
    cases before with
    | nil =>
      obtain ⟨rfl, -⟩ := List.cons.inj hsplit
      exact hfound
    | cons earlier rest =>
      obtain ⟨rfl, -⟩ := List.cons.inj hsplit
      exact absurd hmanager (hbefore _ List.mem_cons_self)
  · obtain ⟨hrule, -, -, hcase⟩ := joinKey?_relates staffCatalog "teams" "leads"
    rw [hcase "TEAMS" "leads" (hteams.1.trans hteams.2.1.symm) rfl, hrule, hteams.2.1, hteams.2.2]
    exact .ownKey (hundeclared (by decide)) ⟨by decide +kernel, by decide +kernel⟩
  · refine ((joinKey?_relates staffCatalog "leads" "teams").1 _).2 ?_
    rw [hteams.2.1, hteams.2.2]
    exact .ownKey (hundeclared (by decide)) ⟨by decide +kernel, by decide +kernel⟩
  · refine ((joinKey?_relates staffCatalog "teams" "employees").1 _).2 ?_
    rw [hteams.2.1, hemployees.2]
    refine .unrelated ⟨hundeclared (by decide), fun column => ⟨?_, ?_⟩⟩
    · exact keyByName_eq_none_iff.1 (by decide +kernel) column
    · exact keyByName_eq_none_iff.1 (by decide +kernel) column

end Snapshot
end Granary
