import Granary.Proofs.Replica.Tally
import Mathlib.Data.List.Forall2
import Mathlib.Logic.Relation

/-!
# Replicating a replica

A warehouse may itself be replicated.  Its catalog then lists the replicated columns as columns of a
source, by the names that the standard has for their types and with their limits, and what each of
them becomes is the type that it has.

This rests on an invariant.  Not every type is read as what it is written as: a scale is cut down to
the precision, and a `varchar` of more than 255 characters is read as a text.  But such types are
none that a source column becomes (`regular_ofSource`), and those that one does become are read as
they are (`ofSource_of_lists`).
-/

namespace Granary.Replica

open Rehearsal (catalogName createdTypes)

/-- The limits of a column are those of its type.  Nothing is asked of the limits that types of its
kind do not have. -/
def Limits.Are (limits : Limits) : ColumnType → Prop
  | .numeric precision scale =>
    limits.precision = some (precision : Int) ∧ limits.scale = some (scale : Int)
  | .varchar length => limits.maxLength = some (length : Int)
  | .char length => limits.maxLength = some (length : Int)
  | _ => True

/-- The column is how a catalog lists one of the given type. -/
structure SourceColumn.Lists (r : SourceColumn) (type : ColumnType) : Prop where
  sourceType : r.sourceType = catalogName type
  limits : r.limits.Are type

/-- The second column is how the catalog lists the replica of the first. -/
def SourceColumn.Relists (c r : SourceColumn) : Prop := r.Lists (Column.ofSource c).type

/-- The limits of a type are positive and no more than a replica has. -/
def ColumnType.Regular : ColumnType → Prop
  | .numeric precision scale => 0 < precision ∧ scale ≤ precision
  | .varchar length => 0 < length ∧ length ≤ longestVarchar
  | .char length => 0 < length
  | _ => True

/-! ## The types that there are in a warehouse -/

theorem pos_of_positive? {n : Option Int} {m : Nat} (h : positive? n = some m) : 0 < m := by
  obtain ⟨i, hi, rfl⟩ := Option.map_eq_some_iff.1 h
  have hpos : 0 < i := by simpa using (Option.filter_eq_some_iff.1 hi).2
  exact Int.pos_iff_toNat_pos.1 hpos

theorem positive?_natCast {n : Nat} (h : 0 < n) : positive? (some (n : Int)) = some n := by
  have hpos : (0 : Int) < n := Int.natCast_pos.2 h
  rw [positive?, Option.filter_some, if_pos (decide_eq_true hpos), Option.map_some,
    Int.toNat_natCast]

namespace ColumnType

theorem regular_numericOf (limits : Limits) : (numericOf limits).Regular := by
  refine ⟨?_, Nat.min_le_right _ _⟩
  cases hprecision : positive? limits.precision with
  | none => exact Nat.zero_lt_succ 9
  | some p => exact pos_of_positive? hprecision

theorem regular_varcharOf (limits : Limits) : (varcharOf limits).Regular := by
  unfold varcharOf
  split
  · rename_i n hlength
    split
    · rename_i hshort
      exact ⟨pos_of_positive? hlength, hshort⟩
    · trivial
  · trivial

theorem regular_charOf (limits : Limits) : (charOf limits).Regular := by
  cases hlength : positive? limits.maxLength with
  | none =>
    rw [charOf, hlength]
    exact Nat.zero_lt_succ 254
  | some n =>
    rw [charOf, hlength]
    exact pos_of_positive? hlength

theorem regular_of_known (limits : Limits) : ∀ entry ∈ known, (entry.2 limits).Regular := by
  simp only [known, List.forall_mem_cons, List.not_mem_nil, false_imp_iff, implies_true, and_true]
  have hmoney : (numeric 19 4).Regular := ⟨by decide, by decide⟩
  exact ⟨trivial, trivial, trivial, regular_numericOf limits, trivial, trivial, hmoney, trivial,
    trivial, trivial, trivial, trivial, trivial, trivial, trivial, trivial, trivial,
    regular_varcharOf limits, regular_charOf limits, trivial⟩

end ColumnType

/-- What a source column becomes, known or not, is regular. -/
theorem Column.regular_ofSource (c : SourceColumn) : (Column.ofSource c).type.Regular := by
  unfold Column.ofSource
  cases hfound : ColumnType.ofSource? c.sourceType c.limits with
  | none => trivial
  | some type =>
    obtain ⟨entry, hentry, rfl⟩ := Option.map_eq_some_iff.1 hfound
    exact ColumnType.regular_of_known c.limits entry (List.mem_of_find?_eq_some hentry)

/-! ## What their names are read as -/

theorem ColumnType.numericOf_of_are {limits : Limits} {precision scale : Nat}
    (h : (numeric precision scale).Regular) (hlimits : limits.Are (.numeric precision scale)) :
    numericOf limits = .numeric precision scale := by
  obtain ⟨hprecision, hscale⟩ := hlimits
  have hnonneg : (0 : Int) ≤ scale := Int.natCast_nonneg scale
  rw [numericOf, hprecision, hscale, positive?_natCast h.1, Option.filter_some,
    if_pos (decide_eq_true hnonneg), Option.map_some, Int.toNat_natCast, Option.getD_some,
    Option.getD_some, Nat.min_eq_left h.2]

theorem ColumnType.varcharOf_of_are {limits : Limits} {length : Nat}
    (h : (varchar length).Regular) (hlimits : limits.Are (.varchar length)) :
    varcharOf limits = .varchar length := by
  have hlength : limits.maxLength = some (length : Int) := hlimits
  rw [varcharOf, hlength, positive?_natCast h.1]
  exact if_pos h.2

theorem ColumnType.charOf_of_are {limits : Limits} {length : Nat}
    (h : (char length).Regular) (hlimits : limits.Are (.char length)) :
    charOf limits = .char length := by
  have hlength : limits.maxLength = some (length : Int) := hlimits
  rw [charOf, hlength, positive?_natCast h, Option.getD_some]

/-- A regular type is read off its name and its limits. -/
theorem ColumnType.ofSource?_catalogName {type : ColumnType} {limits : Limits} (h : type.Regular)
    (hlimits : limits.Are type) : ofSource? (catalogName type) limits = some type := by
  rw [ofSource?, Rehearsal.normal_catalogName]
  cases type with
  | numeric precision scale => exact congrArg some (numericOf_of_are h hlimits)
  | varchar length => exact congrArg some (varcharOf_of_are h hlimits)
  | char length => exact congrArg some (charOf_of_are h hlimits)
  | _ => rfl

theorem Column.ofSource_of_lists {r : SourceColumn} {type : ColumnType} (h : type.Regular)
    (hr : r.Lists type) : Column.ofSource r = ⟨r.name, type, r.nullable, false⟩ := by
  rw [Column.ofSource, hr.sourceType, ColumnType.ofSource?_catalogName h hr.limits]

/-! ## One replica after another -/

theorem Column.ofSource_of_relists {c r : SourceColumn} (h : c.Relists r) :
    Column.ofSource r = ⟨r.name, (Column.ofSource c).type, r.nullable, false⟩ :=
  ofSource_of_lists (regular_ofSource c) h

theorem regular_createdTypes (columns : List SourceColumn) :
    ∀ type ∈ createdTypes (columns.map Column.ofSource), type.Regular := by
  intro type hmem
  obtain hown | haudit := List.mem_append.1 hmem
  · rw [List.map_map] at hown
    obtain ⟨c, -, rfl⟩ := List.mem_map.1 hown
    exact Column.regular_ofSource c
  · obtain ⟨-, -, rfl⟩ := List.mem_map.1 haudit
    trivial

theorem types_of_forall₂ {types : List ColumnType} (h : ∀ type ∈ types, type.Regular)
    {listed : List SourceColumn} (hlisted : List.Forall₂ SourceColumn.Lists listed types) :
    listed.map (fun r => (Column.ofSource r).type) = types := by
  induction hlisted with
  | nil => rfl
  | cons hr _ ih =>
    obtain ⟨hhead, htail⟩ := List.forall_mem_cons.1 h
    rw [List.map_cons, Column.ofSource_of_lists hhead hr, ih htail]

/-- A column has the type that its first replica has in every replica of a replica, limits included,
and the type is always known there.  So it is with a whole table, the columns that replication adds
included. -/
theorem ofSource_relisted :
    (∀ c r : SourceColumn, Relation.TransGen SourceColumn.Relists c r →
      (Column.ofSource r).type = (Column.ofSource c).type ∧ (Column.ofSource r).fallback = false) ∧
    (∀ columns listed : List SourceColumn,
      List.Forall₂ SourceColumn.Lists listed (createdTypes (columns.map Column.ofSource)) →
        listed.map (fun r => (Column.ofSource r).type) =
          createdTypes (columns.map Column.ofSource)) := by
  refine ⟨fun c r h => ?_, fun columns listed h =>
    types_of_forall₂ (regular_createdTypes columns) h⟩
  induction h with
  | single hr =>
    rw [Column.ofSource_of_relists hr]
    exact ⟨rfl, rfl⟩
  | tail _ hr ih =>
    rw [Column.ofSource_of_relists hr]
    exact ⟨ih.1, rfl⟩

/-- An amount of which only a scale is declared that is more than ten digits have. -/
def amount : SourceColumn := ⟨"amount", "DECIMAL", true, { scale := some 12 }, 1⟩

/-- The amount as the catalog of its warehouse lists it, and any further one. -/
def amountListed : SourceColumn :=
  ⟨"amount", "numeric", true, { precision := some 10, scale := some 10 }, 1⟩

theorem ofSource_relisted_amount :
    (Column.ofSource amountListed).type = .numeric 10 10 ∧
    (Column.ofSource amountListed).fallback = false ∧
    [amountListed, ⟨"written", "timestamp without time zone", true, {}, 2⟩,
      ⟨"written_again", "timestamp without time zone", true, {}, 3⟩].map
        (fun r => (Column.ofSource r).type) = [.numeric 10 10, .timestamp, .timestamp] := by
  have hamount : (Column.ofSource amount).type = .numeric 10 10 := by decide +kernel
  have hlisted : amountListed.Lists (.numeric 10 10) := ⟨rfl, rfl, rfl⟩
  have hfirst : amount.Relists amountListed := by
    rw [SourceColumn.Relists, hamount]
    exact hlisted
  have hnext : amountListed.Relists amountListed := by
    rw [SourceColumn.Relists, Column.ofSource_of_relists hfirst, hamount]
    exact hlisted
  have hcreated : createdTypes ([amount].map Column.ofSource) =
      [.numeric 10 10, .timestamp, .timestamp] := by decide +kernel
  obtain ⟨hone, htable⟩ := ofSource_relisted
  obtain ⟨htype, hknown⟩ := hone amount amountListed (.tail (.single hfirst) hnext)
  refine ⟨htype.trans hamount, hknown, ?_⟩
  refine (htable [amount] _ ?_).trans hcreated
  rw [hcreated]
  exact .cons hlisted (.cons ⟨rfl, trivial⟩ (.cons ⟨rfl, trivial⟩ .nil))

end Granary.Replica
