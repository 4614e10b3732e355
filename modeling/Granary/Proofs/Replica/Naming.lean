import Granary.Replica.Name

/-!
# Names tell where a table came from

The name of a connection neither has two underscores in a row nor ends in one, so the first two
underscores in the name of a warehouse table are the separator: `cut_tableName`.  All that keeps the
tables of different connections apart follows from this one cut.
-/

namespace Granary.Replica

/-- Two underscores behind characters that have no two of them in a row, and none at the end, are
the first ones. -/
theorem cutAt_append {name : List Char} (hfree : Text.cutAt ['_', '_'] name = none)
    (hlast : name.getLast? ≠ some '_') (rest : List Char) :
    Text.cutAt ['_', '_'] (name ++ '_' :: '_' :: rest) = some (name, rest) := by
  induction name with
  | nil => rfl
  | cons c name ih =>
    simp only [Text.cutAt] at hfree
    split at hfree
    · cases hfree
    · rename_i hprefix
      rw [Option.map_eq_none_iff] at hfree
      have hcut : Text.cutAt ['_', '_'] (name ++ '_' :: '_' :: rest) = some (name, rest) := by
        refine ih hfree fun h => hlast ?_
        rw [List.getLast?_cons, h]
        rfl
      -- The separator cannot begin at `c`: with an underscore after it, it would be in the name,
      -- and with nothing after it, the name would end in an underscore.
      have hnot : ['_', '_'].isPrefixOf (c :: (name ++ '_' :: '_' :: rest)) ≠ true := by
        cases name with
        | nil =>
          have hc : '_' ≠ c := fun h => hlast (h ▸ rfl)
          simp [List.isPrefixOf, hc]
        | cons d name => simpa [List.isPrefixOf] using hprefix
      rw [List.cons_append, Text.cutAt, if_neg hnot, hcut]
      rfl

variable {c d x y : String}

theorem toList_tableName (c x : String) :
    (tableName c x).toList = c.toList ++ '_' :: '_' :: x.toList := by
  simp [tableName, stem, separator]

theorem checkName_eq_ok_iff : checkName c = .ok () ↔ isName c = true := by
  unfold checkName
  by_cases h : isName c = true
  · rw [if_pos h]
    exact iff_of_true rfl h
  · rw [if_neg h]
    exact iff_of_false (fun he => nomatch he) h

/-- The first separator of a table's name is the one behind its connection. -/
theorem cut_tableName (hc : isName c = true) (x : String) :
    Text.cut separator (tableName c x) = some (c, x) := by
  simp only [isName, Bool.and_eq_true, Bool.not_eq_true', bne_iff_ne, ne_eq, Text.occursIn,
    Option.isSome_eq_false_iff, Option.isNone_iff_eq_none] at hc
  obtain ⟨⟨_, hfree⟩, hlast⟩ := hc
  have hcut := cutAt_append hfree hlast x.toList
  rw [Text.cut, toList_tableName]
  show Option.map _ (Text.cutAt ['_', '_'] _) = _
  rw [hcut, Option.map_some, String.ofList_toList, String.ofList_toList]

theorem tableName_inj (hc : isName c = true) (hd : isName d = true)
    (h : tableName c x = tableName d y) : c = d ∧ x = y := by
  have hcut : some (c, x) = some (d, y) := by
    rw [← cut_tableName hc x, h, cut_tableName hd y]
  exact Prod.mk.inj (Option.some.inj hcut)

/-- Whether a table's name begins with the stem of a connection. -/
def Under (c table : String) : Prop := (stem c).toList.isPrefixOf table.toList = true

instance (c table : String) : Decidable (Under c table) :=
  inferInstanceAs (Decidable (_ = true))

theorem under_iff {table : String} : Under c table ↔ ∃ x, table = tableName c x := by
  rw [Under, List.isPrefixOf_iff_prefix]
  constructor
  · rintro ⟨rest, hrest⟩
    refine ⟨String.ofList rest, String.toList_inj.1 ?_⟩
    rw [← hrest, tableName, String.toList_append, String.toList_ofList]
  · rintro ⟨x, rfl⟩
    rw [tableName, String.toList_append]
    exact List.prefix_append _ _

theorem under_tableName (c x : String) : Under c (tableName c x) := under_iff.2 ⟨x, rfl⟩

theorem under_tableName_iff (hc : isName c = true) (hd : isName d = true) :
    Under c (tableName d x) ↔ c = d := by
  constructor
  · intro h
    obtain ⟨y, hy⟩ := under_iff.1 h
    exact (tableName_inj hd hc hy).1.symm
  · rintro rfl
    exact under_tableName c x

end Granary.Replica
