import Granary.Proofs.Compile.Grouping
import Granary.Proofs.Decimal.Truncation
import Granary.Proofs.Request.RoundTrip

/-!
# Limits that a server accepts

A request for the highest ranking rows says how many it wants as a number of any kind or as a text,
and what is positive becomes the limit of the statement.  A server takes a limit up to `2 ^ 63 - 1`.
The count is an unsigned word, and nothing keeps it in the lower half: a natural is taken as it is,
and a double, which a text is read as whatever it says, is cut to a word.  `limit_accepted_iff` says
which numbers lead to a limit that is accepted.
-/

namespace Granary

open Outcome

/-- The greatest limit that a server accepts, which is the greatest number of its widest integer
type. -/
def Sql.greatestLimit : Nat := 2 ^ 63 - 1

namespace Request

/-- What a request in JSON says of the number of rows that it wants: under either name of the field,
or at its place in a list. -/
inductive SaysTop : Json → Json → Prop where
  | newer {fields : List (String × Json)} {v : Json} (h : ("topN", v) ∈ fields) :
      SaysTop (.object fields) v
  | older {fields : List (String × Json)} {v : Json} (h : ("top_n", v) ∈ fields) :
      SaysTop (.object fields) v
  | ninth {items : List Json} {v : Json} (h : items[8]? = some v) : SaysTop (.array items) v

/-- The number that is given is less than `2 ^ 63`: a natural as it is, and any other number, and
what a text is read as, as a double. -/
def IsLowCount : Json → Prop
  | .number n =>
    match n.asNat? with
    | some k => k < 2 ^ 63
    | none => n.toFloat < 9223372036854775808
  | .string s => ∃ x, Decimal.float? (Text.trim s) = some x ∧ x < 9223372036854775808
  | _ => False

section

variable {r : Request} {doc v : Json} {n : Nat} {snapshot? : Option Snapshot} {st : Statement}

theorem countOfFloat_le_iff {x : Float} (h : countOfFloat x = some n) :
    n ≤ Sql.greatestLimit ↔ x < 9223372036854775808 := by
  unfold countOfFloat at h
  split at h
  · rename_i hone
    rw [← Decimal.toUInt64_lt_half_iff hone, Option.some.inj h, Sql.greatestLimit]
    omega
  · cases h

theorem positiveCount_le_iff (h : positiveCount v = some n) :
    n ≤ Sql.greatestLimit ↔ IsLowCount v := by
  unfold positiveCount at h
  split at h
  · rename_i number
    have hcount := (Option.filter_eq_some_iff.1 h).1
    rw [IsLowCount]
    cases hnat : number.asNat? with
    | some k =>
      rw [hnat, Option.some_or] at hcount
      rw [Option.some.inj hcount, Sql.greatestLimit]
      omega
    | none =>
      rw [hnat, Option.none_or] at hcount
      exact countOfFloat_le_iff hcount
  · obtain ⟨x, hx, hcount⟩ := Option.bind_eq_some_iff.1 (Option.filter_eq_some_iff.1 h).1
    rw [countOfFloat_le_iff hcount, IsLowCount]
    simp [hx]
  · cases h

/-- The count of a request that was read is the one that it says. -/
theorem top_of_decode (hgiven : SaysTop doc v) (h : decode doc = .ok r) :
    r.top = positiveCount v := by
  obtain ⟨get, hbuild, hgives⟩ := Data.build_of_gives (by decide) h
  have hget : get "topN" = some v := by
    cases hgiven with
    | newer hmem => exact hgives _ v (.map (e := ("topN", v)) rfl hmem rfl)
    | older hmem => exact hgives _ v (.map (e := ("top_n", v)) rfl hmem rfl)
    | ninth hitem => exact hgives _ v (.list (i := 8) rfl rfl hitem)
  -- The fields are taken off from the last one to the first.
  obtain ⟨_, hranked, _, _, hdisplay⟩ := Data.Fields.build_seq.1 hbuild
  obtain ⟨_, htopped, _, _, rfl⟩ := Data.Fields.build_seq.1 hranked
  obtain ⟨_, hfiltered, top, htop, rfl⟩ := Data.Fields.build_seq.1 htopped
  obtain ⟨_, hdated, _, _, rfl⟩ := Data.Fields.build_seq.1 hfiltered
  obtain ⟨_, hgathered, _, _, rfl⟩ := Data.Fields.build_seq.1 hdated
  obtain ⟨_, hkept, _, _, rfl⟩ := Data.Fields.build_seq.1 hgathered
  obtain ⟨_, hjoined, _, _, rfl⟩ := Data.Fields.build_seq.1 hkept
  obtain ⟨_, hmeasured, _, _, rfl⟩ := Data.Fields.build_seq.1 hjoined
  obtain ⟨_, hgrouped, _, _, rfl⟩ := Data.Fields.build_seq.1 hmeasured
  obtain ⟨_, hnamed, _, _, rfl⟩ := Data.Fields.build_seq.1 hgrouped
  obtain ⟨_, _, rfl⟩ := Data.Fields.build_map.1 hnamed
  rw [← hdisplay]
  simp only [Data.fieldOr, hget, Except.ok.injEq] at htop
  exact htop.symm

theorem sql_eq_of_limit (h : st.query.limit = some n) :
    ∃ front, st.sql = front ++ " LIMIT " ++ toString n := by
  have hclause : Sql.clause "LIMIT" (st.query.limit.toList.map toString) =
      " LIMIT " ++ toString n := by
    rw [h]
    rfl
  rw [Statement.sql]
  unfold Sql.Select.render
  rw [hclause, ← String.append_assoc]
  exact ⟨_, rfl⟩

/-- The limit of a statement is positive and stands at its end as it is, but it is one that a server
accepts only if the number that the request gave is small enough. -/
theorem limit_accepted_iff (hgiven : SaysTop doc v) (hread : decode doc = .ok r)
    (hcompiled : r.compile snapshot? = .ok st) (hlimit : st.query.limit = some n) :
    0 < n ∧ (n ≤ Sql.greatestLimit ↔ IsLowCount v) ∧
      ∃ front, st.sql = front ++ " LIMIT " ++ toString n := by
  obtain ⟨stages, hstages, rfl⟩ := compile_eq_ok_iff.1 hcompiled
  have htop : r.top = some n := ((order_of_rankedOrder hstages.order).1 n).1 hlimit |>.1
  have hcount : positiveCount v = some n := (top_of_decode hgiven hread).symm.trans htop
  exact ⟨pos_of_positiveCount hcount, positiveCount_le_iff hcount, sql_eq_of_limit hlimit⟩

end

/-- A request for the shops with the most orders, for so many of them. -/
def topReport (count : Json) : Json := .object [
  ("table", .string "orders"), ("dimensions", .array [.string "shop"]),
  ("metrics", .array [.string "*|COUNT"]), ("topN", count)]

theorem limit_accepted_topReport : ∃ r st, decode (topReport (Json.nat (2 ^ 63 - 1))) = .ok r ∧
    r.compile none = .ok st ∧ st.query.limit = some (2 ^ 63 - 1) ∧
    (2 ^ 63 - 1 ≤ Sql.greatestLimit ↔ IsLowCount (Json.nat (2 ^ 63 - 1))) ∧
    ∃ front, st.sql = front ++ " LIMIT " ++ toString (2 ^ 63 - 1) := by
  have hgiven : SaysTop (topReport (Json.nat (2 ^ 63 - 1))) (Json.nat (2 ^ 63 - 1)) :=
    .newer (by simp)
  have hread : ((decode (topReport (Json.nat (2 ^ 63 - 1)))).toOption.bind fun r =>
      (r.compile none).toOption.map (·.query.limit)) = some (some (2 ^ 63 - 1)) := by
    decide +kernel
  obtain ⟨r, hr, hst⟩ := Option.bind_eq_some_iff.1 hread
  obtain ⟨st, hst, hlimit⟩ := Option.map_eq_some_iff.1 hst
  have hdecode := toOption_eq_some.1 hr
  have hcompile := toOption_eq_some.1 hst
  obtain ⟨_, haccepted, hsql⟩ := limit_accepted_iff hgiven hdecode hcompile hlimit
  exact ⟨r, st, hdecode, hcompile, hlimit, haccepted, hsql⟩

/-- The greatest limit as a text is read as the double after it, which no server accepts. -/
theorem limit_refused_topReport : ∃ r st,
    decode (topReport (.string "9223372036854775807")) = .ok r ∧ r.compile none = .ok st ∧
    st.query.limit = some 9223372036854775808 ∧ Sql.greatestLimit < 9223372036854775808 ∧
    st.sql = "SELECT \"shop\", COUNT(*) AS \"count_star\" FROM \"orders\" " ++
      "GROUP BY \"shop\" ORDER BY \"count_star\" DESC LIMIT 9223372036854775808" := by
  have hread : ((decode (topReport (.string "9223372036854775807"))).toOption.bind fun r =>
      (r.compile none).toOption.map fun st => (st.query.limit, st.sql)) =
      some (some 9223372036854775808, "SELECT \"shop\", COUNT(*) AS \"count_star\" FROM " ++
        "\"orders\" GROUP BY \"shop\" ORDER BY \"count_star\" DESC LIMIT 9223372036854775808") := by
    decide +kernel
  obtain ⟨r, hr, hst⟩ := Option.bind_eq_some_iff.1 hread
  obtain ⟨st, hst, hparts⟩ := Option.map_eq_some_iff.1 hst
  exact ⟨r, st, toOption_eq_some.1 hr, toOption_eq_some.1 hst, congrArg Prod.fst hparts,
    by decide, congrArg Prod.snd hparts⟩

end Request
end Granary
