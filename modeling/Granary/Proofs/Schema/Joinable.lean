import Granary.Proofs.Schema.Built
import Granary.Proofs.Schema.JoinKey
import Granary.Proofs.Text.AsciiCase
import Mathlib.Data.List.Dedup
import Mathlib.Data.List.Induction
import Mathlib.Data.Prod.Lex

/-!
# What can be picked next

The picks are gathered first, each text once, and behind them the tables that belong together with
the last pick; then all are sorted.  The sort neither loses nor repeats anything, so which tables
are listed is settled by what is gathered (`nodup_joinable_iff`).  It is a sort by a linear order,
that of `place`, in which the last pick comes behind all other texts (`arranged_joinable`).
-/

namespace Granary

open Text (asciiLower lowercase sameAscii)

/-! ## Picks -/

theorem firsts_concat (xs : List String) (x : String) :
    firsts (xs ++ [x]) = if x ∈ firsts xs then firsts xs else firsts xs ++ [x] := by
  simp only [firsts, List.foldl_append, List.foldl_cons, List.foldl_nil, List.contains_iff_mem]

/-- Of a text that is picked again only the first pick remains. -/
theorem firsts_eq_dedup (xs : List String) : firsts xs = xs.reverse.dedup.reverse := by
  induction xs using List.reverseRecOn with
  | nil => rfl
  | append_singleton xs x ih =>
    have hmem : x ∈ firsts xs ↔ x ∈ xs.reverse := by
      rw [ih, List.mem_reverse, List.mem_dedup]
    rw [firsts_concat, List.reverse_concat]
    by_cases hx : x ∈ xs.reverse
    · rw [if_pos (hmem.2 hx), List.dedup_cons_of_mem hx, ih]
    · rw [if_neg (fun h => hx (hmem.1 h)), List.dedup_cons_of_notMem hx, List.reverse_cons, ih]

theorem mem_firsts {xs : List String} {x : String} : x ∈ firsts xs ↔ x ∈ xs := by
  rw [firsts_eq_dedup, List.mem_reverse, List.mem_dedup, List.mem_reverse]

theorem nodup_firsts (xs : List String) : (firsts xs).Nodup := by
  rw [firsts_eq_dedup, List.nodup_reverse]
  exact List.nodup_dedup _

theorem exists_last_of_ne_nil {xs : List String} (h : xs ≠ []) :
    ∃ last, (firsts xs).getLast? = some last := by
  obtain ⟨x, hx⟩ := List.exists_mem_of_ne_nil xs h
  exact ⟨_, List.getLast?_eq_getLast_of_ne_nil (List.ne_nil_of_mem (mem_firsts.2 hx))⟩

/-! ## Sorting -/

theorem offer_eq_insertBy (last x : String) (xs : List String) :
    offer last x xs = insertBy (offeredBefore last) x xs := by
  induction xs with
  | nil => rfl
  | cons y rest ih => rw [offer, insertBy, ih]

theorem offer_perm (last x : String) (xs : List String) : (offer last x xs).Perm (x :: xs) := by
  rw [offer_eq_insertBy]
  exact insertBy_perm (offeredBefore last) x xs

/-- Texts are sorted one after another. -/
def offerAll (last : String) (xs sorted : List String) : List String :=
  xs.foldl (fun sorted x => offer last x sorted) sorted

theorem offerAll_perm (last : String) (xs sorted : List String) :
    (offerAll last xs sorted).Perm (xs ++ sorted) := by
  induction xs generalizing sorted with
  | nil => exact List.Perm.refl _
  | cons x rest ih =>
    have hoffer : (rest ++ offer last x sorted).Perm (rest ++ x :: sorted) :=
      (offer_perm last x sorted).append_left rest
    exact ((ih _).trans hoffer).trans List.perm_middle

/-! ## What is gathered -/

namespace Snapshot

variable {s : Snapshot} {picked existing : List String} {last : String}

/-- Adds a table behind what is gathered, unless it is there or does not belong together with the
last pick. -/
def gatherTable (s : Snapshot) (last : String) (gathered : List String) (key : String) :
    List String :=
  if !sameAscii key last && (s.joinKey? last key).isSome && !gathered.any (sameAscii · key)
  then gathered ++ [s.tableSpelling key] else gathered

/-- The picks and the tables that are offered beside them, before they are sorted. -/
def gathered (s : Snapshot) (picked : List String) (last : String) : List String :=
  s.tableKeys.foldl (s.gatherTable last) picked

theorem joinable_eq (h : (firsts existing).getLast? = some last) :
    s.joinable existing = offerAll last (s.gathered (firsts existing) last) [] := by
  rw [joinable, h]
  rfl

/-- Whether a table is offered beside the picks. -/
def isOffered (s : Snapshot) (picked : List String) (last key : String) : Bool :=
  (s.joinKey? last key).isSome && !picked.any (sameAscii · key)

theorem isOffered_iff {key : String} : s.isOffered picked last key = true ↔
    (s.joinKey? last key).isSome ∧ ∀ pick ∈ picked, ¬ sameAscii pick key = true := by
  simp [isOffered]

theorem lowercase_of_mem_tableKeys (hs : s.Built) {key : String} (h : key ∈ s.tableKeys) :
    lowercase key = key := by
  obtain ⟨t, ht, rfl⟩ := List.mem_map.1 h
  rw [← hs.isSpelled t ht, Text.lowercase_lowercase]

theorem lowercase_tableSpelling_of_mem (hs : s.Built) {key : String} (h : key ∈ s.tableKeys) :
    lowercase (s.tableSpelling key) = key := by
  rw [lowercase_tableSpelling hs.isSpelled, lowercase_of_mem_tableKeys hs h]

theorem mem_tableKeys_iff {name : String} :
    lowercase name ∈ s.tableKeys ↔ s.hasTable name = true := by
  simp [tableKeys, hasTable, table?]

/-- A table that is gathered stands in the way of no other, since its spelling is its key but for
letter case. -/
theorem foldl_gatherTable (hlast : last ∈ picked) {keys offered : List String}
    (hkeys : ∀ key ∈ keys, lowercase key = key ∧ lowercase (s.tableSpelling key) = key)
    (hnodup : keys.Nodup) (hoffered : ∀ x ∈ offered, lowercase x ∉ keys) :
    keys.foldl (s.gatherTable last) (picked ++ offered) =
      picked ++ offered ++ (keys.filter (s.isOffered picked last)).map s.tableSpelling := by
  induction keys generalizing offered with
  | nil => simp
  | cons key rest ih =>
    obtain ⟨⟨hkey, hspelling⟩, hrest⟩ := List.forall_mem_cons.1 hkeys
    obtain ⟨hnew, hnodup⟩ := List.nodup_cons.1 hnodup
    have hbehind : ∀ x ∈ offered, lowercase x ∉ rest :=
      fun x hx hmem => hoffered x hx (List.mem_cons_of_mem key hmem)
    have hapart : ∀ x ∈ offered, ¬ sameAscii x key = true := fun x hx hsame =>
      hoffered x hx ((Text.lowercase_eq_of_sameAscii hsame).trans hkey ▸ List.mem_cons_self)
    have hadd : (!sameAscii key last && (s.joinKey? last key).isSome &&
        !(picked ++ offered).any (sameAscii · key)) = s.isOffered picked last key := by
      have hoff : offered.any (sameAscii · key) = false := by
        simpa using hapart
      rw [List.any_append, hoff, Bool.or_false, isOffered, Bool.and_assoc]
      cases hpicked : picked.any (sameAscii · key) with
      | true => simp
      | false =>
        have hother : sameAscii key last = false := by
          rw [Bool.eq_false_iff, Ne, Text.sameAscii_iff, eq_comm, ← Text.sameAscii_iff]
          exact fun hsame => List.any_eq_false.1 hpicked last hlast hsame
        simp [hother]
    rw [List.foldl_cons, gatherTable, hadd]
    cases hcase : s.isOffered picked last key with
    | true =>
      rw [if_pos rfl, List.append_assoc, ih hrest hnodup, List.filter_cons_of_pos hcase,
        List.map_cons]
      · simp
      · refine List.forall_mem_append.2 ⟨hbehind, List.forall_mem_singleton.2 ?_⟩
        rwa [hspelling]
    | false =>
      rw [if_neg Bool.false_ne_true, ih hrest hnodup hbehind,
        List.filter_cons_of_neg (by simp [hcase])]

theorem gathered_eq (hs : s.Built) (hlast : last ∈ picked) : s.gathered picked last =
    picked ++ (s.tableKeys.filter (s.isOffered picked last)).map s.tableSpelling := by
  have hkeys : ∀ key ∈ s.tableKeys, lowercase key = key ∧ lowercase (s.tableSpelling key) = key :=
    fun key hkey =>
      ⟨lowercase_of_mem_tableKeys hs hkey, lowercase_tableSpelling_of_mem hs hkey⟩
  have hnone : ∀ x ∈ ([] : List String), lowercase x ∉ s.tableKeys :=
    fun x hx => absurd hx List.not_mem_nil
  have hfold := foldl_gatherTable hlast hkeys (hs.ordered.imp ne_of_lt) hnone
  rwa [List.append_nil] at hfold

theorem joinable_perm (h : (firsts existing).getLast? = some last) :
    (s.joinable existing).Perm (s.gathered (firsts existing) last) := by
  have hperm := offerAll_perm last (s.gathered (firsts existing) last) []
  rwa [List.append_nil, ← joinable_eq h] at hperm

/-! ## Which tables are listed -/

theorem joinKey?_lowercase (a b : String) : s.joinKey? a (lowercase b) = s.joinKey? a b := by
  simp only [joinKey?, Text.lowercase_lowercase]

theorem mem_joinable_iff (hs : s.Built) (h : (firsts existing).getLast? = some last)
    {x : String} : x ∈ s.joinable existing ↔ x ∈ existing ∨
      ∃ key ∈ s.tableKeys, s.isOffered (firsts existing) last key = true ∧
        s.tableSpelling key = x := by
  rw [(joinable_perm h).mem_iff, gathered_eq hs (List.mem_of_getLast? h), List.mem_append,
    mem_firsts]
  simp only [List.mem_map, List.mem_filter, and_assoc]

/-- A table that was not picked is listed, as the catalog spells it, exactly if it belongs together
with the last pick, and it is not listed in any other spelling. -/
theorem mem_joinable_of_not_picked (hs : s.Built) (h : (firsts existing).getLast? = some last)
    {key : String} (hkey : key ∈ s.tableKeys) (hnew : ∀ pick ∈ existing, lowercase pick ≠ key) :
    (s.tableSpelling key ∈ s.joinable existing ↔ (s.joinKey? last key).isSome) ∧
      ∀ x ∈ s.joinable existing, lowercase x = key → x = s.tableSpelling key := by
  have hoffered : s.isOffered (firsts existing) last key = true ↔
      (s.joinKey? last key).isSome := by
    rw [isOffered_iff, and_iff_left]
    intro pick hpick hsame
    refine hnew pick (mem_firsts.1 hpick) ?_
    rw [Text.lowercase_eq_of_sameAscii hsame, lowercase_of_mem_tableKeys hs hkey]
  have hlisted : ∀ x ∈ s.joinable existing, lowercase x = key →
      x = s.tableSpelling key ∧ s.isOffered (firsts existing) last key = true := by
    intro x hx hlower
    obtain hpick | ⟨other, hother, hoff, rfl⟩ := (mem_joinable_iff hs h).1 hx
    · exact absurd hlower (hnew x hpick)
    · rw [lowercase_tableSpelling_of_mem hs hother] at hlower
      exact ⟨by rw [hlower], hlower ▸ hoff⟩
  refine ⟨⟨fun hmem => ?_, fun hsome => ?_⟩, fun x hx hlower => (hlisted x hx hlower).1⟩
  · exact hoffered.1 (hlisted _ hmem (lowercase_tableSpelling_of_mem hs hkey)).2
  · exact (mem_joinable_iff hs h).2 (.inr ⟨key, hkey, hoffered.2 hsome, rfl⟩)

/-- Picks that are recognized in whatever letter case they are picked again or offered. -/
structure Recognized (s : Snapshot) (existing : List String) (last : String) : Prop where
  /-- No two picks differ in letter case alone. -/
  distinct : ∀ pick ∈ existing, ∀ other ∈ existing, lowercase pick = lowercase other → pick = other
  /-- A pick that belongs together with the last one has no other capital letters than those of
  ASCII. -/
  plain : ∀ pick ∈ existing, s.hasTable pick = true → (s.joinKey? last pick).isSome = true →
    lowercase pick = asciiLower pick

theorem nodup_lowercase_joinable_iff (hs : s.Built) (h : (firsts existing).getLast? = some last) :
    ((s.joinable existing).map lowercase).Nodup ↔ s.Recognized existing last := by
  have hmap : ((s.tableKeys.filter (s.isOffered (firsts existing) last)).map
      s.tableSpelling).map lowercase = s.tableKeys.filter (s.isOffered (firsts existing) last) := by
    rw [List.map_map]
    refine (List.map_congr_left fun key hkey => ?_).trans (List.map_id _)
    exact lowercase_tableSpelling_of_mem hs (List.mem_of_mem_filter hkey)
  have hkeys : (s.tableKeys.filter (s.isOffered (firsts existing) last)).Nodup :=
    List.Nodup.filter _ (hs.ordered.imp ne_of_lt)
  rw [((joinable_perm h).map lowercase).nodup_iff, gathered_eq hs (List.mem_of_getLast? h),
    List.map_append, hmap, List.nodup_append', List.nodup_map_iff_inj_on (nodup_firsts existing)]
  simp only [mem_firsts]
  constructor
  · rintro ⟨hdistinct, -, hdisjoint⟩
    refine ⟨hdistinct, fun pick hpick hthere hsome => ?_⟩
    by_contra hcapital
    -- The pick is offered again, under its name in lower case.
    have hoffered : s.isOffered (firsts existing) last (lowercase pick) = true := by
      refine isOffered_iff.2 ⟨by rwa [joinKey?_lowercase], fun other hother hsame => ?_⟩
      have hlower := Text.lowercase_eq_of_sameAscii hsame
      rw [Text.lowercase_lowercase] at hlower
      rw [hdistinct other (mem_firsts.1 hother) pick hpick hlower] at hsame
      exact hcapital (Text.sameAscii_lowercase_iff.1 hsame)
    exact hdisjoint (List.mem_map_of_mem (mem_firsts.2 hpick))
      (List.mem_filter.2 ⟨mem_tableKeys_iff.2 hthere, hoffered⟩)
  · rintro ⟨hdistinct, hplain⟩
    refine ⟨hdistinct, hkeys, fun key hpicked hoffered => ?_⟩
    obtain ⟨pick, hpick, rfl⟩ := List.mem_map.1 hpicked
    obtain ⟨hthere, hoffered⟩ := List.mem_filter.1 hoffered
    obtain ⟨hsome, hapart⟩ := isOffered_iff.1 hoffered
    rw [joinKey?_lowercase] at hsome
    have hcase := hplain pick (mem_firsts.1 hpick) (mem_tableKeys_iff.1 hthere) hsome
    exact hapart pick hpick (Text.sameAscii_lowercase_iff.2 hcase)

/-- Every pick is listed, and of the other tables those that belong together with the last pick.  A
table is listed twice, in two spellings, exactly if two picks differ in letter case alone, or if a
pick with capital letters beyond ASCII is a table that belongs together with the last pick; this may
be the last pick itself. -/
theorem nodup_joinable_iff (hs : s.Built) (h : existing ≠ []) :
    ∃ last, (firsts existing).getLast? = some last ∧
      (∀ pick ∈ existing, pick ∈ s.joinable existing) ∧
      (∀ key ∈ s.tableKeys, (∀ pick ∈ existing, lowercase pick ≠ key) →
        (s.tableSpelling key ∈ s.joinable existing ↔ (s.joinKey? last key).isSome) ∧
          ∀ x ∈ s.joinable existing, lowercase x = key → x = s.tableSpelling key) ∧
      (((s.joinable existing).map lowercase).Nodup ↔ s.Recognized existing last) := by
  obtain ⟨last, hlast⟩ := exists_last_of_ne_nil h
  refine ⟨last, hlast, fun pick hpick => (mem_joinable_iff hs hlast).2 (.inl hpick),
    fun key hkey hnew => mem_joinable_of_not_picked hs hlast hkey hnew,
    nodup_lowercase_joinable_iff hs hlast⟩

/-- A warehouse with the tables of two connections, one of which has a name beyond ASCII. -/
def crmWarehouse : Snapshot :=
  ({} : Snapshot)
    |>.declare "s__Orders" ["order", "customer"]
    |>.declare "s__customers" ["customer"]
    |>.declare "c__contacts" ["customer"]
    |>.declare "s__Cafés" ["cafe"]
    |>.setPrimaryKey "s__Orders" ["order"]
    |>.setPrimaryKey "s__customers" ["customer"]
    |>.setPrimaryKey "s__Cafés" ["cafe"]

theorem built_crmWarehouse : crmWarehouse.Built :=
  Built.empty.declare _ _ |>.declare _ _ |>.declare _ _ |>.declare _ _
    |>.setPrimaryKey _ _ |>.setPrimaryKey _ _ |>.setPrimaryKey _ _

/-- Two picks, one of them made twice. -/
def orderPicks : List String := ["s__orders", "s__customers", "s__orders"]

theorem nodup_joinable_orderPicks : crmWarehouse.Built ∧ orderPicks ≠ [] ∧
    (firsts orderPicks).getLast? = some "s__customers" ∧
    ((crmWarehouse.joinable orderPicks).map lowercase).Nodup ∧
    "s__orders" ∈ crmWarehouse.joinable orderPicks ∧
    "c__contacts" ∈ crmWarehouse.joinable orderPicks ∧
    "s__Cafés" ∉ crmWarehouse.joinable orderPicks := by
  obtain ⟨last, hlast, hpicks, hothers, honce⟩ :=
    nodup_joinable_iff built_crmWarehouse (show orderPicks ≠ [] by decide)
  have hcustomers : (firsts orderPicks).getLast? = some "s__customers" := by decide
  obtain rfl : last = "s__customers" := Option.some.inj (hlast.symm.trans hcustomers)
  have hnew : ∀ key ∈ ["c__contacts", "s__cafés"], key ∈ crmWarehouse.tableKeys ∧
      ∀ pick ∈ orderPicks, lowercase pick ≠ key := by decide +kernel
  have hspelled : crmWarehouse.tableSpelling "c__contacts" = "c__contacts" ∧
      crmWarehouse.tableSpelling "s__cafés" = "s__Cafés" := by decide +kernel
  have hlinks : (crmWarehouse.joinKey? "s__customers" "c__contacts").isSome ∧
      ¬ (crmWarehouse.joinKey? "s__customers" "s__cafés").isSome := by decide +kernel
  have hcontacts := hnew "c__contacts" (by decide)
  have hcafes := hnew "s__cafés" (by decide)
  refine ⟨built_crmWarehouse, by decide, hlast, honce.2 ⟨by decide +kernel, by decide +kernel⟩,
    hpicks _ (by decide), ?_, ?_⟩
  · rw [← hspelled.1, (hothers _ hcontacts.1 hcontacts.2).1]
    exact hlinks.1
  · rw [← hspelled.2, (hothers _ hcafes.1 hcafes.2).1]
    exact hlinks.2

/-- A table that is picked in two spellings is listed in both, and one that is picked in capital
letters beyond ASCII is offered again in its own spelling. -/
theorem joinable_lists_twice :
    ¬ ((crmWarehouse.joinable ["c__contacts", "C__CONTACTS"]).map lowercase).Nodup ∧
    ¬ ((crmWarehouse.joinable ["S__CAFÉS"]).map lowercase).Nodup := by
  have hcontacts : (firsts ["c__contacts", "C__CONTACTS"]).getLast? = some "C__CONTACTS" := by
    decide
  have hcafes : (firsts ["S__CAFÉS"]).getLast? = some "S__CAFÉS" := by decide
  rw [nodup_lowercase_joinable_iff built_crmWarehouse hcontacts,
    nodup_lowercase_joinable_iff built_crmWarehouse hcafes]
  refine ⟨fun h => ?_, fun h => ?_⟩
  · have hsame : lowercase "c__contacts" = lowercase "C__CONTACTS" := by decide +kernel
    exact absurd (h.distinct _ (by decide) _ (by decide) hsame) (by decide)
  · have hthere : crmWarehouse.hasTable "S__CAFÉS" = true ∧
        (crmWarehouse.joinKey? "S__CAFÉS" "S__CAFÉS").isSome = true := by decide +kernel
    have hcase : lowercase "S__CAFÉS" = "s__cafés" ∧ asciiLower "S__CAFÉS" ≠ "s__cafés" := by
      decide +kernel
    have hplain := h.plain _ (by decide) hthere.1 hthere.2
    exact hcase.2 (hplain.symm.trans hcase.1)

/-! ## The order of the list -/

end Snapshot

section

variable {last x y : String}

/-- The part of the list that a text belongs in: the tables of the connection of the last pick, the
others, or the last pick itself. -/
def rank (last x : String) : Nat :=
  if x = last then 2 else if connectionPart x = connectionPart last then 0 else 1

/-- The place of a text in the list, by its part first and then by its name in lower case. -/
def place (last x : String) : Nat ×ₗ String := toLex (rank last x, lowercase x)

theorem rank_self (last : String) : rank last last = 2 := if_pos rfl

theorem eq_of_two_le_rank (h : 2 ≤ rank last x) : x = last := by
  unfold rank at h
  split at h
  · assumption
  · split at h
    · omega
    · omega

theorem rank_of_same (h : x ≠ last) (hsame : connectionPart x = connectionPart last) :
    rank last x = 0 := by
  rw [rank, if_neg h, if_pos hsame]

theorem rank_of_other (h : x ≠ last) (hother : connectionPart x ≠ connectionPart last) :
    rank last x = 1 := by
  rw [rank, if_neg h, if_neg hother]

theorem place_lt_iff : place last x < place last y ↔ rank last x < rank last y ∨
    rank last x = rank last y ∧ lowercase x < lowercase y := Prod.Lex.toLex_lt_toLex

theorem place_le_iff : place last x ≤ place last y ↔ rank last x < rank last y ∨
    rank last x = rank last y ∧ lowercase x ≤ lowercase y := Prod.Lex.toLex_le_toLex

/-- The comparison is that of places, although it looks at the last pick first. -/
theorem offeredBefore_iff : offeredBefore last x y = true ↔ place last x < place last y := by
  rw [place_lt_iff]
  by_cases hx : x = last
  · subst hx
    by_cases hy : y = x
    · simp [offeredBefore, hy]
    · have hle : rank x y < 2 := lt_of_not_ge fun h => hy (eq_of_two_le_rank h)
      simp only [offeredBefore, beq_self_eq_true, if_true, Bool.false_eq_true, rank_self,
        false_iff]
      omega
  · by_cases hy : y = last
    · subst hy
      have hle : rank y x < 2 := lt_of_not_ge fun h => hx (eq_of_two_le_rank h)
      simp [offeredBefore, hx, rank_self, hle]
    · unfold offeredBefore
      rw [if_neg (by simpa using hx), if_neg (by simpa using hy)]
      cases hxs : connectionPart x == connectionPart last with
      | true =>
        rw [rank_of_same hx (by simpa using hxs)]
        cases hys : connectionPart y == connectionPart last with
        | true => simp [rank_of_same hy (by simpa using hys)]
        | false => simp [rank_of_other hy (by simpa using hys)]
      | false =>
        rw [rank_of_other hx (by simpa using hxs)]
        cases hys : connectionPart y == connectionPart last with
        | true => simp [rank_of_same hy (by simpa using hys)]
        | false => simp [rank_of_other hy (by simpa using hys)]

theorem pairwise_offer {xs : List String}
    (h : xs.Pairwise fun y z => place last y ≤ place last z) (x : String) :
    (offer last x xs).Pairwise fun y z => place last y ≤ place last z := by
  induction xs with
  | nil => exact List.pairwise_singleton _ _
  | cons y rest ih =>
    obtain ⟨hy, hrest⟩ := List.pairwise_cons.1 h
    rw [offer]
    split
    · rename_i hbefore
      have hxy := (offeredBefore_iff.1 hbefore).le
      exact List.pairwise_cons.2 ⟨List.forall_mem_cons.2 ⟨hxy, fun z hz => hxy.trans (hy z hz)⟩, h⟩
    · rename_i hbehind
      rw [offeredBefore_iff, not_lt] at hbehind
      refine List.pairwise_cons.2 ⟨fun z hz => ?_, ih hrest⟩
      obtain rfl | hz := List.mem_cons.1 ((offer_perm last x rest).mem_iff.1 hz)
      · exact hbehind
      · exact hy z hz

theorem pairwise_offerAll (xs : List String) {sorted : List String}
    (h : sorted.Pairwise fun y z => place last y ≤ place last z) :
    (offerAll last xs sorted).Pairwise fun y z => place last y ≤ place last z := by
  induction xs generalizing sorted with
  | nil => exact h
  | cons x rest ih => exact ih (pairwise_offer h x)

/-- What comes once in a sorted list and has the last place is the end of it. -/
theorem exists_front {xs : List String}
    (h : xs.Pairwise fun y z => place last y ≤ place last z) (hcount : xs.count last = 1) :
    ∃ front, xs = front ++ [last] ∧ last ∉ front := by
  have hmem : last ∈ xs := List.count_pos_iff.1 (by omega)
  obtain ⟨front, behind, rfl⟩ := List.append_of_mem hmem
  rw [List.count_append, List.count_cons_self] at hcount
  have hfront : last ∉ front := List.count_eq_zero.1 (by omega)
  have hbehind : last ∉ behind := List.count_eq_zero.1 (by omega)
  obtain ⟨-, hlast, -⟩ := List.pairwise_append.1 h
  cases behind with
  | nil => exact ⟨front, rfl, hfront⟩
  | cons z rest =>
    have hle := (List.pairwise_cons.1 hlast).1 z List.mem_cons_self
    rw [place_le_iff, rank_self] at hle
    have hz : z = last := eq_of_two_le_rank (by omega)
    exact absurd (hz ▸ List.mem_cons_self) hbehind

/-- A list in which nothing that holds comes behind something that does not is the part that holds
before the part that does not. -/
theorem eq_filter_append_filter {α : Type} {p : α → Bool} {xs : List α}
    (h : xs.Pairwise fun x y => p y = true → p x = true) :
    xs = xs.filter p ++ xs.filter (!p ·) := by
  induction xs with
  | nil => rfl
  | cons x rest ih =>
    obtain ⟨hx, hrest⟩ := List.pairwise_cons.1 h
    cases hp : p x with
    | true =>
      rw [List.filter_cons_of_pos hp, List.filter_cons_of_neg (by simp [hp]), List.cons_append,
        ← ih hrest]
    | false =>
      have hnone : ∀ y ∈ rest, p y = false := fun y hy => by
        rw [Bool.eq_false_iff]
        exact fun hpy => Bool.false_ne_true (hp.symm.trans (hx y hy hpy))
      rw [List.filter_cons_of_neg (by simp [hp]), List.filter_cons_of_pos (by simp [hp]),
        List.filter_eq_nil_iff.2 fun y hy => by simp [hnone y hy], List.nil_append,
        List.filter_eq_self.2 fun y hy => by simp [hnone y hy]]

end

namespace Snapshot

variable {s : Snapshot} {existing : List String} {last : String}

/-- The last pick is gathered once, since a table that has its spelling has it for a name too. -/
theorem count_gathered (hs : s.Built) (h : (firsts existing).getLast? = some last)
    (hcase : lowercase last = asciiLower last) :
    (s.gathered (firsts existing) last).count last = 1 := by
  have hpicked : last ∈ firsts existing := List.mem_of_getLast? h
  have hoffered : last ∉ (s.tableKeys.filter (s.isOffered (firsts existing) last)).map
      s.tableSpelling := by
    intro hmem
    obtain ⟨key, hkey, hspelling⟩ := List.mem_map.1 hmem
    obtain ⟨hthere, hoff⟩ := List.mem_filter.1 hkey
    have hlower := lowercase_tableSpelling_of_mem hs hthere
    rw [hspelling] at hlower
    have hsame := Text.sameAscii_lowercase_iff.2 hcase
    rw [hlower] at hsame
    exact (isOffered_iff.1 hoff).2 last hpicked hsame
  rw [gathered_eq hs hpicked, List.count_append, List.count_eq_zero.2 hoffered,
    List.count_eq_one_of_mem (nodup_firsts existing) hpicked]

/-- How the tables beside the last pick are arranged, those of its connection and the others. -/
structure Arranged (last : String) (own others : List String) : Prop where
  near : ∀ x ∈ own, x ≠ last ∧ connectionPart x = connectionPart last
  far : ∀ x ∈ others, x ≠ last ∧ connectionPart x ≠ connectionPart last
  near_ascending : own.Pairwise fun x y => lowercase x ≤ lowercase y
  far_ascending : others.Pairwise fun x y => lowercase x ≤ lowercase y

theorem exists_arranged {xs : List String}
    (h : xs.Pairwise fun y z => place last y ≤ place last z) (hcount : xs.count last = 1) :
    ∃ own others, xs = own ++ others ++ [last] ∧ Arranged last own others := by
  obtain ⟨front, rfl, hfront⟩ := exists_front h hcount
  have hsorted := (List.pairwise_append.1 h).1
  have hne : ∀ x ∈ front, x ≠ last := fun x hx hsame => hfront (hsame ▸ hx)
  let isOwn (x : String) : Bool := connectionPart x = connectionPart last
  have hown : ∀ x ∈ front.filter isOwn, x ≠ last ∧ connectionPart x = connectionPart last := by
    intro x hx
    obtain ⟨hmem, hpart⟩ := List.mem_filter.1 hx
    exact ⟨hne x hmem, of_decide_eq_true hpart⟩
  have hothers : ∀ x ∈ front.filter (!isOwn ·),
      x ≠ last ∧ connectionPart x ≠ connectionPart last := by
    intro x hx
    obtain ⟨hmem, hpart⟩ := List.mem_filter.1 hx
    exact ⟨hne x hmem, by simpa [isOwn] using hpart⟩
  have hsplit : front = front.filter isOwn ++ front.filter (!isOwn ·) := by
    refine eq_filter_append_filter (hsorted.imp_of_mem fun {x y} hx hy hle hyown => ?_)
    by_contra hxown
    have hx1 := rank_of_other (hne x hx) fun hsame => hxown (decide_eq_true hsame)
    have hy0 := rank_of_same (hne y hy) (of_decide_eq_true hyown)
    rw [place_le_iff, hx1, hy0] at hle
    omega
  refine ⟨front.filter isOwn, front.filter (!isOwn ·), by rw [← hsplit], hown, hothers, ?_, ?_⟩
  · -- On one part of the list places differ by the name alone.
    refine (hsorted.filter _).imp_of_mem fun {x y} hx hy hle => ?_
    rw [place_le_iff, rank_of_same (hown x hx).1 (hown x hx).2,
      rank_of_same (hown y hy).1 (hown y hy).2] at hle
    simpa using hle
  · refine (hsorted.filter _).imp_of_mem fun {x y} hx hy hle => ?_
    rw [place_le_iff, rank_of_other (hothers x hx).1 (hothers x hx).2,
      rank_of_other (hothers y hy).1 (hothers y hy).2] at hle
    simpa using hle

/-- Of picks in ASCII the last one ends the list.  Before it come the tables of its connection and
then the others, each in ascending order of the names in lower case; and the list has what was
gathered, each as often as it was gathered. -/
theorem arranged_joinable (hs : s.Built) (h : existing ≠ [])
    (hascii : ∀ pick ∈ existing, Text.IsAscii pick) :
    ∃ last own others, (firsts existing).getLast? = some last ∧
      s.joinable existing = own ++ others ++ [last] ∧ Arranged last own others ∧
      (s.joinable existing).Perm (s.gathered (firsts existing) last) := by
  obtain ⟨last, hlast⟩ := exists_last_of_ne_nil h
  have hpicked : last ∈ existing := mem_firsts.1 (List.mem_of_getLast? hlast)
  have hcount := count_gathered hs hlast (Text.lowercase_of_isAscii (hascii last hpicked))
  rw [← (joinable_perm hlast).count_eq] at hcount
  have hsorted : (s.joinable existing).Pairwise fun y z => place last y ≤ place last z := by
    rw [joinable_eq hlast]
    exact pairwise_offerAll _ List.Pairwise.nil
  obtain ⟨own, others, hlist, harranged⟩ := exists_arranged hsorted hcount
  exact ⟨last, own, others, hlast, hlist, harranged, joinable_perm hlast⟩

theorem arranged_joinable_orderPicks : crmWarehouse.Built ∧ orderPicks ≠ [] ∧
    (∀ pick ∈ orderPicks, Text.IsAscii pick) ∧
    (∃ own others, crmWarehouse.joinable orderPicks = own ++ others ++ ["s__customers"] ∧
      Arranged "s__customers" own others) ∧
    crmWarehouse.joinable orderPicks = ["s__orders", "c__contacts", "s__customers"] := by
  have hascii : ∀ pick ∈ orderPicks, Text.IsAscii pick := by decide +kernel
  obtain ⟨last, own, others, hlast, hlist, harranged, -⟩ :=
    arranged_joinable built_crmWarehouse (show orderPicks ≠ [] by decide) hascii
  have hcustomers : (firsts orderPicks).getLast? = some "s__customers" := by decide
  obtain rfl : last = "s__customers" := Option.some.inj (hlast.symm.trans hcustomers)
  exact ⟨built_crmWarehouse, by decide, hascii, ⟨own, others, hlist, harranged⟩,
    by decide +kernel⟩

end Snapshot
end Granary
