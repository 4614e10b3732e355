import Granary.Schema.Cache
import Mathlib.Data.List.Induction
import Mathlib.Data.List.Nodup
import Mathlib.Order.Lattice

/-!
# What a cache keeps

A cache is used again and again, and the clock goes on between any two uses.  `Cache.after` is what
it is after a history of uses, and `Cache.Kept` what then holds of it: keys are distinct, entries
stand in the order of their insertion, there is no more than there is room for, and every entry
comes from the latest insertion under its key.  Each use keeps this (`Kept.perform`), and so do all
of them (`kept_after`).

`retained_after` says what follows for lookups, and that an entry which still counts is lost only
where it is forgotten or replaced, or makes way as the oldest of as many as there is room for.
-/

namespace Granary.Schema.Cache

/-- A use of a cache. -/
inductive Use where
  | get (key : String)
  | insert (key : String) (snapshot : Snapshot)
  | invalidate (key : String)
  | clear

/-- Whether a use forgets or replaces what is kept under a key. -/
def Use.Ends (key : String) : Use → Prop
  | .get _ => False
  | .insert other _ => other = key
  | .invalidate other => other = key
  | .clear => True

/-- What a use leaves of a cache; a lookup changes nothing. -/
def perform (c : Cache) (now : Nat) : Use → Cache
  | .get _ => c
  | .insert key snapshot => c.insert now key snapshot
  | .invalidate key => c.invalidate key
  | .clear => c.clear

/-- Uses with the readings of the clock at which they happen. -/
abbrev History := List (Nat × Use)

/-- The clock goes on between any two uses. -/
def History.GoesOn (history : History) : Prop := history.Pairwise fun u v => u.1 < v.1

/-- All uses are before a reading of the clock. -/
def History.Before (history : History) (now : Nat) : Prop := ∀ u ∈ history, u.1 < now

/-- An enabled cache that is empty at first, after some uses. -/
def after (timeToLive room : Nat) (history : History) : Cache :=
  history.foldl (fun c u => c.perform u.1 u.2) { enabled := true, timeToLive, room }

/-- The latest insertion under a key is that of an entry, and nothing after it ended what is kept
there. -/
def Latest (history : History) (key : String) (e : Entry) : Prop :=
  ∃ earlier later, history = earlier ++ (e.inserted, .insert key e.snapshot) :: later ∧
    ∀ u ∈ later, ¬ u.2.Ends key

/-- The entries that still count. -/
def fresh (c : Cache) (now : Nat) : Named Entry := c.entries.filter fun x => c.isFresh now x.2

/-- There is no room but for what still counts. -/
def IsFull (c : Cache) (now : Nat) : Prop := (c.fresh now).length = max c.room 1

/-- Of the entries that still count the one that was inserted longest ago. -/
structure Oldest (c : Cache) (now : Nat) (x : String × Entry) : Prop where
  mem : x ∈ c.fresh now
  first : ∀ y ∈ c.fresh now, y ≠ x → x.2.inserted < y.2.inserted

/-- What holds of a cache after some uses. -/
structure Kept (history : History) (c : Cache) : Prop where
  enabled : c.enabled = true
  keys : (c.entries.map (·.1)).Nodup
  order : c.entries.Pairwise fun x y => x.2.inserted < y.2.inserted
  size : c.size ≤ max c.room 1
  latest : ∀ x ∈ c.entries, Latest history x.1 x.2

/-! ## One use -/

section

variable {c : Cache} {history : History} {now : Nat} {key : String} {snapshot : Snapshot}
  {x y : String × Entry} {e : Entry} {use : Use}

theorem Latest.inserted_lt (h : Latest history key e) (hbefore : history.Before now) :
    e.inserted < now := by
  obtain ⟨earlier, later, rfl, _⟩ := h
  exact hbefore _ (List.mem_append_right _ List.mem_cons_self)

theorem Latest.append (h : Latest history key e) (huse : ¬ use.Ends key) :
    Latest (history ++ [(now, use)]) key e := by
  obtain ⟨earlier, later, rfl, hlater⟩ := h
  refine ⟨earlier, later ++ [(now, use)], by simp, ?_⟩
  exact List.forall_mem_append.2 ⟨hlater, List.forall_mem_singleton.2 huse⟩

theorem latest_insert (history : History) (now : Nat) (key : String) (snapshot : Snapshot) :
    Latest (history ++ [(now, .insert key snapshot)]) key ⟨snapshot, now⟩ :=
  ⟨history, [], rfl, fun _ hu => absurd hu List.not_mem_nil⟩

theorem staying_eq (c : Cache) (now : Nat) : c.staying now =
    if max c.room 1 ≤ (c.fresh now).length then (c.fresh now).drop 1 else c.fresh now := rfl

theorem staying_sublist (c : Cache) (now : Nat) : (c.staying now).Sublist (c.fresh now) := by
  rw [staying_eq]
  split
  · exact List.drop_sublist 1 _
  · exact List.Sublist.refl _

theorem fresh_sublist (c : Cache) (now : Nat) : (c.fresh now).Sublist c.entries :=
  List.filter_sublist

/-- What an insertion leaves has room for one more. -/
theorem Kept.length_staying_lt (h : Kept history c) (now : Nat) :
    (c.staying now).length < max c.room 1 := by
  have hfresh : (c.fresh now).length ≤ max c.room 1 :=
    (c.fresh_sublist now).length_le.trans h.size
  rw [staying_eq]
  split
  · rw [List.length_drop]
    omega
  · omega

theorem entries_insert (h : c.enabled = true) (now : Nat) (key : String) (snapshot : Snapshot) :
    (c.insert now key snapshot).entries =
      (c.staying now).remove key ++ [(key, ⟨snapshot, now⟩)] := by
  rw [insert, if_pos h]

@[simp] theorem room_insert : (c.insert now key snapshot).room = c.room := by
  unfold insert
  split
  · rfl
  · rfl

@[simp] theorem timeToLive_perform (c : Cache) (now : Nat) (use : Use) :
    (c.perform now use).timeToLive = c.timeToLive := by
  cases use with
  | insert key snapshot => exact timeToLive_insert
  | _ => rfl

@[simp] theorem room_perform (c : Cache) (now : Nat) (use : Use) :
    (c.perform now use).room = c.room := by
  cases use with
  | insert key snapshot => exact room_insert
  | _ => rfl

/-- Entries that go only make it easier for the rest. -/
theorem Kept.of_sublist (h : Kept history c) {entries : Named Entry}
    (hsub : entries.Sublist c.entries) (hends : ∀ x ∈ entries, ¬ use.Ends x.1) :
    Kept (history ++ [(now, use)]) { c with entries := entries } where
  enabled := h.enabled
  keys := h.keys.sublist (hsub.map _)
  order := h.order.sublist hsub
  size := hsub.length_le.trans h.size
  latest x hx := (h.latest x (hsub.subset hx)).append (hends x hx)

theorem Kept.insert (h : Kept history c) (hbefore : history.Before now) (key : String)
    (snapshot : Snapshot) :
    Kept (history ++ [(now, .insert key snapshot)]) (c.insert now key snapshot) := by
  have hentries := entries_insert h.enabled now key snapshot
  have hsub : ((c.staying now).remove key).Sublist c.entries :=
    List.filter_sublist.trans ((c.staying_sublist now).trans (c.fresh_sublist now))
  have hother : ∀ x ∈ (c.staying now).remove key, x.1 ≠ key := fun x hx =>
    (Named.mem_remove.1 hx).2
  have hlatest : ∀ x ∈ (c.staying now).remove key, Latest history x.1 x.2 := fun x hx =>
    h.latest x (hsub.subset hx)
  refine ⟨enabled_insert.trans h.enabled, ?_, ?_, ?_, ?_⟩
  · rw [hentries, List.map_append, List.map_singleton, List.nodup_append']
    refine ⟨h.keys.sublist (hsub.map _), List.nodup_singleton _, ?_⟩
    rw [List.disjoint_singleton, List.mem_map]
    rintro ⟨x, hx, hkey⟩
    exact hother x hx hkey
  · rw [hentries, List.pairwise_append]
    refine ⟨h.order.sublist hsub, List.pairwise_singleton _ _, fun x hx => ?_⟩
    exact List.forall_mem_singleton.2 ((hlatest x hx).inserted_lt hbefore)
  · have hroom := h.length_staying_lt now
    have hremoved : ((c.staying now).remove key).length ≤ (c.staying now).length :=
      List.filter_sublist.length_le
    show (c.insert now key snapshot).entries.length ≤ max (c.insert now key snapshot).room 1
    rw [hentries, List.length_append, List.length_singleton, room_insert]
    omega
  · rw [hentries]
    refine List.forall_mem_append.2 ⟨fun x hx => ?_, List.forall_mem_singleton.2 ?_⟩
    · exact (hlatest x hx).append fun hsame => hother x hx hsame.symm
    · exact latest_insert history now key snapshot

/-- Every use keeps what holds of a cache. -/
theorem Kept.perform (h : Kept history c) (hbefore : history.Before now) (use : Use) :
    Kept (history ++ [(now, use)]) (c.perform now use) := by
  cases use with
  | get key => exact h.of_sublist (List.Sublist.refl _) fun _ _ hends => hends
  | insert key snapshot => exact h.insert hbefore key snapshot
  | invalidate key =>
    exact h.of_sublist List.filter_sublist fun x hx hsame => (Named.mem_remove.1 hx).2 hsame.symm
  | clear => exact h.of_sublist (List.nil_sublist _) fun x hx => absurd hx List.not_mem_nil

/-! ## What an insertion removes -/

/-- Entries stand in the order of their insertion, so the oldest of those that count is the first
of them. -/
theorem Kept.oldest_head (h : Kept history c) {rest : Named Entry}
    (hfresh : c.fresh now = x :: rest) : c.Oldest now x := by
  have horder := h.order.sublist (c.fresh_sublist now)
  rw [hfresh, List.pairwise_cons] at horder
  refine ⟨hfresh ▸ List.mem_cons_self, fun y hy hne => ?_⟩
  rw [hfresh] at hy
  obtain rfl | hy := List.mem_cons.1 hy
  · exact absurd rfl hne
  · exact horder.1 y hy

/-- The oldest entry makes way if there is no room, and no other does. -/
theorem Kept.mem_staying_iff (h : Kept history c) (hx : x ∈ c.fresh now) :
    x ∈ c.staying now ↔ ¬ (c.IsFull now ∧ c.Oldest now x) := by
  have hfresh : (c.fresh now).length ≤ max c.room 1 :=
    (c.fresh_sublist now).length_le.trans h.size
  rw [staying_eq]
  split
  · rename_i hmost
    have hfull : c.IsFull now := le_antisymm hfresh hmost
    cases hlist : c.fresh now with
    | nil => rw [hlist] at hx; cases hx
    | cons first rest =>
      have holdest := h.oldest_head hlist
      have horder := h.order.sublist (c.fresh_sublist now)
      rw [hlist, List.pairwise_cons] at horder
      rw [hlist] at hx
      rw [List.drop_one, List.tail_cons]
      constructor
      · rintro hrest ⟨_, hfirst⟩
        have hlt := horder.1 x hrest
        have hne : first ≠ x := by
          rintro rfl
          exact lt_irrefl _ hlt
        exact lt_asymm hlt (hfirst.first first holdest.mem hne)
      · intro hkept
        obtain rfl | hrest := List.mem_cons.1 hx
        · exact absurd ⟨hfull, holdest⟩ hkept
        · exact hrest
  · rename_i hroom
    exact iff_of_true hx fun hboth => hroom (le_of_eq hboth.1.symm)

theorem Kept.mem_insert_iff (h : Kept history c) (hbefore : history.Before now)
    (hx : x ∈ c.fresh now) : x ∈ (c.insert now key snapshot).entries ↔
      x.1 ≠ key ∧ ¬ (c.IsFull now ∧ c.Oldest now x) := by
  have hnew : x ≠ (key, ⟨snapshot, now⟩) := by
    rintro rfl
    have hlt := (h.latest _ ((c.fresh_sublist now).subset hx)).inserted_lt hbefore
    exact lt_irrefl _ hlt
  rw [entries_insert h.enabled, List.mem_append, List.mem_singleton, or_iff_left hnew,
    Named.mem_remove, h.mem_staying_iff hx, and_comm]

/-- An entry that counts goes only if it is forgotten or replaced, or makes way. -/
theorem Kept.ends_of_not_mem (h : Kept history c) (hbefore : history.Before now)
    (hx : x ∈ c.fresh now) (hgone : x ∉ (c.perform now use).entries) :
    use.Ends x.1 ∨
      (∃ key snapshot, use = .insert key snapshot) ∧ c.IsFull now ∧ c.Oldest now x := by
  have hmem : x ∈ c.entries := (c.fresh_sublist now).subset hx
  cases use with
  | get key => exact absurd hmem hgone
  | insert key snapshot =>
    by_cases hsame : key = x.1
    · exact .inl hsame
    · refine .inr ⟨⟨key, snapshot, rfl⟩, ?_⟩
      by_contra hkept
      exact hgone ((h.mem_insert_iff hbefore hx).2 ⟨Ne.symm hsame, hkept⟩)
  | invalidate key =>
    refine .inl ?_
    by_contra hsame
    exact hgone (Named.mem_remove.2 ⟨hmem, Ne.symm hsame⟩)
  | clear => exact .inl trivial

/-- Where there is no room, one entry is the oldest. -/
theorem Kept.exists_oldest (h : Kept history c) (hfull : c.IsFull now) : ∃ x, c.Oldest now x := by
  cases hlist : c.fresh now with
  | nil =>
    have hone : 1 ≤ max c.room 1 := le_max_right _ _
    rw [IsFull, hlist, List.length_nil] at hfull
    omega
  | cons first rest => exact ⟨first, h.oldest_head hlist⟩

theorem Oldest.eq (hx : c.Oldest now x) (hy : c.Oldest now y) : x = y := by
  by_contra hne
  exact lt_asymm (hx.first y hy.mem (Ne.symm hne)) (hy.first x hx.mem hne)

/-! ## Lookups -/

theorem get?_of_mem {entries : Named Entry} (hkeys : (entries.map (·.1)).Nodup)
    (hx : x ∈ entries) : entries.get? x.1 = some x.2 := by
  induction entries with
  | nil => cases hx
  | cons first rest ih =>
    obtain ⟨other, e⟩ := first
    rw [List.map_cons, List.nodup_cons] at hkeys
    rw [Named.get?]
    obtain rfl | hx := List.mem_cons.1 hx
    · exact if_pos rfl
    · have hne : other ≠ x.1 := fun hsame => hkeys.1 (List.mem_map.2 ⟨x, hx, hsame.symm⟩)
      rw [if_neg hne]
      exact ih hkeys.2 hx

/-- A lookup finds the snapshots of the entries that count, and nothing else. -/
theorem Kept.get_eq_some_iff (h : Kept history c) :
    c.get now key = some snapshot ↔ ∃ inserted, (key, ⟨snapshot, inserted⟩) ∈ c.fresh now := by
  simp only [get, if_pos h.enabled, fresh, Option.map_eq_some_iff, Option.filter_eq_some_iff,
    List.mem_filter]
  constructor
  · rintro ⟨e, ⟨hfound, hfresh⟩, rfl⟩
    exact ⟨e.inserted, Named.mem_of_get?_eq_some hfound, hfresh⟩
  · rintro ⟨inserted, hmem, hfresh⟩
    exact ⟨⟨snapshot, inserted⟩, ⟨get?_of_mem h.keys hmem, hfresh⟩, rfl⟩

end

/-! ## All uses -/

section

variable {timeToLive room now : Nat} {history : History}

theorem after_append (timeToLive room : Nat) (history : History) (now : Nat) (use : Use) :
    after timeToLive room (history ++ [(now, use)]) =
      (after timeToLive room history).perform now use := by
  rw [after, List.foldl_append]
  rfl

theorem timeToLive_after : (after timeToLive room history).timeToLive = timeToLive := by
  induction history using List.reverseRecOn with
  | nil => rfl
  | append_singleton history u ih => rw [after_append, timeToLive_perform, ih]

theorem room_after : (after timeToLive room history).room = room := by
  induction history using List.reverseRecOn with
  | nil => rfl
  | append_singleton history u ih => rw [after_append, room_perform, ih]

/-- By induction over the uses, each of which is later than all before it. -/
theorem kept_after (timeToLive room : Nat) (h : history.GoesOn) :
    Kept history (after timeToLive room history) := by
  induction history using List.reverseRecOn with
  | nil =>
    exact ⟨rfl, List.nodup_nil, List.Pairwise.nil, Nat.zero_le _,
      fun _ hx => absurd hx List.not_mem_nil⟩
  | append_singleton history u ih =>
    obtain ⟨hold, _, hbefore⟩ := List.pairwise_append.1 h
    rw [after_append]
    exact (ih hold).perform (fun v hv => hbefore v hv u List.mem_cons_self) u.2

/-- There are never more entries than there is room for.  What is found was inserted under its key
last, less than the time to live ago, and not forgotten since.  What still counts is found, and it
goes only by being forgotten or replaced, or, where another is inserted and there is no room, as the
oldest; then it is the only one that makes way. -/
theorem retained_after (timeToLive room : Nat) (h : history.GoesOn) :
    (after timeToLive room history).size ≤ max room 1 ∧
    ∀ now, history.Before now →
      (∀ key snapshot, (after timeToLive room history).get now key = some snapshot →
        ∃ inserted, Latest history key ⟨snapshot, inserted⟩ ∧
          inserted < now ∧ now < inserted + timeToLive) ∧
      (∀ x ∈ (after timeToLive room history).fresh now,
        (after timeToLive room history).get now x.1 = some x.2.snapshot) ∧
      ∀ use : Use,
        (∀ x ∈ (after timeToLive room history).fresh now,
          x ∉ (after timeToLive room (history ++ [(now, use)])).entries →
            use.Ends x.1 ∨ (∃ key snapshot, use = .insert key snapshot) ∧
              (after timeToLive room history).IsFull now ∧
              (after timeToLive room history).Oldest now x) ∧
        ∀ key snapshot, use = .insert key snapshot →
          (key, ⟨snapshot, now⟩) ∈
            (after timeToLive room (history ++ [(now, use)])).entries ∧
          ((after timeToLive room history).IsFull now →
            ∃ x, (after timeToLive room history).Oldest now x ∧
              ∀ y ∈ (after timeToLive room history).fresh now, y.1 ≠ key →
                (y ∈ (after timeToLive room (history ++ [(now, use)])).entries ↔ y ≠ x)) := by
  have hkept := kept_after timeToLive room h
  have hsize := hkept.size
  rw [room_after] at hsize
  refine ⟨hsize, fun now hbefore => ⟨fun key snapshot hget => ?_, fun x hx => ?_,
    fun use => ⟨fun x hx hgone => ?_, fun key snapshot huse => ⟨?_, fun hfull => ?_⟩⟩⟩⟩
  · obtain ⟨inserted, hfound⟩ := hkept.get_eq_some_iff.1 hget
    obtain ⟨hmem, hfresh⟩ := List.mem_filter.1 hfound
    have hlatest := hkept.latest _ hmem
    have hlt : inserted < now := hlatest.inserted_lt hbefore
    rw [isFresh, timeToLive_after, decide_eq_true_eq] at hfresh
    dsimp only at hfresh
    exact ⟨inserted, hlatest, hlt, by omega⟩
  · exact hkept.get_eq_some_iff.2 ⟨x.2.inserted, hx⟩
  · rw [after_append] at hgone
    exact hkept.ends_of_not_mem hbefore hx hgone
  · rw [after_append, huse, perform, entries_insert hkept.enabled]
    exact List.mem_append_right _ List.mem_cons_self
  · obtain ⟨x, hx⟩ := hkept.exists_oldest hfull
    refine ⟨x, hx, fun y hy hne => ?_⟩
    rw [after_append, huse, perform, hkept.mem_insert_iff hbefore hy]
    constructor
    · rintro ⟨_, hstays⟩ rfl
      exact hstays ⟨hfull, hx⟩
    · exact fun hother => ⟨hne, fun hboth => hother (hboth.2.eq hx)⟩

/-- Two snapshots are kept where there is room for two, and one of them is looked up. -/
def twoShops : History :=
  [(1, .insert "north" {}), (2, .insert "south" {}), (3, .get "north")]

/-- A third makes the one inserted first go, although it was the one looked up. -/
theorem retained_after_twoShops :
    twoShops.GoesOn ∧ twoShops.Before 4 ∧ (after 5 2 twoShops).size ≤ 2 ∧
    (after 5 2 twoShops).get 4 "south" = some {} ∧ (after 5 2 twoShops).IsFull 4 ∧
    ∃ x, (after 5 2 twoShops).Oldest 4 x ∧ ∀ y ∈ (after 5 2 twoShops).fresh 4, y.1 ≠ "east" →
      (y ∈ (after 5 2 (twoShops ++ [(4, .insert "east" {})])).entries ↔ y ≠ x) := by
  have hclock : twoShops.GoesOn := by
    unfold twoShops History.GoesOn
    decide
  have hbefore : twoShops.Before 4 := by
    unfold twoShops History.Before
    decide
  have hfull : (after 5 2 twoShops).IsFull 4 := by
    unfold IsFull
    decide
  have hfresh : (after 5 2 twoShops).fresh 4 = [("north", ⟨{}, 1⟩), ("south", ⟨{}, 2⟩)] := rfl
  have hsouth : ("south", ⟨{}, 2⟩) ∈ (after 5 2 twoShops).fresh 4 := by simp [hfresh]
  obtain ⟨hsize, hlater⟩ := retained_after 5 2 hclock
  obtain ⟨_, hfound, huses⟩ := hlater 4 hbefore
  have hinsert := (huses (.insert "east" {})).2 "east" {} rfl
  exact ⟨hclock, hbefore, hsize, hfound _ hsouth, hfull, hinsert.2 hfull⟩

end

end Granary.Schema.Cache
