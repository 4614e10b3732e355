import Granary.Proofs.Schema.Retention

/-!
# Keys that are inserted again

An insertion under a key that is there replaces its entry, so there are no more entries than before
and none of the others would have to go.  The cache makes room all the same: it looks at how many
entries count, and not at whether one of them is about to be replaced.  So where there is no room
but for what counts, the oldest entry goes, and unless this is the entry that is replaced, another
key has lost its snapshot for nothing.  `spares_iff` says that this is exactly when it happens.
-/

namespace Granary.Schema.Cache

/-- A cache that some uses lead to, all of them before a reading of the clock. -/
def IsReached (c : Cache) (now : Nat) : Prop :=
  ∃ (timeToLive room : Nat) (history : History),
    history.GoesOn ∧ history.Before now ∧ c = after timeToLive room history

/-- An insertion under a key leaves all entries of other keys that still count. -/
def Spares (c : Cache) (now : Nat) (key : String) (snapshot : Snapshot) : Prop :=
  ∀ x ∈ c.fresh now, x.1 ≠ key → x ∈ (c.insert now key snapshot).entries

section

variable {c : Cache} {history : History} {now : Nat} {key : String} {snapshot : Snapshot}
  {x : String × Entry}

theorem IsReached.exists_kept (h : c.IsReached now) :
    ∃ history : History, history.Before now ∧ Kept history c := by
  obtain ⟨timeToLive, room, history, hclock, hbefore, rfl⟩ := h
  exact ⟨history, hbefore, kept_after timeToLive room hclock⟩

/-- The entry that has been inserted is the only one of its key. -/
theorem filter_entries_insert (h : c.enabled = true) (now : Nat) (key : String)
    (snapshot : Snapshot) :
    (c.insert now key snapshot).entries.filter (·.1 == key) = [(key, ⟨snapshot, now⟩)] := by
  have hrest : ((c.staying now).remove key).filter (·.1 == key) = [] := by
    refine List.filter_eq_nil_iff.2 fun x hx hsame => ?_
    exact (Named.mem_remove.1 hx).2 (beq_iff_eq.1 hsame)
  rw [entries_insert h, List.filter_append, hrest, List.nil_append]
  exact List.filter_cons_of_pos (beq_self_eq_true key)

/-- Where a key is there, fewer entries are left once it is removed. -/
theorem length_remove_lt {entries : Named Entry} (h : key ∈ entries.map (·.1)) :
    (entries.remove key).length < entries.length := by
  obtain ⟨x, hx, hkey⟩ := List.mem_map.1 h
  exact List.length_filter_lt_length_iff_exists.2 ⟨x, hx, by simp [hkey]⟩

/-- An entry that is replaced needs no room. -/
theorem Kept.size_insert_le (h : Kept history c) (hthere : key ∈ c.entries.map (·.1)) (now : Nat)
    (snapshot : Snapshot) : (c.insert now key snapshot).size ≤ c.size := by
  have hsub : ((c.staying now).remove key).Sublist (c.entries.remove key) :=
    ((c.staying_sublist now).trans (c.fresh_sublist now)).filter _
  have hshort := hsub.length_le
  have hremoved := length_remove_lt hthere
  show (c.insert now key snapshot).entries.length ≤ c.entries.length
  rw [entries_insert h.enabled, List.length_append, List.length_singleton]
  omega

theorem Kept.spares_iff_oldest (h : Kept history c) (hbefore : history.Before now) :
    c.Spares now key snapshot ↔ (c.IsFull now → ∃ x, c.Oldest now x ∧ x.1 = key) := by
  constructor
  · intro hspares hfull
    obtain ⟨x, hx⟩ := h.exists_oldest hfull
    refine ⟨x, hx, ?_⟩
    by_contra hother
    exact ((h.mem_insert_iff hbefore hx.mem).1 (hspares x hx.mem hother)).2 ⟨hfull, hx⟩
  · intro howner x hx hother
    refine (h.mem_insert_iff hbefore hx).2 ⟨hother, fun ⟨hfull, holdest⟩ => ?_⟩
    obtain ⟨y, hy, hkey⟩ := howner hfull
    exact hother (holdest.eq hy ▸ hkey)

/-- What is no more among the entries is not found under its key, unless this is the one under which
something was inserted. -/
theorem Kept.get_insert_eq_none (h : Kept history c) (hbefore : history.Before now)
    (hmem : x ∈ c.entries) (hother : x.1 ≠ key)
    (hgone : x ∉ (c.insert now key snapshot).entries) :
    (c.insert now key snapshot).get now x.1 = none := by
  refine Option.eq_none_iff_forall_ne_some.2 fun found hget => ?_
  obtain ⟨inserted, hfound⟩ := (h.insert hbefore key snapshot).get_eq_some_iff.1 hget
  have hentry := (fresh_sublist _ now).subset hfound
  obtain hold | hnew := mem_insert hentry
  · have hsame : (x.1, ⟨found, inserted⟩) = x := List.inj_on_of_nodup_map h.keys hold hmem rfl
    exact hgone (hsame ▸ hentry)
  · exact hother (congrArg Prod.fst hnew)

/-- Where another key's entry makes way, there are fewer entries than before. -/
theorem Kept.size_insert_lt (h : Kept history c) (hthere : key ∈ c.entries.map (·.1))
    (hfull : c.IsFull now) (hx : c.Oldest now x) (hother : x.1 ≠ key) (snapshot : Snapshot) :
    (c.insert now key snapshot).size < c.size := by
  have hall : c.fresh now = c.entries :=
    (c.fresh_sublist now).eq_of_length_le (h.size.trans hfull.ge)
  have hstaying : (c.staying now).length + 1 = c.entries.length := by
    have hlength : (c.fresh now).length = c.entries.length := congrArg List.length hall
    have hone : 1 ≤ max c.room 1 := le_max_right _ _
    rw [staying_eq, if_pos hfull.ge, List.length_drop]
    rw [IsFull] at hfull
    omega
  have hstays : key ∈ (c.staying now).map (·.1) := by
    obtain ⟨y, hy, hkey⟩ := List.mem_map.1 hthere
    refine List.mem_map.2 ⟨y, (h.mem_staying_iff (hall ▸ hy)).2 fun hboth => ?_, hkey⟩
    exact hother (hx.eq hboth.2 ▸ hkey)
  have hremoved := length_remove_lt hstays
  show (c.insert now key snapshot).entries.length < c.entries.length
  rw [entries_insert h.enabled, List.length_append, List.length_singleton]
  omega

/-- An insertion under a key that is there replaces its entry and makes the cache no larger.  It
leaves all entries of other keys that count exactly if there is room besides what counts, or if the
oldest entry is the one that is replaced.  Otherwise just the oldest is lost, and the cache holds
less than before. -/
theorem spares_iff (h : c.IsReached now) (hthere : key ∈ c.entries.map (·.1))
    (snapshot : Snapshot) :
    (c.insert now key snapshot).entries.filter (·.1 == key) = [(key, ⟨snapshot, now⟩)] ∧
    (c.insert now key snapshot).size ≤ c.size ∧
    (c.Spares now key snapshot ↔ (c.IsFull now → ∃ x, c.Oldest now x ∧ x.1 = key)) ∧
    ∀ x, c.IsFull now → c.Oldest now x → x.1 ≠ key →
      c.get now x.1 = some x.2.snapshot ∧
      (c.insert now key snapshot).get now x.1 = none ∧
      (c.insert now key snapshot).size < c.size ∧
      ∀ y ∈ c.fresh now, y.1 ≠ key → y ≠ x → y ∈ (c.insert now key snapshot).entries := by
  obtain ⟨history, hbefore, hkept⟩ := h.exists_kept
  refine ⟨filter_entries_insert hkept.enabled now key snapshot,
    hkept.size_insert_le hthere now snapshot, hkept.spares_iff_oldest hbefore,
    fun x hfull hx hother => ⟨?_, ?_, hkept.size_insert_lt hthere hfull hx hother snapshot, ?_⟩⟩
  · exact hkept.get_eq_some_iff.2 ⟨x.2.inserted, hx.mem⟩
  · have hmem : x ∈ c.entries := (c.fresh_sublist now).subset hx.mem
    refine hkept.get_insert_eq_none hbefore hmem hother fun hstill => ?_
    exact ((hkept.mem_insert_iff hbefore hx.mem).1 hstill).2 ⟨hfull, hx⟩
  · intro y hy hkey hne
    exact (hkept.mem_insert_iff hbefore hy).2 ⟨hkey, fun hboth => hne (hboth.2.eq hx)⟩

theorem isReached_twoShops : (after 5 2 twoShops).IsReached 4 := by
  refine ⟨5, 2, twoShops, ?_, ?_, rfl⟩
  · unfold twoShops History.GoesOn
    decide
  · unfold twoShops History.Before
    decide

/-- There is room for two, and the older of the two is inserted again. -/
theorem spares_iff_twoShops : (after 5 2 twoShops).IsReached 4 ∧
    "north" ∈ (after 5 2 twoShops).entries.map (·.1) ∧ (after 5 2 twoShops).IsFull 4 ∧
    (after 5 2 twoShops).Spares 4 "north" {} := by
  have hthere : "north" ∈ (after 5 2 twoShops).entries.map (·.1) := by decide
  have hfull : (after 5 2 twoShops).IsFull 4 := by
    unfold IsFull
    decide
  have holdest : (after 5 2 twoShops).Oldest 4 ("north", ⟨{}, 1⟩) := by
    obtain ⟨history, _, hkept⟩ := isReached_twoShops.exists_kept
    have hfresh : (after 5 2 twoShops).fresh 4 = [("north", ⟨{}, 1⟩), ("south", ⟨{}, 2⟩)] := rfl
    exact hkept.oldest_head hfresh
  exact ⟨isReached_twoShops, hthere, hfull,
    (spares_iff isReached_twoShops hthere {}).2.2.1.2 fun _ => ⟨_, holdest, rfl⟩⟩

/-- The younger of the two is inserted again, and the older one, which counts, is lost. -/
theorem not_spares_twoShops : (after 5 2 twoShops).IsReached 4 ∧
    "south" ∈ (after 5 2 twoShops).entries.map (·.1) ∧
    ¬ (after 5 2 twoShops).Spares 4 "south" {} := by
  refine ⟨isReached_twoShops, by decide, fun hspares => ?_⟩
  have hnorth : ("north", ⟨{}, 1⟩) ∈ (after 5 2 twoShops).fresh 4 := List.mem_cons_self
  have hkept := List.mem_map_of_mem (f := (·.1)) (hspares _ hnorth (by decide))
  exact absurd hkept (by decide)

end

end Granary.Schema.Cache
