import Granary.Named
import Granary.Schema.Snapshot

/-!
# Snapshots kept for a while

A cache keeps the last snapshots under keys.  An entry counts only while it is younger than the time
to live; when there is no room, the entry that was inserted longest ago makes way.  The present time
is given to every operation, so that time passes only where its caller says so.
-/

namespace Granary.Schema

/-- A snapshot and when it was inserted. -/
structure Entry where
  snapshot : Snapshot
  inserted : Nat
  deriving Repr, Inhabited

/-- Snapshots in the order of their insertion, the oldest first. -/
structure Cache where
  enabled : Bool := false
  /-- How long an entry counts, in the unit of the clock. -/
  timeToLive : Nat := 0
  /-- How many entries there may be; there is always room for one. -/
  room : Nat := 1
  entries : Named Entry := []
  deriving Repr, Inhabited

namespace Cache

/-- The readings of the clock that make up a second. -/
def second : Nat := 1000000000

def isFresh (c : Cache) (now : Nat) (e : Entry) : Bool := now - e.inserted < c.timeToLive

/-- The snapshot of a key, if it still counts. -/
def get (c : Cache) (now : Nat) (key : String) : Option Snapshot :=
  if c.enabled then ((c.entries.get? key).filter (c.isFresh now)).map (·.snapshot) else none

/-- The entries that stay when one more comes: those that still count, without the oldest if there
is no room. -/
def staying (c : Cache) (now : Nat) : Named Entry :=
  let fresh := c.entries.filter fun e => c.isFresh now e.2
  if fresh.length ≥ max c.room 1 then fresh.drop 1 else fresh

def insert (c : Cache) (now : Nat) (key : String) (snapshot : Snapshot) : Cache :=
  if c.enabled then
    { c with entries := (c.staying now).remove key ++ [(key, ⟨snapshot, now⟩)] }
  else c

def invalidate (c : Cache) (key : String) : Cache := { c with entries := c.entries.remove key }

def clear (c : Cache) : Cache := { c with entries := [] }

def size (c : Cache) : Nat := c.entries.length

section

variable {c : Cache} {now : Nat} {key : String} {snapshot : Snapshot} {x : String × Entry}

theorem mem_of_mem_staying (h : x ∈ c.staying now) : x ∈ c.entries := by
  simp only [staying] at h
  split at h
  · exact (List.mem_filter.1 (List.mem_of_mem_drop h)).1
  · exact (List.mem_filter.1 h).1

theorem mem_insert (h : x ∈ (c.insert now key snapshot).entries) :
    x ∈ c.entries ∨ x = (key, ⟨snapshot, now⟩) := by
  unfold insert at h
  split at h
  · obtain hold | hnew := List.mem_append.1 h
    · exact .inl (mem_of_mem_staying (Named.mem_remove.1 hold).1)
    · exact .inr (List.mem_singleton.1 hnew)
  · exact .inl h

theorem mem_of_get_eq_some (h : c.get now key = some snapshot) :
    ∃ inserted, (key, ⟨snapshot, inserted⟩) ∈ c.entries := by
  unfold get at h
  split at h
  · obtain ⟨entry, hentry, rfl⟩ := Option.map_eq_some_iff.1 h
    exact ⟨_, Named.mem_of_get?_eq_some (Option.filter_eq_some_iff.1 hentry).1⟩
  · cases h

@[simp] theorem enabled_insert : (c.insert now key snapshot).enabled = c.enabled := by
  unfold insert
  split <;> rfl

@[simp] theorem timeToLive_insert : (c.insert now key snapshot).timeToLive = c.timeToLive := by
  unfold insert
  split <;> rfl

/-- What has just been inserted is found, if anything is. -/
theorem get_insert (henabled : c.enabled = true) (hlive : 0 < c.timeToLive) :
    (c.insert now key snapshot).get now key = some snapshot := by
  have hfound : (c.insert now key snapshot).entries.get? key = some ⟨snapshot, now⟩ := by
    rw [insert, if_pos henabled]
    exact Named.get?_remove_append ..
  simp [get, henabled, hfound, Option.filter, isFresh, hlive]

/-- Nothing is found in a cache that is not enabled, or whose entries have no time to live. -/
theorem get_eq_none (h : c.enabled = false ∨ c.timeToLive = 0) : c.get now key = none := by
  unfold get
  split
  · have hlive : c.timeToLive = 0 := h.resolve_left (by simp [*])
    cases hfound : c.entries.get? key with
    | none => rfl
    | some e => simp [Option.filter, isFresh, hlive]
  · rfl

end

end Cache

end Granary.Schema
