import Granary.Sorting

/-!
# Values under names

A list of named values, in the order in which the names were first set.  Setting a name again
replaces its value in place.
-/

namespace Granary

/-- Values under names. -/
abbrev Named (α : Type) := List (String × α)

namespace Named

variable {α : Type}

def get? (xs : Named α) (name : String) : Option α :=
  match xs with
  | [] => none
  | (other, a) :: rest => if other = name then some a else get? rest name

def contains (xs : Named α) (name : String) : Bool := (xs.get? name).isSome

/-- Sets a name, in place if it is there and at the end otherwise. -/
def set (xs : Named α) (name : String) (value : α) : Named α :=
  match xs with
  | [] => [(name, value)]
  | (other, a) :: rest =>
    if other = name then (name, value) :: rest else (other, a) :: set rest name value

/-- Sets a name that is not there yet. -/
def setNew (xs : Named α) (name : String) (value : α) : Named α :=
  if xs.contains name then xs else xs ++ [(name, value)]

/-- The values in ascending order of their names. -/
def sorted (xs : Named α) : Named α := sortBy (fun a b => a.1 ≤ b.1) xs

def remove (xs : Named α) (name : String) : Named α := xs.filter (·.1 != name)

@[simp] theorem get?_nil (name : String) : get? ([] : Named α) name = none := rfl

theorem get?_set (xs : Named α) (name other : String) (value : α) :
    (xs.set name value).get? other = if name = other then some value else xs.get? other := by
  induction xs with
  | nil => simp [set, get?]
  | cons x rest ih =>
    obtain ⟨n, a⟩ := x
    by_cases h : n = name
    · subst h
      by_cases ho : n = other <;> simp [set, get?, ho]
    · by_cases ho : n = other
      · subst ho
        have : ¬ name = n := fun e => h e.symm
        simp [set, get?, h, this]
      · simp [set, get?, h, ho, ih]

theorem mem_of_get?_eq_some {xs : Named α} {name : String} {a : α} (h : xs.get? name = some a) :
    (name, a) ∈ xs := by
  induction xs with
  | nil => cases h
  | cons x rest ih =>
    obtain ⟨other, b⟩ := x
    rw [get?] at h
    split at h
    · rename_i hsame
      cases h
      rw [hsame]
      exact List.mem_cons_self
    · exact List.mem_cons_of_mem _ (ih h)

/-- Where names differ, a name finds the one entry that has it. -/
theorem find?_of_nodup {name : α → String} {entries : List α} {x : α}
    (hnodup : (entries.map name).Nodup) (hx : x ∈ entries) :
    entries.find? (fun other => name other == name x) = some x := by
  induction entries with
  | nil => cases hx
  | cons other rest ih =>
    rw [List.map_cons, List.nodup_cons] at hnodup
    obtain rfl | hx := List.mem_cons.1 hx
    · exact List.find?_cons_of_pos (beq_self_eq_true _)
    · have hne : name other ≠ name x := fun h => hnodup.1 (h ▸ List.mem_map_of_mem hx)
      rw [List.find?_cons_of_neg (by simpa using hne)]
      exact ih hnodup.2 hx

theorem mem_remove {xs : Named α} {name : String} {x : String × α} :
    x ∈ xs.remove name ↔ x ∈ xs ∧ x.1 ≠ name := by
  simp [remove]

/-- A name that was removed is found where it is put next. -/
theorem get?_remove_append (xs : Named α) (name : String) (value : α) :
    (xs.remove name ++ [(name, value)]).get? name = some value := by
  induction xs with
  | nil => simp [remove, get?]
  | cons x rest ih =>
    obtain ⟨other, a⟩ := x
    by_cases h : other = name
    · subst h
      simpa [remove] using ih
    · simpa [remove, get?, h] using ih

end Named

end Granary
