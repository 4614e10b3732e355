import Granary.Json.Value
import Mathlib.Data.List.Dedup
import Mathlib.Data.String.Basic

/-!
# Objects made from fields

An object has one field for every name it is given a value for, in the order of the names.  So it
has as many fields as it is given values exactly if no name is given twice, and then every value is
found under its name.
-/

namespace Granary
namespace Json

variable {fields : List (String × Json)}

theorem mem_names_insertField (name : String) (value : Json) (fields : List (String × Json))
    (other : String) : other ∈ (insertField name value fields).map (·.1) ↔
      other = name ∨ other ∈ fields.map (·.1) := by
  induction fields with
  | nil => simp [insertField]
  | cons f rest ih =>
    obtain ⟨first, old⟩ := f
    simp only [insertField]
    split
    · rename_i hname
      subst hname
      simp
    · split
      · simp
      · rw [List.map_cons, List.mem_cons, ih, List.map_cons, List.mem_cons]
        tauto

theorem sorted_insertField (name : String) (value : Json)
    (h : (fields.map (·.1)).Pairwise (· < ·)) :
    ((insertField name value fields).map (·.1)).Pairwise (· < ·) := by
  induction fields with
  | nil => simp [insertField]
  | cons f rest ih =>
    obtain ⟨first, old⟩ := f
    rw [List.map_cons, List.pairwise_cons] at h
    obtain ⟨hfirst, hrest⟩ := h
    simp only [insertField]
    split
    · rename_i hname
      rw [List.map_cons, List.pairwise_cons]
      exact ⟨hname ▸ hfirst, hrest⟩
    · rename_i hne
      split
      · rename_i hlt
        rw [List.map_cons, List.map_cons, List.pairwise_cons, List.pairwise_cons]
        refine ⟨List.forall_mem_cons.2 ⟨hlt, fun other hother => ?_⟩, hfirst, hrest⟩
        exact hlt.trans (hfirst other hother)
      · rename_i hge
        have hlt : first < name := lt_of_le_of_ne (not_lt.1 hge) (Ne.symm hne)
        rw [List.map_cons, List.pairwise_cons]
        refine ⟨fun other hother => ?_, ih hrest⟩
        obtain rfl | hold := (mem_names_insertField name value rest other).1 hother
        · exact hlt
        · exact hfirst other hold

theorem find?_insertField (name : String) (value : Json) (fields : List (String × Json))
    (other : String) : (insertField name value fields).find? (·.1 == other) =
      if name = other then some (name, value) else fields.find? (·.1 == other) := by
  induction fields with
  | nil => by_cases h : name = other <;> simp [insertField, h]
  | cons f rest ih =>
    obtain ⟨first, old⟩ := f
    simp only [insertField]
    split
    · rename_i hname
      subst hname
      by_cases h : name = other <;> simp [h]
    · rename_i hne
      split
      · by_cases h : name = other <;> simp [h]
      · by_cases h : name = other
        · subst h
          have hne' : first ≠ name := Ne.symm hne
          simp [hne', ih]
        · by_cases hf : first = other <;> simp [h, hf, ih]

/-- The fields of an object to which some more are given. -/
def give (acc given : List (String × Json)) : List (String × Json) :=
  given.foldl (fun acc f => insertField f.1 f.2 acc) acc

theorem ofFields_eq (given : List (String × Json)) : ofFields given = .object (give [] given) := rfl

theorem sorted_give (given : List (String × Json)) (h : (fields.map (·.1)).Pairwise (· < ·)) :
    ((give fields given).map (·.1)).Pairwise (· < ·) := by
  induction given generalizing fields with
  | nil => exact h
  | cons f rest ih => exact ih (sorted_insertField f.1 f.2 h)

theorem mem_names_give (given fields : List (String × Json)) (name : String) :
    name ∈ (give fields given).map (·.1) ↔ name ∈ fields.map (·.1) ∨ name ∈ given.map (·.1) := by
  induction given generalizing fields with
  | nil => simp [give]
  | cons f rest ih =>
    have hstep : give fields (f :: rest) = give (insertField f.1 f.2 fields) rest := rfl
    rw [hstep, ih, mem_names_insertField, List.map_cons, List.mem_cons]
    tauto

theorem length_give_eq_iff (given : List (String × Json)) :
    (give [] given).length = given.length ↔ (given.map (·.1)).Nodup := by
  have hsorted : ((give [] given).map (·.1)).Pairwise (· < ·) := sorted_give given List.Pairwise.nil
  have hnodup : ((give [] given).map (·.1)).Nodup := hsorted.imp fun hlt => hlt.ne
  -- The names of the fields are the names given, each once.
  have hperm : ((give [] given).map (·.1)).Perm (given.map (·.1)).dedup := by
    rw [List.perm_ext_iff_of_nodup hnodup (List.nodup_dedup _)]
    intro name
    rw [mem_names_give, List.mem_dedup]
    simp
  have hlength : (give [] given).length = (given.map (·.1)).dedup.length := by
    rw [← hperm.length_eq, List.length_map]
  rw [hlength, ← List.dedup_eq_self]
  constructor
  · intro h
    exact (List.dedup_sublist _).eq_of_length (by rw [h, List.length_map])
  · intro h
    rw [h, List.length_map]

theorem find?_give_of_not_mem {given : List (String × Json)} {name : String}
    (h : name ∉ given.map (·.1)) (fields : List (String × Json)) :
    (give fields given).find? (·.1 == name) = fields.find? (·.1 == name) := by
  induction given generalizing fields with
  | nil => rfl
  | cons f rest ih =>
    rw [List.map_cons, List.mem_cons, not_or] at h
    have hstep : give fields (f :: rest) = give (insertField f.1 f.2 fields) rest := rfl
    rw [hstep, ih h.2, find?_insertField, if_neg (Ne.symm h.1)]

theorem find?_give_of_mem {given : List (String × Json)} (hnodup : (given.map (·.1)).Nodup)
    {f : String × Json} (h : f ∈ given) (fields : List (String × Json)) :
    (give fields given).find? (·.1 == f.1) = some f := by
  induction given generalizing fields with
  | nil => exact absurd h List.not_mem_nil
  | cons g rest ih =>
    rw [List.map_cons, List.nodup_cons] at hnodup
    have hstep : give fields (g :: rest) = give (insertField g.1 g.2 fields) rest := rfl
    rw [hstep]
    obtain rfl | hrest := List.mem_cons.1 h
    · rw [find?_give_of_not_mem hnodup.1, find?_insertField, if_pos rfl]
    · exact ih hnodup.2 hrest _

/-- Where no name is given twice, every value is found under its name. -/
theorem field?_ofFields {given : List (String × Json)} (hnodup : (given.map (·.1)).Nodup)
    {f : String × Json} (h : f ∈ given) : (ofFields given).field? f.1 = some f.2 := by
  rw [ofFields_eq, field?, find?_give_of_mem hnodup h]
  rfl

/-- What is found under a name is what is given under it, if anything is. -/
theorem field?_ofFields_eq {given : List (String × Json)} (hnodup : (given.map (·.1)).Nodup)
    (name : String) (value? : Option Json) (h : ∀ v, (name, v) ∈ given ↔ value? = some v) :
    (ofFields given).field? name = value? := by
  cases value? with
  | some v => exact field?_ofFields hnodup ((h v).2 rfl)
  | none =>
    have hnot : name ∉ given.map (·.1) := by
      intro hmem
      obtain ⟨f, hf, rfl⟩ := List.mem_map.1 hmem
      exact absurd ((h f.2).1 hf) (Option.some_ne_none f.2).symm
    rw [ofFields_eq, field?, find?_give_of_not_mem hnot]
    rfl

/-- A field that is given only where there is a value has one name at most. -/
theorem names_sublist {α : Type} (name : String) (write : α → Json) (a? : Option α) :
    ((a?.toList.map fun a => (name, write a)).map (·.1)).Sublist [name] := by
  cases a? with
  | none => exact List.nil_sublist _
  | some a => exact List.Sublist.refl _

end Json
end Granary
