/-!
# Cutting texts

A text is cut at the first place where a separator occurs; what lies before and after it are the
two parts.
-/

namespace Granary.Text

/-- The parts of `cs` before and after the first occurrence of `sep`. -/
def cutAt (sep : List Char) : List Char → Option (List Char × List Char)
  | [] => if sep.isEmpty then some ([], []) else none
  | c :: rest =>
    if sep.isPrefixOf (c :: rest) then some ([], (c :: rest).drop sep.length)
    else (cutAt sep rest).map fun parts => (c :: parts.1, parts.2)

/-- The parts of `s` before and after the first occurrence of `sep`. -/
def cut (sep : String) (s : String) : Option (String × String) :=
  (cutAt sep.toList s.toList).map fun parts => (String.ofList parts.1, String.ofList parts.2)

/-- Whether `sep` occurs in `s`. -/
def occursIn (sep : String) (s : String) : Bool := (cutAt sep.toList s.toList).isSome

/-- The parts between the occurrences of a separator, empty ones among them. -/
def parts (sep : Char) : List Char → List (List Char)
  | [] => [[]]
  | c :: rest =>
    if c = sep then [] :: parts sep rest
    else
      match parts sep rest with
      | first :: others => (c :: first) :: others
      | [] => [[c]]

/-- Every `c` written twice. -/
def double (c : Char) : List Char → List Char
  | [] => []
  | x :: rest => if x = c then c :: c :: double c rest else x :: double c rest

theorem append_of_cutAt {sep cs before after : List Char}
    (h : cutAt sep cs = some (before, after)) : cs = before ++ sep ++ after := by
  induction cs generalizing before with
  | nil =>
    simp only [cutAt] at h
    split at h
    · next hs =>
      simp only [Option.some.injEq, Prod.mk.injEq] at h
      obtain ⟨rfl, rfl⟩ := h
      simpa using hs.symm
    · simp at h
  | cons c rest ih =>
    simp only [cutAt] at h
    split at h
    · next hp =>
      simp only [Option.some.injEq, Prod.mk.injEq] at h
      obtain ⟨rfl, rfl⟩ := h
      obtain ⟨t, ht⟩ := List.isPrefixOf_iff_prefix.1 hp
      simp [← ht]
    · simp only [Option.map_eq_some_iff] at h
      obtain ⟨⟨b, a⟩, hb, he⟩ := h
      simp only [Prod.mk.injEq] at he
      obtain ⟨rfl, rfl⟩ := he
      simp [ih hb]

end Granary.Text
