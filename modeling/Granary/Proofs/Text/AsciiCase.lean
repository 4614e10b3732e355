import Granary.Proofs.Text.Casing

/-!
# The case of ASCII letters

Names may also be compared by the case of their ASCII letters alone, which is the finer comparison
of the two: names that agree by it agree in lower case, `lowercase_eq_of_sameAscii`.  A name agrees
by it with its own lower case exactly if its ASCII letters are the only ones that change,
`sameAscii_lowercase_iff`, and of a name in ASCII this holds.
-/

namespace Granary.Text

/-- All characters are ASCII. -/
def IsAscii (s : String) : Prop := ∀ c ∈ s.toList, c.toNat < 0x80

instance (s : String) : Decidable (IsAscii s) :=
  List.decidableBAll (fun c : Char => c.toNat < 0x80) s.toList

/-! ## Characters -/

/-- What holds of the capital letters of ASCII and of all characters that have no other case holds
of every character. -/
theorem forall_char_of_capital {P : Char → Prop} (hcapital : ∀ n < 26, P (Char.ofNat (n + 0x41)))
    (hsame : ∀ c : Char, c.toLower = c → P c) (c : Char) : P c := by
  by_cases h : c.toNat < 0x41 ∨ 0x5A < c.toNat
  · exact hsame c (toLower_eq_self h)
  · have hc := hcapital (c.toNat - 0x41) (by omega)
    rwa [Nat.sub_add_cancel (by omega), Char.ofNat_toNat] at hc

theorem toNat_toLower_of_capital {c : Char} (h : 0x41 ≤ c.toNat ∧ c.toNat ≤ 0x5A) :
    c.toLower.toNat = c.toNat + 0x20 := by
  have hall : ∀ n < 0x1A, (Char.ofNat (n + 0x41)).toLower.toNat = n + 0x41 + 0x20 := by decide
  have hc := hall (c.toNat - 0x41) (by omega)
  rwa [Nat.sub_add_cancel h.1, Char.ofNat_toNat] at hc

theorem isCased_toLower (c : Char) : isCased c.toLower = isCased c :=
  forall_char_of_capital (P := fun c => isCased c.toLower = isCased c) (by decide)
    (fun c h => by rw [h]) c

theorem lowerChar_toLower (c : Char) : lowerChar c.toLower = lowerChar c :=
  forall_char_of_capital (P := fun c => lowerChar c.toLower = lowerChar c) (by decide)
    (fun c h => by rw [h]) c

theorem toLower_eq_sigma_iff (c : Char) : c.toLower = 'Σ' ↔ c = 'Σ' :=
  forall_char_of_capital (P := fun c => c.toLower = 'Σ' ↔ c = 'Σ') (by decide)
    (fun c h => by rw [h]) c

theorem toLower_eq_dotted_iff (c : Char) : c.toLower = 'İ' ↔ c = 'İ' :=
  forall_char_of_capital (P := fun c => c.toLower = 'İ' ↔ c = 'İ') (by decide)
    (fun c h => by rw [h]) c

/-- No letter of ASCII is case-ignorable. -/
theorem isCaseIgnorable_of_letter {c : Char}
    (h : 0x41 ≤ c.toNat ∧ c.toNat ≤ 0x5A ∨ 0x61 ≤ c.toNat ∧ c.toNat ≤ 0x7A) :
    isCaseIgnorable c = false := by
  have hranges : ∀ r ∈ CaseTable.ignorableRanges,
      r.2 < 0x41 ∨ 0x5A < r.1 ∧ r.2 < 0x61 ∨ 0x7A < r.1 := by decide +kernel
  refine List.any_eq_false.2 fun r hr hin => ?_
  rw [Bool.and_eq_true, decide_eq_true_iff, decide_eq_true_iff] at hin
  have hr := hranges r hr
  omega

theorem isCaseIgnorable_toLower (c : Char) : isCaseIgnorable c.toLower = isCaseIgnorable c := by
  by_cases h : c.toNat < 0x41 ∨ 0x5A < c.toNat
  · rw [toLower_eq_self h]
  · rw [not_or, Nat.not_lt, Nat.not_lt] at h
    have hsmall := toNat_toLower_of_capital h
    rw [isCaseIgnorable_of_letter (.inl h), isCaseIgnorable_of_letter (.inr (by omega))]

theorem Settled.toLower {c : Char} (h : Settled c) : c.toLower = c := by
  by_cases hascii : c.toNat < 0x80
  · have hlower := h.lowerChar
    rwa [Text.lowerChar, if_pos hascii] at hlower
  · exact toLower_eq_self (by omega)

/-! ## Texts -/

theorem meetsCased_map_toLower (cs : List Char) :
    meetsCased (cs.map Char.toLower) = meetsCased cs := by
  induction cs with
  | nil => rfl
  | cons c rest ih =>
    unfold meetsCased at ih ⊢
    rw [List.map_cons]
    cases hignored : isCaseIgnorable c with
    | true =>
      rw [List.dropWhile_cons_of_pos ((isCaseIgnorable_toLower c).trans hignored),
        List.dropWhile_cons_of_pos hignored]
      exact ih
    | false =>
      have hkept : ¬ isCaseIgnorable c.toLower = true := by
        rw [isCaseIgnorable_toLower, hignored]
        exact Bool.false_ne_true
      rw [List.dropWhile_cons_of_neg hkept, List.dropWhile_cons_of_neg (by simp [hignored])]
      exact isCased_toLower c

theorem lowerBetween_map_toLower (before : List Char) (c : Char) (after : List Char) :
    lowerBetween (before.map Char.toLower) c.toLower (after.map Char.toLower) =
      lowerBetween before c after := by
  simp only [lowerBetween, toLower_eq_sigma_iff, toLower_eq_dotted_iff, meetsCased_map_toLower,
    lowerChar_toLower]

theorem lowerFrom_map_toLower (before cs : List Char) :
    lowerFrom (before.map Char.toLower) (cs.map Char.toLower) = lowerFrom before cs := by
  induction cs generalizing before with
  | nil => rfl
  | cons c after ih =>
    have hafter := ih (c :: before)
    rw [List.map_cons] at hafter
    rw [List.map_cons, lowerFrom, lowerFrom, lowerBetween_map_toLower, hafter]

theorem lowercase_asciiLower (s : String) : lowercase (asciiLower s) = lowercase s := by
  rw [lowercase, asciiLower, String.toList_map]
  exact congrArg String.ofList (lowerFrom_map_toLower [] s.toList)

theorem asciiLower_lowercase (s : String) : asciiLower (lowercase s) = lowercase s := by
  refine String.toList_inj.1 ?_
  rw [asciiLower, String.toList_map, lowercase, String.toList_ofList]
  have hsettled : ∀ c ∈ lowerFrom [] s.toList, c.toLower = id c :=
    fun c hc => (settled_of_mem_lowerFrom hc).toLower
  rw [List.map_congr_left hsettled, List.map_id]

theorem lowerFrom_of_ascii (before : List Char) {cs : List Char} (h : ∀ c ∈ cs, c.toNat < 0x80) :
    lowerFrom before cs = cs.map Char.toLower := by
  induction cs generalizing before with
  | nil => rfl
  | cons c after ih =>
    obtain ⟨hc, hafter⟩ := List.forall_mem_cons.1 h
    have hsigma : c ≠ 'Σ' := by
      rintro rfl
      exact absurd hc (by decide)
    have hdotted : c ≠ 'İ' := by
      rintro rfl
      exact absurd hc (by decide)
    rw [lowerFrom, lowerBetween, if_neg hsigma, if_neg hdotted, lowerChar, if_pos hc, ih _ hafter,
      List.map_cons, List.singleton_append]

theorem lowercase_of_isAscii {s : String} (h : IsAscii s) : lowercase s = asciiLower s := by
  rw [lowercase, lowerFrom_of_ascii [] h, asciiLower, ← String.toList_map, String.ofList_toList]

/-! ## Comparing -/

theorem sameAscii_iff {a b : String} : sameAscii a b = true ↔ asciiLower a = asciiLower b :=
  beq_iff_eq

theorem lowercase_eq_of_sameAscii {a b : String} (h : sameAscii a b = true) :
    lowercase a = lowercase b := by
  rw [← lowercase_asciiLower a, sameAscii_iff.1 h, lowercase_asciiLower]

theorem sameAscii_lowercase_iff {s : String} :
    sameAscii s (lowercase s) = true ↔ lowercase s = asciiLower s := by
  rw [sameAscii_iff, asciiLower_lowercase, eq_comm]

end Granary.Text
