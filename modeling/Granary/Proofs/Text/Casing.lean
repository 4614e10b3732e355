import Granary.Text.Casing

/-!
# Lower case twice

What has been put in lower case is in lower case: `lowercase_lowercase`.  Names are looked up in
lower case again and again, so the name a table is looked up by stays the same however often.

The characters of a text in lower case are settled: none is changed, whatever stands beside it.  For
the characters beyond ASCII this is a property of the table, that no run maps into another, and the
table is checked for it.
-/

namespace Granary.Text

/-- Characters that stay as they are. -/
structure Settled (c : Char) : Prop where
  lowerChar : lowerChar c = c
  not_sigma : c ≠ 'Σ'
  not_dotted : c ≠ 'İ'

theorem Settled.lowerBetween {c : Char} (h : Settled c) (before after : List Char) :
    lowerBetween before c after = [c] := by
  rw [Text.lowerBetween, if_neg h.not_sigma, if_neg h.not_dotted, h.lowerChar]

/-! ## The table -/

namespace CaseTable

namespace Run

/-- The code point that a run maps another to. -/
def image (r : Run) (n : Nat) : Nat := ((n : Int) + r.shift).toNat

theorem image_le_image {r : Run} {m n : Nat} (h : m ≤ n) : r.image m ≤ r.image n := by
  simp only [image]
  omega

/-- The code points that a run maps to. -/
def images (r : Run) : List Nat :=
  ((List.range (r.last - r.first + 1)).filter fun k => k % r.step == 0).map fun k =>
    r.image (r.first + k)

theorem covers_iff {r : Run} {n : Nat} : r.covers n = true ↔
    r.first ≤ n ∧ n ≤ r.last ∧ (n - r.first) % r.step = 0 := by
  simp [covers, and_assoc]

theorem image_mem_images {r : Run} {n : Nat} (h : r.covers n = true) : r.image n ∈ r.images := by
  obtain ⟨hfirst, hlast, hstep⟩ := covers_iff.1 h
  have hn : r.first + (n - r.first) = n := by omega
  have hrange : n - r.first ∈ List.range (r.last - r.first + 1) := List.mem_range.2 (by omega)
  refine List.mem_map.2 ⟨n - r.first, List.mem_filter.2 ⟨hrange, ?_⟩, by rw [hn]⟩
  rw [hstep]
  rfl

/-- Whether no image of one run is mapped by another.  Most runs lie apart, and only those that do
not are gone through. -/
def apart (r other : Run) : Bool :=
  Nat.blt (r.image r.last) other.first || Nat.blt other.last (r.image r.first) ||
    r.images.all fun m => !other.covers m

theorem not_covers_image {r other : Run} (h : r.apart other = true) {n : Nat}
    (hn : r.covers n = true) : other.covers (r.image n) = false := by
  obtain ⟨hfirst, hlast, _⟩ := covers_iff.1 hn
  have hlow : r.image r.first ≤ r.image n := image_le_image hfirst
  have hhigh : r.image n ≤ r.image r.last := image_le_image hlast
  simp only [apart, Bool.or_eq_true, Nat.blt_eq, List.all_eq_true, Bool.not_eq_true'] at h
  obtain (hbefore | hbehind) | hall := h
  · rw [Bool.eq_false_iff, Ne, covers_iff]
    omega
  · rw [Bool.eq_false_iff, Ne, covers_iff]
    omega
  · exact hall _ (image_mem_images hn)

end Run

/-- Whether a code point is one of a character that is neither a capital letter of ASCII nor the
dotted capital I. -/
def isPlain (m : Nat) : Bool :=
  (m < 0xD800 || (0xE000 ≤ m && m < 0x110000)) && (m < 0x41 || 0x5A < m) && m != 0x130

theorem apart_lowercaseRuns :
    (lowercaseRuns.all fun r => lowercaseRuns.all r.apart) = true := by
  decide +kernel

theorem isPlain_images : (lowercaseRuns.all fun r => r.images.all isPlain) = true := by
  decide +kernel

end CaseTable

open CaseTable

theorem toNat_ofNat_of_isPlain {m : Nat} (h : isPlain m = true) : (Char.ofNat m).toNat = m := by
  simp only [isPlain, Bool.and_eq_true, Bool.or_eq_true, decide_eq_true_eq] at h
  have hvalid : m.isValidChar := by
    rw [Nat.isValidChar]
    omega
  rw [Char.ofNat, dif_pos hvalid]
  rfl

theorem toLower_eq_self {c : Char} (h : c.toNat < 0x41 ∨ 0x5A < c.toNat) : c.toLower = c := by
  have hnot : ¬ (c.val ≥ 'A'.val ∧ c.val ≤ 'Z'.val) := by
    rintro ⟨hlow, hhigh⟩
    have hlow' : 0x41 ≤ c.toNat := UInt32.le_iff_toNat_le.1 hlow
    have hhigh' : c.toNat ≤ 0x5A := UInt32.le_iff_toNat_le.1 hhigh
    omega
  unfold Char.toLower
  rw [dif_neg hnot]

/-- A capital letter of ASCII becomes a small one. -/
theorem settled_toLower {c : Char} (h : c.toNat < 0x80) : Settled c.toLower := by
  have hall : ∀ n < 0x80, lowerChar (Char.ofNat n).toLower = (Char.ofNat n).toLower ∧
      (Char.ofNat n).toLower ≠ 'Σ' ∧ (Char.ofNat n).toLower ≠ 'İ' := by decide
  have hc := hall c.toNat h
  rw [Char.ofNat_toNat] at hc
  exact ⟨hc.1, hc.2.1, hc.2.2⟩

/-- What a run maps to is settled, since no other run maps it further. -/
theorem settled_image {r : Run} (hr : r ∈ lowercaseRuns) {n : Nat} (hn : r.covers n = true) :
    Settled (Char.ofNat (r.image n)) := by
  have hplain : isPlain (r.image n) = true :=
    List.all_eq_true.1 (List.all_eq_true.1 isPlain_images r hr) _ (Run.image_mem_images hn)
  have hcovered : ∀ other ∈ lowercaseRuns, other.covers (r.image n) = false := fun other hother =>
    Run.not_covers_image (List.all_eq_true.1 (List.all_eq_true.1 apart_lowercaseRuns r hr) other
      hother) hn
  generalize r.image n = m at hplain hcovered
  have hm := toNat_ofNat_of_isPlain hplain
  simp only [isPlain, Bool.and_eq_true, Bool.or_eq_true, decide_eq_true_eq, bne_iff_ne] at hplain
  refine ⟨?_, ?_, ?_⟩
  · rw [lowerChar, hm]
    split
    · rename_i hascii
      exact toLower_eq_self (by rw [hm]; omega)
    · rw [List.find?_eq_none.2 fun other hother => by simp [hcovered other hother]]
  · -- The capital sigma is mapped by a run itself.
    intro hsigma
    have hvalue : m = 0x3A3 := by rw [← hm, hsigma]; rfl
    have hmapped : (lowercaseRuns.any fun other => other.covers 0x3A3) = true := by decide
    obtain ⟨other, hother, hcovers⟩ := List.any_eq_true.1 hmapped
    rw [← hvalue, hcovered other hother] at hcovers
    cases hcovers
  · intro hdotted
    have hvalue : m = 0x130 := by rw [← hm, hdotted]; rfl
    exact hplain.2 hvalue

/-- The lower case of a character is settled. -/
theorem settled_lowerChar {c : Char} (hsigma : c ≠ 'Σ') (hdotted : c ≠ 'İ') :
    Settled (lowerChar c) := by
  rw [lowerChar]
  split
  · exact settled_toLower ‹_›
  · rename_i hbeyond
    split
    · rename_i run hrun
      have hcovers : run.covers c.toNat = true := by simpa using List.find?_some hrun
      exact settled_image (List.mem_of_find?_eq_some hrun) hcovers
    · rename_i hnone
      refine ⟨?_, hsigma, hdotted⟩
      rw [lowerChar, if_neg hbeyond, hnone]

theorem settled_of_mem_lowerBetween {before after : List Char} {c d : Char}
    (h : d ∈ lowerBetween before c after) : Settled d := by
  -- with `all`, so that these are decided and not the statement for every character
  have hsmall : ['ς', 'σ', 'i', '\u0307'].all (fun d => lowerChar d = d ∧ d ≠ 'Σ' ∧ d ≠ 'İ') := by
    decide
  have hsettled : ∀ d ∈ ['ς', 'σ', 'i', '\u0307'], Settled d := fun d hd => by
    obtain ⟨hlower, hsigma, hdotted⟩ := of_decide_eq_true (List.all_eq_true.1 hsmall d hd)
    exact ⟨hlower, hsigma, hdotted⟩
  rw [lowerBetween] at h
  split at h
  · rw [List.mem_singleton] at h
    split at h
    · exact hsettled d (by simp [h])
    · exact hsettled d (by simp [h])
  · split at h
    · exact hsettled d (List.mem_of_mem_drop (i := 2) h)
    · rw [List.mem_singleton.1 h]
      exact settled_lowerChar ‹_› ‹_›

theorem settled_of_mem_lowerFrom {before cs : List Char} {d : Char}
    (h : d ∈ lowerFrom before cs) : Settled d := by
  induction cs generalizing before with
  | nil => exact absurd h List.not_mem_nil
  | cons c after ih =>
    obtain h | h := List.mem_append.1 h
    · exact settled_of_mem_lowerBetween h
    · exact ih h

theorem lowerFrom_of_settled {before cs : List Char} (h : ∀ c ∈ cs, Settled c) :
    lowerFrom before cs = cs := by
  induction cs generalizing before with
  | nil => rfl
  | cons c after ih =>
    rw [lowerFrom, (h c List.mem_cons_self).lowerBetween,
      ih fun d hd => h d (List.mem_cons_of_mem c hd), List.singleton_append]

/-- A text in lower case is its own lower case. -/
theorem lowercase_lowercase (s : String) : lowercase (lowercase s) = lowercase s := by
  rw [lowercase, lowercase, String.toList_ofList]
  rw [lowerFrom_of_settled fun c hc => settled_of_mem_lowerFrom hc]

end Granary.Text
