import Granary.Proofs.Text.Casing
import Granary.Text.Blank
import Granary.Text.Split
import Mathlib.Data.List.Basic
import Mathlib.Data.List.TakeWhile

/-!
# Trimmed parts of texts

What trimming takes away are blanks at both ends, and nothing else depends on them: a text has the
same lower case whether it is trimmed before or afterwards (`lowercase_trim`), since a blank has no
letter case and does not hide a letter from a sigma.

A text is cut at a character into parts.  Trimming the text first changes no part that is trimmed in
the end.
-/

namespace Granary.Text

/-! ## Trimming -/

theorem dropWhile_blank_append {blanks : List Char} (h : ∀ c ∈ blanks, isBlank c = true)
    (cs : List Char) : (blanks ++ cs).dropWhile isBlank = cs.dropWhile isBlank := by
  rw [List.dropWhile_append, List.dropWhile_eq_nil_iff.2 h]
  rfl

/-- What is trimmed away are blanks before and after. -/
theorem exists_trimChars (cs : List Char) : ∃ before after : List Char,
    (∀ c ∈ before, isBlank c = true) ∧ (∀ c ∈ after, isBlank c = true) ∧
      cs = before ++ trimChars cs ++ after := by
  refine ⟨cs.takeWhile isBlank, ((cs.dropWhile isBlank).reverse.takeWhile isBlank).reverse,
    fun c hc => List.mem_takeWhile_imp hc, fun c hc => ?_, ?_⟩
  · exact List.mem_takeWhile_imp (List.mem_reverse.1 hc)
  · rw [trimChars, List.append_assoc, ← List.reverse_append, List.takeWhile_append_dropWhile,
      List.reverse_reverse, List.takeWhile_append_dropWhile]

/-- Blanks around a text do not matter once it is trimmed. -/
theorem trimChars_between {before after : List Char} (hbefore : ∀ c ∈ before, isBlank c = true)
    (hafter : ∀ c ∈ after, isBlank c = true) (cs : List Char) :
    trimChars (before ++ cs ++ after) = trimChars cs := by
  have hback : ∀ c ∈ after.reverse, isBlank c = true := fun c hc => hafter c (List.mem_reverse.1 hc)
  rw [trimChars, List.append_assoc, dropWhile_blank_append hbefore, List.dropWhile_append]
  split
  · rename_i hall
    rw [List.isEmpty_iff] at hall
    rw [trimChars, hall, List.dropWhile_eq_nil_iff.2 hafter]
  · rw [List.reverse_append, dropWhile_blank_append hback, trimChars]

theorem trimChars_trimChars (cs : List Char) : trimChars (trimChars cs) = trimChars cs := by
  obtain ⟨before, after, hbefore, hafter, hcs⟩ := exists_trimChars cs
  exact (trimChars_between hbefore hafter _).symm.trans (congrArg trimChars hcs.symm)

theorem trim_trim (s : String) : trim (trim s) = trim s := by
  rw [trim, trim, String.toList_ofList, trimChars_trimChars]

theorem mem_of_mem_trimChars {cs : List Char} {c : Char} (h : c ∈ trimChars cs) : c ∈ cs := by
  obtain ⟨before, after, _, _, hcs⟩ := exists_trimChars cs
  rw [hcs]
  exact List.mem_append_left after (List.mem_append_right before h)

theorem trimChars_eq_nil_iff {cs : List Char} :
    trimChars cs = [] ↔ ∀ c ∈ cs, isBlank c = true := by
  constructor
  · intro h
    obtain ⟨before, after, hbefore, hafter, hcs⟩ := exists_trimChars cs
    rw [h, List.append_nil] at hcs
    rw [hcs]
    exact List.forall_mem_append.2 ⟨hbefore, hafter⟩
  · intro h
    have hnil := trimChars_between h (fun c hc => absurd hc List.not_mem_nil) []
    rwa [List.append_nil, List.append_nil] at hnil

theorem allBlank_iff {s : String} : allBlank s = true ↔ trim s = "" := by
  rw [allBlank, List.all_eq_true, ← trimChars_eq_nil_iff, trim, String.ofList_eq_empty_iff]

theorem dropWhile_isBlank_eq_self_iff {cs : List Char} :
    cs.dropWhile isBlank = cs ↔ ∀ c ∈ cs.head?, isBlank c = false := by
  cases cs with
  | nil => simp
  | cons c rest =>
    cases hc : isBlank c with
    | false => simp [hc]
    | true =>
      have hshort := (List.dropWhile_sublist isBlank (l := rest)).length_le
      simp only [List.dropWhile_cons, hc, if_true, List.head?_cons, Option.mem_def,
        Option.some.injEq, forall_eq', Bool.true_eq_false, iff_false]
      intro hsame
      rw [hsame, List.length_cons] at hshort
      omega

/-- Nothing is trimmed away exactly if neither end is blank. -/
theorem trimChars_eq_self_iff {cs : List Char} : trimChars cs = cs ↔
    (∀ c ∈ cs.head?, isBlank c = false) ∧ ∀ c ∈ cs.getLast?, isBlank c = false := by
  have hlast : (cs.reverse.dropWhile isBlank).reverse = cs ↔
      ∀ c ∈ cs.getLast?, isBlank c = false := by
    rw [List.reverse_eq_iff, dropWhile_isBlank_eq_self_iff, List.head?_reverse]
  rw [← dropWhile_isBlank_eq_self_iff, ← hlast]
  constructor
  · intro h
    have hfront : cs.dropWhile isBlank = cs := by
      refine (List.dropWhile_sublist isBlank).eq_of_length_le ?_
      have hlength := congrArg List.length h
      rw [trimChars, List.length_reverse] at hlength
      refine hlength.symm.le.trans ((List.dropWhile_sublist isBlank).length_le.trans ?_)
      rw [List.length_reverse]
    rw [trimChars, hfront] at h
    exact ⟨hfront, h⟩
  · rintro ⟨hfront, hback⟩
    rw [trimChars, hfront, hback]

/-! ## Trimming and lower case -/

/-- A blank stays as it is in lower case, and nothing is seen of it by a sigma. -/
structure Neutral (c : Char) : Prop where
  settled : Settled c
  not_cased : isCased c = false
  not_ignorable : isCaseIgnorable c = false

theorem neutral_of_isBlank {c : Char} (h : isBlank c = true) : Neutral c := by
  have hall : ([9, 10, 11, 12, 13, 0x20, 0x85, 0xA0, 0x1680, 0x2000, 0x2001, 0x2002, 0x2003,
      0x2004, 0x2005, 0x2006, 0x2007, 0x2008, 0x2009, 0x200A, 0x2028, 0x2029, 0x202F, 0x205F,
      0x3000].all fun n => lowerChar (Char.ofNat n) = Char.ofNat n ∧ Char.ofNat n ≠ 'Σ' ∧
        Char.ofNat n ≠ 'İ' ∧ isCased (Char.ofNat n) = false ∧
        isCaseIgnorable (Char.ofNat n) = false) = true := by
    decide +kernel
  have hmem : c.toNat ∈ [9, 10, 11, 12, 13, 0x20, 0x85, 0xA0, 0x1680, 0x2000, 0x2001, 0x2002,
      0x2003, 0x2004, 0x2005, 0x2006, 0x2007, 0x2008, 0x2009, 0x200A, 0x2028, 0x2029, 0x202F,
      0x205F, 0x3000] := by
    simp only [isBlank, Bool.or_eq_true, Bool.and_eq_true, decide_eq_true_eq, beq_iff_eq] at h
    simp only [List.mem_cons, List.not_mem_nil, or_false]
    omega
  have hc := of_decide_eq_true (List.all_eq_true.1 hall _ hmem)
  rw [Char.ofNat_toNat] at hc
  exact ⟨⟨hc.1, hc.2.1, hc.2.2.1⟩, hc.2.2.2.1, hc.2.2.2.2⟩

/-- No letter becomes a blank. -/
theorem isBlank_image : (CaseTable.lowercaseRuns.all fun r =>
    r.images.all fun m => !isBlank (Char.ofNat m)) = true := by
  decide +kernel

theorem isBlank_lowerChar {c : Char} (h : isBlank c = false) : isBlank (lowerChar c) = false := by
  have hascii : ((List.range 0x80).all fun n =>
      isBlank (Char.ofNat n) || !isBlank (Char.ofNat n).toLower) = true := by decide +kernel
  rw [lowerChar]
  split
  · rename_i hc
    have hn := List.all_eq_true.1 hascii c.toNat (List.mem_range.2 hc)
    simpa [h] using hn
  · split
    · rename_i run hrun
      have hcovers : run.covers c.toNat = true := by simpa using List.find?_some hrun
      have himages := List.all_eq_true.1 isBlank_image run (List.mem_of_find?_eq_some hrun)
      have himage := List.all_eq_true.1 himages _ (CaseTable.Run.image_mem_images hcovers)
      rwa [Bool.not_eq_true'] at himage
    · exact h

theorem isBlank_lowerBetween {before after : List Char} {c d : Char} (h : isBlank c = false)
    (hd : d ∈ lowerBetween before c after) : isBlank d = false := by
  rw [lowerBetween] at hd
  split at hd
  · rw [List.mem_singleton] at hd
    split at hd
    · rw [hd]
      decide
    · rw [hd]
      decide
  · split at hd
    · obtain rfl | hd := List.mem_cons.1 hd
      · decide
      · rw [List.mem_singleton.1 hd]
        decide
    · rw [List.mem_singleton.1 hd]
      exact isBlank_lowerChar h

/-- Blanks at the far end are not met. -/
theorem meetsCased_append_blank {blanks : List Char} (h : ∀ c ∈ blanks, isBlank c = true)
    (cs : List Char) : meetsCased (cs ++ blanks) = meetsCased cs := by
  have hblanks : meetsCased blanks = false := by
    cases blanks with
    | nil => rfl
    | cons c rest =>
      obtain ⟨_, hcased, hignorable⟩ := neutral_of_isBlank (h c List.mem_cons_self)
      simp [meetsCased, hignorable, hcased]
  induction cs with
  | nil => exact hblanks
  | cons c rest ih =>
    cases hc : isCaseIgnorable c with
    | true => simpa [meetsCased, hc] using ih
    | false => simp [meetsCased, hc]

theorem lowerBetween_append_blank {farBefore farAfter : List Char}
    (hbefore : ∀ c ∈ farBefore, isBlank c = true) (hafter : ∀ c ∈ farAfter, isBlank c = true)
    (before : List Char) (c : Char) (after : List Char) :
    lowerBetween (before ++ farBefore) c (after ++ farAfter) = lowerBetween before c after := by
  rw [lowerBetween, meetsCased_append_blank hbefore, meetsCased_append_blank hafter, lowerBetween]

theorem lowerFrom_blank_append {blanks : List Char} (h : ∀ c ∈ blanks, isBlank c = true)
    (before cs : List Char) :
    lowerFrom before (blanks ++ cs) = blanks ++ lowerFrom (blanks.reverse ++ before) cs := by
  induction blanks generalizing before with
  | nil => rfl
  | cons c rest ih =>
    have hc : Settled c := (neutral_of_isBlank (h c List.mem_cons_self)).settled
    rw [List.cons_append, lowerFrom, hc.lowerBetween,
      ih fun d hd => h d (List.mem_cons_of_mem c hd)]
    simp

/-- Blanks around a text are around its lower case, which they do not change. -/
theorem lowerFrom_between {farBefore farAfter : List Char}
    (hbefore : ∀ c ∈ farBefore, isBlank c = true) (hafter : ∀ c ∈ farAfter, isBlank c = true)
    (before cs : List Char) :
    lowerFrom (before ++ farBefore) (cs ++ farAfter) = lowerFrom before cs ++ farAfter := by
  induction cs generalizing before with
  | nil =>
    have hsettled : ∀ c ∈ farAfter, Settled c := fun c hc =>
      (neutral_of_isBlank (hafter c hc)).settled
    rw [List.nil_append, lowerFrom_of_settled hsettled]
    rfl
  | cons c rest ih =>
    rw [List.cons_append, lowerFrom, lowerBetween_append_blank hbefore hafter, ← List.cons_append,
      ih, lowerFrom, List.append_assoc]

theorem lowerBetween_ne_nil (before : List Char) (c : Char) (after : List Char) :
    lowerBetween before c after ≠ [] := by
  rw [lowerBetween]
  split
  · exact List.cons_ne_nil _ _
  · split
    · exact List.cons_ne_nil _ _
    · exact List.cons_ne_nil _ _

theorem lowerFrom_eq_nil_iff {before cs : List Char} : lowerFrom before cs = [] ↔ cs = [] := by
  cases cs with
  | nil => simp [lowerFrom]
  | cons c rest => simp [lowerFrom, lowerBetween_ne_nil]

theorem exists_lowerFrom_concat (before cs : List Char) (c : Char) : ∃ context,
    lowerFrom before (cs ++ [c]) = context ++ lowerBetween (cs.reverse ++ before) c [] := by
  induction cs generalizing before with
  | nil => exact ⟨[], by simp [lowerFrom]⟩
  | cons d rest ih =>
    obtain ⟨context, hcontext⟩ := ih (d :: before)
    refine ⟨lowerBetween before d (rest ++ [c]) ++ context, ?_⟩
    rw [List.cons_append, lowerFrom, hcontext]
    simp

/-- What is trimmed is so in lower case. -/
theorem trimChars_lowerFrom {cs : List Char} (h : trimChars cs = cs) (before : List Char) :
    trimChars (lowerFrom before cs) = lowerFrom before cs := by
  obtain ⟨hhead, hlast⟩ := trimChars_eq_self_iff.1 h
  refine trimChars_eq_self_iff.2 ⟨fun d hd => ?_, fun d hd => ?_⟩
  · cases cs with
    | nil => cases hd
    | cons c rest =>
      obtain ⟨e, es, hlower⟩ := List.exists_cons_of_ne_nil (lowerBetween_ne_nil before c rest)
      have hsame : e = d := by simpa [lowerFrom, hlower] using hd
      have hmem : d ∈ lowerBetween before c rest := by
        rw [hlower, hsame]
        exact List.mem_cons_self
      exact isBlank_lowerBetween (hhead c rfl) hmem
  · obtain rfl | ⟨front, c, hfront⟩ := List.eq_nil_or_concat cs
    · cases hd
    · rw [List.concat_eq_append] at hfront
      obtain ⟨context, hcontext⟩ := exists_lowerFrom_concat before front c
      rw [hfront, hcontext, List.getLast?_append_of_ne_nil _ (lowerBetween_ne_nil _ _ _)] at hd
      exact isBlank_lowerBetween (hlast c (by simp [hfront])) (List.mem_of_getLast? hd)

/-- It does not matter whether a text is trimmed before it is put in lower case or afterwards. -/
theorem lowercase_trim (s : String) : lowercase (trim s) = trim (lowercase s) := by
  obtain ⟨before, after, hbefore, hafter, hs⟩ := exists_trimChars s.toList
  have hback : ∀ c ∈ before.reverse, isBlank c = true := fun c hc =>
    hbefore c (List.mem_reverse.1 hc)
  have hlower : lowerFrom [] s.toList = before ++ lowerFrom [] (trimChars s.toList) ++ after :=
    calc lowerFrom [] s.toList
        = lowerFrom [] (before ++ (trimChars s.toList ++ after)) := by
          rw [← List.append_assoc, ← hs]
      _ = before ++ lowerFrom ([] ++ before.reverse) (trimChars s.toList ++ after) := by
          rw [lowerFrom_blank_append hbefore, List.append_nil, List.nil_append]
      _ = before ++ lowerFrom [] (trimChars s.toList) ++ after := by
          rw [lowerFrom_between hback hafter, List.append_assoc]
  rw [lowercase, trim, trim, lowercase, String.toList_ofList, String.toList_ofList, hlower,
    trimChars_between hbefore hafter, trimChars_lowerFrom (trimChars_trimChars _)]

theorem lowercase_eq_empty_iff {s : String} : lowercase s = "" ↔ s = "" := by
  rw [lowercase, String.ofList_eq_empty_iff, lowerFrom_eq_nil_iff, String.toList_eq_nil_iff]

/-! ## Parts -/

theorem cutAt_singleton_eq_none_iff {sep : Char} {cs : List Char} :
    cutAt [sep] cs = none ↔ sep ∉ cs := by
  induction cs with
  | nil => simp [cutAt]
  | cons c rest ih =>
    by_cases hc : c = sep
    · simp [cutAt, List.isPrefixOf, hc]
    · have hne : ¬ sep = c := fun h => hc h.symm
      simp [cutAt, List.isPrefixOf, hne, ih]

/-- A text is cut at the first separator. -/
theorem cutAt_singleton_append {sep : Char} {before : List Char} (h : sep ∉ before)
    (after : List Char) : cutAt [sep] (before ++ sep :: after) = some (before, after) := by
  induction before with
  | nil => simp [cutAt, List.isPrefixOf]
  | cons c rest ih =>
    obtain ⟨hc, hrest⟩ := not_or.1 (List.mem_cons.not.1 h)
    simp [cutAt, List.isPrefixOf, hc, ih hrest]

theorem not_mem_of_cutAt {sep : Char} {cs before after : List Char}
    (h : cutAt [sep] cs = some (before, after)) : sep ∉ before := by
  induction cs generalizing before with
  | nil => simp [cutAt] at h
  | cons c rest ih =>
    by_cases hc : c = sep
    · simp only [cutAt, List.isPrefixOf, hc, beq_self_eq_true, Bool.true_and, if_true,
        Option.some.injEq, Prod.mk.injEq] at h
      rw [← h.1]
      exact List.not_mem_nil
    · have hne : ¬ sep = c := fun h => hc h.symm
      simp only [cutAt, List.isPrefixOf, beq_eq_false_iff_ne.2 hne, Bool.false_and,
        Bool.false_eq_true, if_false, Option.map_eq_some_iff, Prod.mk.injEq] at h
      obtain ⟨⟨front, back⟩, hcut, rfl, rfl⟩ := h
      exact List.mem_cons.not.2 (not_or.2 ⟨hne, ih hcut⟩)

theorem parts_ne_nil (sep : Char) (cs : List Char) : parts sep cs ≠ [] := by
  cases cs with
  | nil => exact List.cons_ne_nil _ _
  | cons c rest =>
    rw [parts]
    split
    · exact List.cons_ne_nil _ _
    · split
      · exact List.cons_ne_nil _ _
      · exact List.cons_ne_nil _ _

/-- A text without the separator is in front of the first part. -/
theorem parts_append {sep : Char} {cs : List Char} (h : sep ∉ cs) {more first : List Char}
    {others : List (List Char)} (hmore : parts sep more = first :: others) :
    parts sep (cs ++ more) = (cs ++ first) :: others := by
  induction cs with
  | nil => exact hmore
  | cons c rest ih =>
    obtain ⟨hc, hrest⟩ := not_or.1 (List.mem_cons.not.1 h)
    rw [List.cons_append, parts, if_neg fun hsame => hc hsame.symm, ih hrest]
    rfl

theorem parts_of_not_mem {sep : Char} {cs : List Char} (h : sep ∉ cs) : parts sep cs = [cs] := by
  have hnil : parts sep [] = [[]] := rfl
  have hparts := parts_append h hnil
  rwa [List.append_nil] at hparts

theorem parts_of_cutAt {sep : Char} {cs before after : List Char}
    (h : cutAt [sep] cs = some (before, after)) : parts sep cs = before :: parts sep after := by
  have hafter : parts sep (sep :: after) = [] :: parts sep after := by rw [parts, if_pos rfl]
  rw [append_of_cutAt h, List.append_assoc, List.singleton_append,
    parts_append (not_mem_of_cutAt h) hafter, List.append_nil]

theorem parts_append_cons {sep : Char} (cs rest : List Char) :
    parts sep (cs ++ sep :: rest) = parts sep cs ++ parts sep rest := by
  induction cs with
  | nil => simp [parts]
  | cons c cs ih =>
    rw [List.cons_append, parts, parts, ih]
    split
    · rfl
    · obtain ⟨first, others, hfirst⟩ := List.exists_cons_of_ne_nil (parts_ne_nil sep cs)
      rw [hfirst]
      rfl

/-- The parts are made of the characters of the text other than the separator. -/
theorem exists_mem_parts {sep c : Char} {cs : List Char} :
    (∃ part ∈ parts sep cs, c ∈ part) ↔ c ∈ cs ∧ c ≠ sep := by
  have hcons : ∀ (first : List Char) (others : List (List Char)),
      (∃ part ∈ first :: others, c ∈ part) ↔ c ∈ first ∨ ∃ part ∈ others, c ∈ part := by
    simp [or_and_right, exists_or]
  induction cs with
  | nil => simp [parts]
  | cons d rest ih =>
    rw [parts]
    split
    · rename_i hd
      subst hd
      refine (hcons _ _).trans ((or_congr_right ih).trans ?_)
      rw [List.mem_cons]
      simp only [List.not_mem_nil, false_or]
      exact ⟨fun h => ⟨.inr h.1, h.2⟩, fun h => ⟨h.1.resolve_left h.2, h.2⟩⟩
    · rename_i hne
      obtain ⟨first, others, hfirst⟩ := List.exists_cons_of_ne_nil (parts_ne_nil sep rest)
      rw [hfirst, hcons] at ih
      simp only [hfirst]
      refine (hcons _ _).trans ?_
      rw [List.mem_cons, List.mem_cons, or_assoc]
      refine (or_congr_right ih).trans ?_
      refine ⟨fun h => h.elim (fun heq => ⟨.inl heq, heq ▸ hne⟩) fun h => ⟨.inr h.1, h.2⟩, ?_⟩
      exact fun h => h.1.imp_right fun hmem => ⟨hmem, h.2⟩

/-- A text without the separator is behind the last part. -/
theorem exists_parts_append {sep : Char} (cs : List Char) {after : List Char} (h : sep ∉ after) :
    ∃ front last, parts sep cs = front ++ [last] ∧
      parts sep (cs ++ after) = front ++ [last ++ after] := by
  induction cs with
  | nil => exact ⟨[], [], rfl, parts_of_not_mem h⟩
  | cons c rest ih =>
    obtain ⟨front, last, hrest, hmore⟩ := ih
    by_cases hc : c = sep
    · refine ⟨[] :: front, last, ?_, ?_⟩
      · rw [parts, if_pos hc, hrest, List.cons_append]
      · rw [List.cons_append, parts, if_pos hc, hmore, List.cons_append]
    · cases front with
      | nil =>
        refine ⟨[], c :: last, ?_, ?_⟩
        · rw [parts, if_neg hc, hrest]
          rfl
        · rw [List.cons_append, parts, if_neg hc, hmore]
          rfl
      | cons first others =>
        refine ⟨(c :: first) :: others, last, ?_, ?_⟩
        · rw [parts, if_neg hc, hrest]
          rfl
        · rw [List.cons_append, parts, if_neg hc, hmore]
          rfl

/-- Trimming a text before it is cut changes none of its trimmed parts. -/
theorem map_trimChars_parts {sep : Char} (hsep : isBlank sep = false) (cs : List Char) :
    (parts sep (trimChars cs)).map trimChars = (parts sep cs).map trimChars := by
  obtain ⟨before, after, hbefore, hafter, hcs⟩ := exists_trimChars cs
  have hfree : ∀ {blanks : List Char}, (∀ c ∈ blanks, isBlank c = true) → sep ∉ blanks := by
    intro blanks hblanks hmem
    rw [hblanks sep hmem] at hsep
    cases hsep
  have hnone : ∀ c ∈ ([] : List Char), isBlank c = true := fun c hc => absurd hc List.not_mem_nil
  obtain ⟨first, others, hfirst⟩ := List.exists_cons_of_ne_nil (parts_ne_nil sep (trimChars cs))
  obtain ⟨front, last, hlast, hall⟩ :=
    exists_parts_append (before ++ trimChars cs) (hfree hafter)
  have hend : trimChars (last ++ after) = trimChars last := trimChars_between hnone hafter last
  have hstart : trimChars (before ++ first) = trimChars first := by
    rw [← List.append_nil (before ++ first), trimChars_between hbefore hnone]
  symm
  calc (parts sep cs).map trimChars
      = (front ++ [last ++ after]).map trimChars := by rw [← hall, ← hcs]
    _ = (parts sep (before ++ trimChars cs)).map trimChars := by
        rw [hlast, List.map_append, List.map_append, List.map_singleton, List.map_singleton, hend]
    _ = (parts sep (trimChars cs)).map trimChars := by
        rw [parts_append (hfree hbefore) hfirst, hfirst, List.map_cons, List.map_cons, hstart]

end Granary.Text
