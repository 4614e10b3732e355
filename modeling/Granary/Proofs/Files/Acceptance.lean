import Granary.Proofs.Files.Matching

/-!
# Names that pieces accept

A name with a special character is a pattern of pieces that is about other names than this one.
Where the pieces accept some name, they accept one that differs from it (`exists_decoy`): a question
mark or an asterisk stands for any character, and a set is written with more characters than the one
that it stands for.
-/

namespace Granary.Files

open Outcome

/-! ## Names -/

/-- A name that an entry of a directory may have. -/
structure IsName (name : String) : Prop where
  ne_empty : name ≠ ""
  ne_point : name ≠ "."
  ne_points : name ≠ ".."
  no_separator : separator ∉ name.toList
  no_nul : '\x00' ∉ name.toList

/-! ## Pieces of a text -/

/-- Stands for one character of a set. -/
def Piece.isSet : Piece → Bool
  | .within _ | .outside _ => true
  | _ => false

/-- The text is a pattern of these pieces. -/
inductive Spells : List Char → List Piece → Prop where
  | nil : Spells [] []
  | char {c : Char} {cs : List Char} {ps : List Piece} (hc : isSpecial c = false)
    (h : Spells cs ps) : Spells (c :: cs) (.char c :: ps)
  | anyChar {cs : List Char} {ps : List Piece} (h : Spells cs ps) :
    Spells ('?' :: cs) (.anyChar :: ps)
  | anyText {cs : List Char} {ps : List Piece} (h : Spells cs ps) :
    Spells ('*' :: cs) (.anyText :: ps)
  | anyDepth {cs : List Char} {ps : List Piece} (h : Spells cs ps) :
    Spells ('*' :: '*' :: cs) (.anyDepth :: ps)
  | set {text cs : List Char} {p : Piece} {ps : List Piece} (htext : text ≠ [])
    (hset : p.isSet = true) (h : Spells cs ps) : Spells ('[' :: (text ++ cs)) (p :: ps)

/-- Between brackets stands some text. -/
theorem exists_of_bracketed {cs after : List Char} {p : Piece}
    (h : bracketed? cs = some (p, after)) :
    p.isSet = true ∧ ∃ text, text ≠ [] ∧ cs = text ++ after := by
  unfold bracketed? at h
  split at h
  · obtain ⟨parts, hcut, heq⟩ := Option.map_eq_some_iff.1 h
    obtain ⟨rfl, rfl⟩ := Prod.mk.inj heq
    rw [Text.append_of_cutAt hcut]
    exact ⟨rfl, '!' :: _ :: (parts.1 ++ [']']), List.cons_ne_nil _ _, rfl⟩
  · cases h
  · obtain ⟨parts, hcut, heq⟩ := Option.map_eq_some_iff.1 h
    obtain ⟨rfl, rfl⟩ := Prod.mk.inj heq
    rw [Text.append_of_cutAt hcut]
    exact ⟨rfl, _ :: (parts.1 ++ [']']), List.cons_ne_nil _ _, rfl⟩
  · cases h

/-- An asterisk is a piece of its own, or one together with a second one. -/
theorem cases_of_asterisk {length fuel : Nat} {before : Option Char} {rest : List Char}
    {ps : List Piece} (h : piecesFrom length (fuel + 1) before ('*' :: rest) = .ok ps) :
    (∃ ps', piecesFrom length fuel (some '*') rest = .ok ps' ∧ .anyText :: ps' = ps) ∨
      ∃ after ps', rest = '*' :: after ∧ piecesFrom length fuel (some '*') after = .ok ps' ∧
        .anyDepth :: ps' = ps := by
  rw [piecesFrom, if_neg (by decide), if_pos rfl] at h
  dsimp only at h
  by_cases hmany : (rest.takeWhile (· == '*')).length > 1
  · rw [if_pos hmany] at h
    cases h
  rw [if_neg hmany] at h
  cases rest with
  | nil => exact .inl (map_eq_ok.1 h)
  | cons c after =>
    by_cases hc : c = '*'
    · subst hc
      have hsingle : ('*' :: after).takeWhile (· == '*') = ['*'] := by
        rw [List.takeWhile_cons_of_pos rfl] at hmany ⊢
        rw [List.length_cons] at hmany
        have hnil : after.takeWhile (· == '*') = [] := List.eq_nil_of_length_eq_zero (by omega)
        rw [hnil]
      rw [hsingle, if_neg (by decide)] at h
      by_cases hbefore : before.any (· != separator)
      · rw [if_pos hbefore] at h
        cases h
      rw [if_neg hbefore] at h
      split at h
      · cases h
      · obtain ⟨ps', hps', heq⟩ := map_eq_ok.1 h
        exact .inr ⟨after, ps', rfl, hps', heq⟩
    · have hnone : (c :: after).takeWhile (· == '*') = [] :=
        List.takeWhile_cons_of_neg (by simpa using hc)
      rw [hnone, if_pos List.isEmpty_nil] at h
      exact .inl (map_eq_ok.1 h)

theorem spells_of_piecesFrom {length fuel : Nat} {before : Option Char} {cs : List Char}
    {ps : List Piece} (hfuel : cs.length ≤ fuel) (h : piecesFrom length fuel before cs = .ok ps) :
    Spells cs ps := by
  induction fuel generalizing before cs ps with
  | zero =>
    obtain rfl := List.eq_nil_of_length_eq_zero (Nat.le_zero.1 hfuel)
    rw [piecesFrom] at h
    exact Except.ok.inj h ▸ .nil
  | succ fuel ih =>
    cases cs with
    | nil =>
      rw [piecesFrom] at h
      exact Except.ok.inj h ▸ .nil
    | cons c rest =>
      have hrest : rest.length ≤ fuel := Nat.le_of_succ_le_succ hfuel
      by_cases htext : c = '*'
      · subst htext
        obtain ⟨ps', hps', rfl⟩ | ⟨after, ps', rfl, hps', rfl⟩ := cases_of_asterisk h
        · exact .anyText (ih hrest hps')
        · exact .anyDepth (ih (Nat.le_of_succ_le hrest) hps')
      rw [piecesFrom] at h
      by_cases hany : c = '?'
      · rw [if_pos hany] at h
        obtain ⟨ps', hps', rfl⟩ := map_eq_ok.1 h
        exact hany ▸ .anyChar (ih hrest hps')
      rw [if_neg hany, if_neg htext] at h
      by_cases hset : c = '['
      · rw [if_pos hset] at h
        split at h
        · rename_i p after hbracketed
          obtain ⟨hp, text, hne, rfl⟩ := exists_of_bracketed hbracketed
          obtain ⟨ps', hps', rfl⟩ := map_eq_ok.1 h
          rw [List.length_append] at hrest
          exact hset ▸ .set hne hp (ih (by omega) hps')
        · cases h
      · rw [if_neg hset] at h
        obtain ⟨ps', hps', rfl⟩ := map_eq_ok.1 h
        exact .char (by simp [isSpecial, hany, htext, hset]) (ih hrest hps')

theorem spells_of_pieces {cs : List Char} {ps : List Piece} (h : pieces cs = .ok ps) :
    Spells cs ps :=
  spells_of_piecesFrom le_rfl h

/-- Pieces without a wildcard are of a text in which every character stands for itself. -/
theorem Spells.literal {cs own : List Char} {ps : List Piece} (h : Spells cs ps)
    (hown : literal? ps = some own) : IsPlain cs := by
  induction h generalizing own with
  | nil => exact fun c hc => absurd hc List.not_mem_nil
  | char hc _ ih =>
    obtain ⟨_, hrest, _⟩ := Option.map_eq_some_iff.1 hown
    exact List.forall_mem_cons.2 ⟨hc, ih hrest⟩
  | anyChar => cases hown
  | anyText => cases hown
  | anyDepth => cases hown
  | @set _ _ p _ _ hset =>
    cases p with
    | within | outside => cases hown
    | char | anyChar | anyText | anyDepth => cases hset

/-- A text begins with the character that its first piece stands for. -/
theorem Spells.head {cs : List Char} {ps : List Piece} {c : Char} (h : Spells cs ps)
    (hhead : ps.head? = some (.char c)) : cs.head? = some c := by
  cases h with
  | char => exact congrArg some (Piece.char.inj (Option.some.inj hhead))
  | nil | anyChar | anyText | anyDepth => cases hhead
  | set _ hset =>
    rw [Option.some.inj hhead] at hset
    cases hset

/-! ## Other names that match -/

/-- Stands for characters of which nothing is said. -/
def Piece.isOpen (p : Piece) : Bool := p.isRun || p == .anyChar

theorem Piece.isRun_eq_false {p : Piece} (h : p.isOpen = false) : p.isRun = false :=
  (Bool.or_eq_false_iff.1 h).1

/-- Unless a piece is open, every piece stands for one character. -/
theorem length_of_matchesText {ps : List Piece} {text : List Char}
    (hclosed : ∀ p ∈ ps, p.isOpen = false) (h : matchesText ps text = true) :
    text.length = ps.length := by
  induction ps generalizing text with
  | nil =>
    rw [matchesText, List.isEmpty_iff] at h
    rw [h]
    rfl
  | cons p ps ih =>
    obtain ⟨hp, hps⟩ := List.forall_mem_cons.1 hclosed
    obtain ⟨c, rest, rfl, _, hrest⟩ := (matchesText_single_iff (Piece.isRun_eq_false hp)).1 h
    rw [List.length_cons, List.length_cons, ih hps hrest]

/-- A set is written with more characters than it stands for. -/
theorem Spells.length_lt {cs : List Char} {ps : List Piece} (h : Spells cs ps)
    (hclosed : ∀ p ∈ ps, p.isOpen = false) : ps.length ≤ cs.length ∧
      (¬ IsPlain cs → ps.length < cs.length) := by
  induction h with
  | nil => exact ⟨le_rfl, fun hspecial => absurd (fun c hc => absurd hc List.not_mem_nil) hspecial⟩
  | char hc _ ih =>
    obtain ⟨hle, hlt⟩ := ih fun p hp => hclosed p (List.mem_cons_of_mem _ hp)
    refine ⟨Nat.succ_le_succ hle, fun hspecial => Nat.succ_lt_succ (hlt fun hplain => hspecial ?_)⟩
    exact List.forall_mem_cons.2 ⟨hc, hplain⟩
  | anyChar => cases hclosed _ List.mem_cons_self
  | anyText => cases hclosed _ List.mem_cons_self
  | anyDepth => cases hclosed _ List.mem_cons_self
  | set htext _ _ ih =>
    obtain ⟨hle, _⟩ := ih fun p hp => hclosed p (List.mem_cons_of_mem _ hp)
    have hpos := List.length_pos_iff.2 htext
    simp only [List.length_cons, List.length_append]
    exact ⟨by omega, fun _ => by omega⟩

/-- A text that matches an open piece has a place at which any character may stand. -/
theorem exists_place {ps : List Piece} {text : List Char} (hopen : ∃ p ∈ ps, p.isOpen = true)
    (h : matchesText ps text = true) : ∃ before after, (∀ c ∈ before ++ after, c ∈ text) ∧
      ∀ c, matchesText ps (before ++ c :: after) = true := by
  induction ps generalizing text with
  | nil =>
    obtain ⟨p, hp, _⟩ := hopen
    exact absurd hp List.not_mem_nil
  | cons p ps ih =>
    cases hrun : p.isRun with
    | true =>
      refine ⟨[], text, fun c hc => hc, fun c => (matchesText_run_iff hrun).2 ?_⟩
      obtain ⟨before, after, rfl, hrest⟩ := (matchesText_run_iff hrun).1 h
      exact ⟨c :: before, after, rfl, hrest⟩
    | false =>
      obtain ⟨c, rest, rfl, htakes, hrest⟩ := (matchesText_single_iff hrun).1 h
      by_cases hany : p = .anyChar
      · refine ⟨[], rest, fun d hd => List.mem_cons_of_mem c hd, fun d => ?_⟩
        exact (matchesText_single_iff hrun).2 ⟨d, rest, rfl, hany ▸ rfl, hrest⟩
      · have hlater : ∃ q ∈ ps, q.isOpen = true := by
          obtain ⟨q, hq, hqopen⟩ := hopen
          obtain rfl | hq := List.mem_cons.1 hq
          · simp [Piece.isOpen, hrun, hany] at hqopen
          · exact ⟨q, hq, hqopen⟩
        obtain ⟨before, after, hmem, hplace⟩ := ih hlater hrest
        refine ⟨c :: before, after, fun d hd => ?_, fun d => (matchesText_single_iff hrun).2
          ⟨c, before ++ d :: after, rfl, htakes, hplace d⟩⟩
        exact List.mem_cons.2 ((List.mem_cons.1 hd).imp_right (hmem d))

/-- A text made of the characters of a name and of a letter is a name. -/
theorem IsName.of_letter {name : String} (hname : IsName name) {c : Char} (hc : c = 'x' ∨ c = 'y')
    {before after : List Char} (h : ∀ d ∈ before ++ after, d ∈ name.toList) :
    IsName (String.ofList (before ++ c :: after)) := by
  have hmem : c ∈ before ++ c :: after := List.mem_append_right before List.mem_cons_self
  have hall : ∀ d ∈ before ++ c :: after, d = c ∨ d ∈ name.toList := fun d hd => by
    rw [List.mem_append, List.mem_cons, or_left_comm, ← List.mem_append] at hd
    exact hd.imp_right (h d)
  have hne : ∀ text : String, 'x' ∉ text.toList → 'y' ∉ text.toList →
      String.ofList (before ++ c :: after) ≠ text := by
    rintro text hx hy rfl
    rw [String.toList_ofList] at hx hy
    obtain rfl | rfl := hc
    · exact hx hmem
    · exact hy hmem
  refine ⟨hne "" (by decide) (by decide), hne "." (by decide) (by decide),
    hne ".." (by decide) (by decide), ?_, ?_⟩
  · rw [String.toList_ofList]
    intro hsep
    obtain heq | hsep := hall _ hsep
    · obtain rfl | rfl := hc <;> cases heq
    · exact hname.no_separator hsep
  · rw [String.toList_ofList]
    intro hnul
    obtain heq | hnul := hall _ hnul
    · obtain rfl | rfl := hc <;> cases heq
    · exact hname.no_nul hnul

/-- A pattern with a special character that matches its own text matches another name as well. -/
theorem exists_other {name : String} {ps : List Piece} (hname : IsName name)
    (hps : pieces name.toList = .ok ps) (hspecial : ¬ IsPlain name.toList)
    (h : matchesText ps name.toList = true) :
    ∃ other, IsName other ∧ other ≠ name ∧ matchesText ps other.toList = true := by
  have hspells := spells_of_pieces hps
  have hopen : ∃ p ∈ ps, p.isOpen = true := by
    by_contra hnone
    have hclosed : ∀ p ∈ ps, p.isOpen = false := fun p hp =>
      Bool.eq_false_iff.2 fun hopen => hnone ⟨p, hp, hopen⟩
    have hshort := (hspells.length_lt hclosed).2 hspecial
    rw [length_of_matchesText hclosed h] at hshort
    exact lt_irrefl _ hshort
  obtain ⟨before, after, hmem, hplace⟩ := exists_place hopen h
  have hmatch : ∀ c, matchesText ps (String.ofList (before ++ c :: after)).toList = true := by
    intro c
    rw [String.toList_ofList]
    exact hplace c
  -- One of two letters differs from what stands there in the name.
  by_cases hx : String.ofList (before ++ 'x' :: after) = name
  · refine ⟨_, hname.of_letter (.inr rfl) hmem, fun hy => ?_, hmatch 'y'⟩
    rw [← hx] at hy
    simp at hy
  · exact ⟨_, hname.of_letter (.inl rfl) hmem, hx, hmatch 'x'⟩

/-! ## A name taken for another -/

/-- The part that pieces make accepts what they match. -/
theorem accepts_ofPieces (ps : List Piece) (name : String) :
    (Part.ofPieces ps).accepts name = matchesText ps name.toList := by
  unfold Part.ofPieces
  split
  · rename_i own hown
    rw [eq_map_char_of_literal? hown, Bool.eq_iff_iff, matchesText_map_char_iff, Part.accepts,
      beq_iff_eq, eq_comm, String.ext_iff, String.toList_ofList]
  · split
    · rename_i hdeep
      rw [hdeep]
      exact ((matchesText_run_iff rfl).2 ⟨name.toList, [], (List.append_nil _).symm, rfl⟩).symm
    · rfl

/-- If a name is accepted at all where another one is written, one is that differs from it, unless
every character of it stands for itself. -/
theorem exists_decoy {name : String} {ps : List Piece} (hname : IsName name)
    (hps : pieces name.toList = .ok ps)
    (hsome : ∃ other, IsName other ∧ matchesText ps other.toList = true) :
    ∃ decoy, IsName decoy ∧ (¬ IsPlain name.toList → decoy ≠ name) ∧
      matchesText ps decoy.toList = true := by
  obtain ⟨other, hother, hmatch⟩ := hsome
  by_cases hsame : other = name
  · subst hsame
    by_cases hplain : IsPlain other.toList
    · exact ⟨other, hother, absurd hplain, hmatch⟩
    · obtain ⟨decoy, hdecoy, hne, hmatch⟩ := exists_other hname hps hplain hmatch
      exact ⟨decoy, hdecoy, fun _ => hne, hmatch⟩
  · exact ⟨other, hother, fun _ => hsame, hmatch⟩

/-- What is accepted in the place of some names, one after the other. -/
theorem exists_decoys {names : List String} {ps : List (List Piece)}
    (hps : List.Forall₂ (fun name ps => pieces name.toList = .ok ps) names ps)
    (hnames : ∀ name ∈ names, IsName name)
    (hsome : ∀ name ∈ names, ∀ ps, pieces name.toList = .ok ps →
      ∃ other, IsName other ∧ matchesText ps other.toList = true) :
    ∃ decoys, (∀ decoy ∈ decoys, IsName decoy) ∧
      List.Forall₂ (fun name decoy => ¬ IsPlain name.toList → decoy ≠ name) names decoys ∧
      List.Forall₂ (fun p decoy => p.accepts decoy = true) (ps.map Part.ofPieces) decoys := by
  induction hps with
  | nil => exact ⟨[], fun d hd => absurd hd List.not_mem_nil, .nil, .nil⟩
  | @cons name first names ps hfirst _ ih =>
    obtain ⟨hname, hnames⟩ := List.forall_mem_cons.1 hnames
    obtain ⟨hone, hsome⟩ := List.forall_mem_cons.1 hsome
    obtain ⟨decoy, hdecoy, hne, hmatch⟩ := exists_decoy hname hfirst (hone first hfirst)
    obtain ⟨decoys, hdecoys, hdiffer, haccept⟩ := ih hnames hsome
    exact ⟨decoy :: decoys, List.forall_mem_cons.2 ⟨hdecoy, hdecoys⟩, .cons hne hdiffer,
      .cons ((accepts_ofPieces first decoy).trans hmatch) haccept⟩

/-- The pieces of a name that accept no name are those of a part that is neither looked up nor deep,
and the name has a special character. -/
theorem wild_of_rejecting {name : String} {ps : List Piece} (hname : IsName name)
    (hps : pieces name.toList = .ok ps)
    (hnone : ∀ other, IsName other → matchesText ps other.toList = false) :
    ¬ IsPlain name.toList ∧ Part.ofPieces ps = .wild ps := by
  have hspecial : ¬ IsPlain name.toList := fun hplain => by
    have hsame := Except.ok.inj ((pieces_plain hplain).symm.trans hps)
    have hmatch := matchesText_map_char_iff.2 (rfl : name.toList = name.toList)
    rw [hsame, hnone name hname] at hmatch
    cases hmatch
  refine ⟨hspecial, ?_⟩
  unfold Part.ofPieces
  split
  · rename_i own hown
    exact absurd ((spells_of_pieces hps).literal hown) hspecial
  · refine if_neg fun hdeep => ?_
    have hmatch := hnone name hname
    rw [hdeep, ← accepts_ofPieces] at hmatch
    cases hmatch

end Granary.Files
