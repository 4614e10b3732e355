import Granary.Files.Tree
import Granary.Proofs.Outcome
import Granary.Proofs.Schema.Spelling
import Granary.Proofs.Text.Part

/-!
# Where patterns lead

The parts of a pattern that have no special character are names to look up, so a path of such parts
leads, as a pattern, to where it leads as a path (`matching_literals`).  An asterisk with an ending
behind it selects the entries of a directory whose names end like that, in the order of their names
(`matching_ending`).
-/

namespace Granary.Files

open Outcome

/-! ## Pieces -/

/-- A character that does not stand for itself in a pattern. -/
def isSpecial (c : Char) : Bool := c == '?' || c == '*' || c == '['

/-- Every character of the text stands for itself. -/
def IsPlain (cs : List Char) : Prop := ∀ c ∈ cs, isSpecial c = false

instance (cs : List Char) : Decidable (IsPlain cs) := List.decidableBAll _ cs

theorem ne_of_not_special {c : Char} (h : isSpecial c = false) : c ≠ '?' ∧ c ≠ '*' ∧ c ≠ '[' := by
  simpa [isSpecial, and_assoc] using h

theorem piecesFrom_plain {cs : List Char} (h : IsPlain cs) (length fuel : Nat)
    (before : Option Char) (rest : List Char) : ∃ before',
      piecesFrom length (cs.length + fuel) before (cs ++ rest) =
        (piecesFrom length fuel before' rest).map (cs.map Piece.char ++ ·) := by
  induction cs generalizing before with
  | nil =>
    refine ⟨before, ?_⟩
    rw [List.length_nil, Nat.zero_add, List.nil_append]
    cases piecesFrom length fuel before rest <;> rfl
  | cons c cs ih =>
    obtain ⟨hc, hcs⟩ := List.forall_mem_cons.1 h
    obtain ⟨hany, htext, hset⟩ := ne_of_not_special hc
    obtain ⟨before', hrest⟩ := ih hcs (some c)
    refine ⟨before', ?_⟩
    rw [List.length_cons, Nat.add_right_comm, List.cons_append, piecesFrom]
    simp only [if_neg hany, if_neg htext, if_neg hset, hrest]
    cases piecesFrom length fuel before' rest <;> rfl

theorem pieces_plain {cs : List Char} (h : IsPlain cs) : pieces cs = .ok (cs.map .char) := by
  obtain ⟨before, hpieces⟩ := piecesFrom_plain h cs.length 0 none []
  rw [List.append_nil, Nat.add_zero] at hpieces
  rw [pieces, hpieces, piecesFrom]
  exact congrArg Except.ok (List.append_nil _)

theorem pieces_ending {front ending : List Char} (hfront : IsPlain front)
    (hending : IsPlain ending) : pieces (front ++ '*' :: ending) =
      .ok (front.map .char ++ .anyText :: ending.map .char) := by
  have hsingle : ending.takeWhile (· == '*') = [] := by
    cases ending with
    | nil => rfl
    | cons c cs =>
      have hc := (ne_of_not_special (hending c List.mem_cons_self)).2.1
      rw [List.takeWhile_cons_of_neg (by simpa using hc)]
  obtain ⟨before, hpieces⟩ := piecesFrom_plain hfront (front ++ '*' :: ending).length
    (ending.length + 1) none ('*' :: ending)
  obtain ⟨_, hbehind⟩ := piecesFrom_plain hending (front ++ '*' :: ending).length 0 (some '*') []
  rw [List.append_nil, Nat.add_zero] at hbehind
  have hlength : (front ++ '*' :: ending).length = front.length + (ending.length + 1) := by simp
  rw [← hlength] at hpieces
  rw [pieces, hpieces, piecesFrom, if_neg (by decide), if_pos rfl, hsingle]
  rw [hbehind, piecesFrom]
  simp [Except.map]

theorem literal?_map_char (cs : List Char) : literal? (cs.map .char) = some cs := by
  induction cs with
  | nil => rfl
  | cons c cs ih => rw [List.map_cons, literal?, ih, Option.map_some]

theorem eq_map_char_of_literal? {ps : List Piece} {own : List Char} (h : literal? ps = some own) :
    ps = own.map .char := by
  induction ps generalizing own with
  | nil => exact Option.some.inj h ▸ rfl
  | cons p ps ih =>
    cases p with
    | char c =>
      obtain ⟨rest, hrest, rfl⟩ := Option.map_eq_some_iff.1 h
      rw [List.map_cons, ih hrest]
    | anyChar | anyText | within | outside | anyDepth => cases h

theorem ofPieces_map_char (cs : List Char) :
    Part.ofPieces (cs.map .char) = .literal (String.ofList cs) := by
  rw [Part.ofPieces, literal?_map_char]

/-! ## Texts that match -/

theorem matchesText_map_char_iff {cs text : List Char} :
    matchesText (cs.map .char) text = true ↔ text = cs := by
  induction cs generalizing text with
  | nil => rw [List.map_nil, matchesText, List.isEmpty_iff]
  | cons c cs ih =>
    cases text with
    | nil => simp [matchesText]
    | cons d text =>
      rw [List.map_cons, matchesText, Bool.and_eq_true, beq_iff_eq, ih, List.cons.injEq]

/-- Stands for a text of any length. -/
def Piece.isRun : Piece → Bool
  | .anyText | .anyDepth => true
  | _ => false

/-- Stands for the character, if it stands for single ones. -/
def Piece.takes : Piece → Char → Bool
  | .char d, c => c == d
  | .anyChar, _ => true
  | .within ranges, c => ranges.any (·.contains c)
  | .outside ranges, c => !ranges.any (·.contains c)
  | .anyText, _ | .anyDepth, _ => false

theorem matchesText_run_iff {p : Piece} (hp : p.isRun = true) {ps : List Piece}
    {text : List Char} : matchesText (p :: ps) text = true ↔
      ∃ before after, text = before ++ after ∧ matchesText ps after = true := by
  have hrun : matchesText (p :: ps) text =
      (List.range (text.length + 1)).any fun n => matchesText ps (text.drop n) := by
    cases p with
    | anyText | anyDepth => rw [matchesText]
    | char | anyChar | within | outside => cases hp
  rw [hrun, List.any_eq_true]
  constructor
  · rintro ⟨n, _, hmatch⟩
    exact ⟨text.take n, text.drop n, (List.take_append_drop n text).symm, hmatch⟩
  · rintro ⟨before, after, rfl, hmatch⟩
    refine ⟨before.length, List.mem_range.2 (by rw [List.length_append]; omega), ?_⟩
    rwa [List.drop_left]

theorem matchesText_single_iff {p : Piece} (hp : p.isRun = false) {ps : List Piece}
    {text : List Char} : matchesText (p :: ps) text = true ↔
      ∃ c rest, text = c :: rest ∧ p.takes c = true ∧ matchesText ps rest = true := by
  have hcons : ∀ c rest,
      matchesText (p :: ps) (c :: rest) = (p.takes c && matchesText ps rest) := by
    intro c rest
    cases p with
    | anyChar => exact (Bool.true_and _).symm
    | char | within | outside => rfl
    | anyText | anyDepth => cases hp
  cases text with
  | nil =>
    have hnil : matchesText (p :: ps) [] = false := by
      cases p with
      | char | anyChar | within | outside => rfl
      | anyText | anyDepth => cases hp
    simp [hnil]
  | cons c rest => simp [hcons]

/-- An asterisk with a text behind it matches what ends in the text. -/
theorem matchesText_ending (ending text : List Char) :
    matchesText (.anyText :: ending.map .char) text = ending.isSuffixOf text := by
  rw [Bool.eq_iff_iff, matchesText_run_iff rfl, List.isSuffixOf_iff_suffix]
  constructor
  · rintro ⟨before, after, rfl, hmatch⟩
    exact ⟨before, by rw [matchesText_map_char_iff.1 hmatch]⟩
  · rintro ⟨before, rfl⟩
    exact ⟨before, ending, rfl, matchesText_map_char_iff.2 rfl⟩

/-! ## Patterns part by part -/

/-- The pattern of the part behind a folder, which selects the entries with an ending. -/
def endingPart (ending : String) : Part := .wild (.anyText :: ending.toList.map .char)

/-- What is written for the entries of a folder with an ending. -/
theorem parts_folder (folder : String) {ending : String} (h : separator ∉ ending.toList) :
    Text.parts separator (folder ++ ("/*" ++ ending)).toList =
      Text.parts separator folder.toList ++ ['*' :: ending.toList] := by
  have hlast : separator ∉ '*' :: ending.toList := List.mem_cons.not.2 (not_or.2 ⟨by decide, h⟩)
  have htext : (folder ++ ("/*" ++ ending)).toList =
      folder.toList ++ separator :: '*' :: ending.toList := by
    rw [String.toList_append, String.toList_append]
    rfl
  rw [htext, Text.parts_append_cons, Text.parts_of_not_mem hlast]

theorem merged_cons {p : Part} (h : p ≠ .deep) (ps : List Part) :
    merged (p :: ps) = p :: merged ps := by
  rw [merged]
  rintro _ rfl _
  exact h rfl

theorem merged_of_no_deep {ps : List Part} (h : ∀ p ∈ ps, p ≠ .deep) : merged ps = ps := by
  induction ps with
  | nil => rfl
  | cons p ps ih =>
    obtain ⟨hp, hps⟩ := List.forall_mem_cons.1 h
    rw [merged_cons hp, ih hps]

/-- The pattern of a folder is read part by part. -/
theorem parse_folder {folder ending : String} (hending : IsPlain ending.toList)
    (hsep : separator ∉ ending.toList) {pattern : Pattern} :
    Pattern.parse (folder ++ ("/*" ++ ending)) = .ok pattern ↔
      (∃ whole, pieces (folder ++ ("/*" ++ ending)).toList = .ok whole) ∧
      ∃ ps, (Text.parts separator folder.toList).mapM pieces = .ok ps ∧
        merged (ps.map Part.ofPieces ++ [endingPart ending]) = pattern := by
  have hlast : ['*' :: ending.toList].mapM pieces =
      .ok [.anyText :: ending.toList.map .char] := by
    have hpieces : pieces ('*' :: ending.toList) = .ok (.anyText :: ending.toList.map .char) :=
      pieces_ending (fun c hc => absurd hc List.not_mem_nil) hending
    rw [List.mapM_cons, hpieces]
    rfl
  rw [Pattern.parse, parts_folder folder hsep, List.mapM_append, hlast]
  simp only [bind_eq_ok, pure_eq_ok]
  constructor
  · rintro ⟨whole, hwhole, _, ⟨ps, hps, last, hlast, rfl⟩, rfl⟩
    obtain rfl := Except.ok.inj hlast
    exact ⟨⟨whole, hwhole⟩, ps, hps, by rw [List.map_append]; rfl⟩
  · rintro ⟨⟨whole, hwhole⟩, ps, hps, rfl⟩
    exact ⟨whole, hwhole, _, ⟨ps, hps, _, rfl, rfl⟩, by rw [List.map_append]; rfl⟩

/-- Without special characters every part of a folder is a name to look up. -/
theorem parse_plain {folder ending : String} (hfolder : IsPlain folder.toList)
    (hending : IsPlain ending.toList) (hsep : separator ∉ ending.toList) :
    Pattern.parse (folder ++ ("/*" ++ ending)) =
      .ok (((Text.parts separator folder.toList).map String.ofList).map .literal ++
        [endingPart ending]) := by
  have htext : (folder ++ ("/*" ++ ending)).toList =
      (folder.toList ++ [separator]) ++ '*' :: ending.toList := by
    simp [separator]
  have hfront : IsPlain (folder.toList ++ [separator]) :=
    List.forall_mem_append.2 ⟨hfolder, List.forall_mem_singleton.2 rfl⟩
  have hparts : (Text.parts separator folder.toList).mapM pieces =
      .ok ((Text.parts separator folder.toList).map (List.map .char)) :=
    mapM_eq_ok.2 <| List.forall₂_map_right_iff.2 <| List.forall₂_same.2 fun part hpart =>
      pieces_plain fun c hc => hfolder c (Text.exists_mem_parts.1 ⟨part, hpart, hc⟩).1
  refine (parse_folder hending hsep).2 ⟨⟨_, htext ▸ pieces_ending hfront hending⟩, _, hparts, ?_⟩
  have hnames : Part.ofPieces ∘ List.map Piece.char = Part.literal ∘ String.ofList :=
    funext ofPieces_map_char
  rw [List.map_map, hnames, List.map_map]
  refine merged_of_no_deep (List.forall_mem_append.2 ⟨fun p hp => ?_, ?_⟩)
  · obtain ⟨cs, _, rfl⟩ := List.mem_map.1 hp
    exact Part.noConfusion
  · exact List.forall_mem_singleton.2 Part.noConfusion

/-! ## Where a pattern leads -/

namespace Spot

theorem find?_of_ne_empty {path : String} (h : path ≠ "") (s : Spot) :
    s.find? path = ((Text.parts separator path.toList).map String.ofList).foldlM step? s := by
  rw [find?, if_neg h]

theorem matching_literals (names : List String) (rest : Pattern) (s : Spot) :
    matching (names.map .literal ++ rest) s = (names.foldlM step? s).elim [] (matching rest) := by
  induction names generalizing s with
  | nil => rfl
  | cons name names ih =>
    rw [List.map_cons, List.cons_append, matching, List.foldlM_cons]
    cases s.step? name with
    | none => rfl
    | some t => exact ih t

theorem matching_ending (ending : String) (s : Spot) : matching [endingPart ending] s =
    (s.children.filter fun c => ending.toList.isSuffixOf c.1.toList).map (·.2) := by
  have hdotted : s.dotted (.anyText :: ending.toList.map .char) = [] := if_neg (by simp)
  rw [endingPart, matching, hdotted, List.flatMap_nil, List.nil_append]
  simp only [matchesText_ending, matching]
  exact (List.map_eq_flatMap ..).symm

/-- The entries of a folder with an ending are found by its path, if this has no special
character. -/
theorem matching_plain {folder : String} {s t : Spot} (h : s.find? folder = some t)
    (ending : String) :
    matching (((Text.parts separator folder.toList).map String.ofList).map .literal ++
      [endingPart ending]) s =
      (t.children.filter fun c => ending.toList.isSuffixOf c.1.toList).map (·.2) := by
  have hne : folder ≠ "" := by
    rintro rfl
    cases h
  rw [find?_of_ne_empty hne] at h
  rw [matching_literals, h]
  exact matching_ending ending t

end Spot
end Granary.Files
