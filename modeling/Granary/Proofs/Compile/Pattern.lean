import Granary.Compile.Predicate
import Granary.Proofs.Outcome
import Mathlib.Data.List.Infix

/-!
# Patterns

A filter that looks for a text in a column compares the column with a pattern, the text between two
`%`.  `Pattern.admits` is what a server makes of a pattern: `%` stands for any text, `_` for any one
character, and a backslash takes what follows it literally.

`contains_iff_of_like` says for which texts the pattern finds what contains them: those without any
of the three characters.  A text with one of them has a shortest match that it does not occur in,
since in the place of the character stands nothing, another character or the character behind it.
-/

namespace Granary

open Outcome

namespace Pattern

inductive Piece where
  /-- Any characters, or none. -/
  | run
  /-- Any one character. -/
  | any
  | char (c : Char)
  deriving DecidableEq, Repr

/-- What a character stands for that is not escaped. -/
def piece (c : Char) : Piece := if c = '%' then .run else if c = '_' then .any else .char c

/-- A pattern in pieces.  One that ends in the middle of an escape is refused. -/
def pieces? : List Char → Option (List Piece)
  | [] => some []
  | [c] => if c = '\\' then none else some [piece c]
  | c :: d :: rest =>
    if c = '\\' then (pieces? rest).map (.char d :: ·)
    else (pieces? (d :: rest)).map (piece c :: ·)

/-- Whether the pieces, one after another, make up a text. -/
def covers : List Piece → List Char → Bool
  | [], s => s.isEmpty
  | .run :: rest, s => s.tails.any (covers rest)
  | .any :: _, [] => false
  | .any :: rest, _ :: s => covers rest s
  | .char _ :: _, [] => false
  | .char c :: rest, d :: s => c == d && covers rest s

/-- Whether a text as a whole matches a pattern. -/
def admits (pattern text : String) : Bool :=
  (pieces? pattern.toList).any (covers · text.toList)

/-- A character that does not stand for itself. -/
def isSpecial (c : Char) : Bool := c == '%' || c == '_' || c == '\\'

/-! ## Pieces -/

theorem piece_of_not_special {c : Char} (h : isSpecial c = false) : piece c = .char c := by
  simp only [isSpecial, Bool.or_eq_false_iff, beq_eq_false_iff_ne] at h
  rw [piece, if_neg h.1.1, if_neg h.1.2]

theorem pieces?_cons {c : Char} (h : c ≠ '\\') (rest : List Char) :
    pieces? (c :: rest) = (pieces? rest).map (piece c :: ·) := by
  cases rest with
  | nil => simp [pieces?, h]
  | cons d rest => rw [pieces?, if_neg h]

theorem pieces?_escaped (d : Char) (rest : List Char) :
    pieces? ('\\' :: d :: rest) = (pieces? rest).map (.char d :: ·) := by
  rw [pieces?, if_pos rfl]

/-- Without backslashes every character is a piece of its own. -/
theorem pieces?_append {t : List Char} (h : '\\' ∉ t) (rest : List Char) :
    pieces? (t ++ rest) = (pieces? rest).map (t.map piece ++ ·) := by
  induction t with
  | nil => simp
  | cons c t ih =>
    rw [List.mem_cons, not_or] at h
    rw [List.cons_append, pieces?_cons (Ne.symm h.1), ih h.2, Option.map_map]
    rfl

/-! ## Texts that pieces make up -/

theorem covers_run_iff {ps : List Piece} {s : List Char} :
    covers (.run :: ps) s = true ↔ ∃ a b, s = a ++ b ∧ covers ps b = true := by
  rw [covers, List.any_eq_true]
  constructor
  · rintro ⟨b, hb, hcovers⟩
    obtain ⟨a, rfl⟩ := (List.mem_tails _ _).1 hb
    exact ⟨a, b, rfl, hcovers⟩
  · rintro ⟨a, b, rfl, hcovers⟩
    exact ⟨b, (List.mem_tails _ _).2 (List.suffix_append a b), hcovers⟩

theorem covers_char_iff {c : Char} {ps : List Piece} {s : List Char} :
    covers (.char c :: ps) s = true ↔ ∃ rest, s = c :: rest ∧ covers ps rest = true := by
  cases s with
  | nil => simp [covers]
  | cons d s =>
    rw [covers, Bool.and_eq_true, beq_iff_eq]
    constructor
    · rintro ⟨rfl, h⟩
      exact ⟨s, rfl, h⟩
    · rintro ⟨rest, hs, h⟩
      obtain ⟨rfl, rfl⟩ := List.cons.inj hs
      exact ⟨rfl, h⟩

theorem covers_run_append {ps : List Piece} {s : List Char} (a : List Char)
    (h : covers ps s = true) : covers (.run :: ps) (a ++ s) = true :=
  covers_run_iff.2 ⟨a, s, rfl, h⟩

/-- A character is made up by what it stands for. -/
theorem covers_piece {c : Char} {ps : List Piece} {s : List Char} (h : covers ps s = true) :
    covers (piece c :: ps) (c :: s) = true := by
  unfold piece
  split
  · exact covers_run_append [c] h
  · split
    · exact h
    · exact covers_char_iff.2 ⟨s, rfl, h⟩

theorem covers_map_piece {ps : List Piece} {s : List Char} (t : List Char)
    (h : covers ps s = true) : covers (t.map piece ++ ps) (t ++ s) = true := by
  induction t with
  | nil => exact h
  | cons c t ih => exact covers_piece ih

theorem covers_literal_iff {t : List Char} (ht : ∀ c ∈ t, isSpecial c = false) {ps : List Piece}
    {s : List Char} :
    covers (t.map piece ++ ps) s = true ↔ ∃ rest, s = t ++ rest ∧ covers ps rest = true := by
  induction t generalizing s with
  | nil => simp
  | cons c t ih =>
    obtain ⟨hc, hrest⟩ := List.forall_mem_cons.1 ht
    rw [List.map_cons, List.cons_append, piece_of_not_special hc, covers_char_iff]
    simp only [ih hrest]
    constructor
    · rintro ⟨_, rfl, rest, rfl, h⟩
      exact ⟨rest, rfl, h⟩
    · rintro ⟨rest, rfl, h⟩
      exact ⟨t ++ rest, rfl, rest, rfl, h⟩

/-! ## A match of the wrong kind -/

/-- A text that a pattern's part from `t` to the wildcard behind it admits, no longer than `t` and
other than `t` if anything in that is special. -/
structure Sample (t s : List Char) : Prop where
  covered : ∃ ps, pieces? (t ++ ['%']) = some ps ∧ covers ps s = true
  length : s.length ≤ t.length
  plain : s = t → ∀ c ∈ t, isSpecial c = false

theorem Sample.nil : Sample [] [] :=
  ⟨⟨[.run], rfl, rfl⟩, Nat.le_refl 0, fun _ _ hc => absurd hc List.not_mem_nil⟩

/-- The place of a `%` stays empty, and that of a `_` is filled with something else. -/
theorem Sample.cons {t s : List Char} (h : Sample t s) {c : Char} (hc : c ≠ '\\') :
    ∃ s', Sample (c :: t) s' := by
  obtain ⟨ps, hps, hcovers⟩ := h.covered
  have hpieces : pieces? (c :: t ++ ['%']) = some (piece c :: ps) := by
    rw [List.cons_append, pieces?_cons hc, hps, Option.map_some]
  have hlength := h.length
  by_cases hrun : c = '%'
  · subst hrun
    refine ⟨s, ⟨_, hpieces, covers_run_append [] hcovers⟩, Nat.le_succ_of_le hlength, ?_⟩
    rintro rfl
    exact absurd hlength (Nat.not_succ_le_self _)
  · by_cases hany : c = '_'
    · subst hany
      refine ⟨'x' :: s, ⟨_, hpieces, hcovers⟩, Nat.succ_le_succ hlength, fun hsame => ?_⟩
      exact absurd (List.cons.inj hsame).1 (by decide)
    · have hplain : isSpecial c = false := by simp [isSpecial, hrun, hany, hc]
      refine ⟨c :: s, ⟨_, hpieces, covers_piece hcovers⟩, Nat.succ_le_succ hlength,
        fun hsame => ?_⟩
      exact List.forall_mem_cons.2 ⟨hplain, h.plain (List.cons.inj hsame).2⟩

/-- A backslash leaves nothing in its place. -/
theorem Sample.escape {t s : List Char} (h : Sample t s) (d : Char) :
    Sample ('\\' :: d :: t) (d :: s) := by
  obtain ⟨ps, hps, hcovers⟩ := h.covered
  refine ⟨⟨.char d :: ps, ?_, covers_char_iff.2 ⟨s, rfl, hcovers⟩⟩, ?_, fun hsame => ?_⟩
  · rw [List.cons_append, List.cons_append, pieces?_escaped, hps, Option.map_some]
  · exact Nat.le_succ_of_le (Nat.succ_le_succ h.length)
  · have hlonger := congrArg List.length hsame
    have hlength := h.length
    simp only [List.length_cons] at hlonger
    omega

/-- A backslash at the end takes the wildcard behind it literally. -/
theorem Sample.trailing : Sample ['\\'] ['%'] :=
  ⟨⟨[.char '%'], rfl, rfl⟩, Nat.le_refl 1, fun hsame => absurd hsame (by decide)⟩

theorem exists_sample : ∀ t : List Char, ∃ s, Sample t s
  | [] => ⟨[], .nil⟩
  | [c] => by
    by_cases hc : c = '\\'
    · exact hc ▸ ⟨['%'], .trailing⟩
    · exact Sample.nil.cons hc
  | c :: d :: rest => by
    by_cases hc : c = '\\'
    · obtain ⟨s, hs⟩ := exists_sample rest
      exact hc ▸ ⟨d :: s, hs.escape d⟩
    · obtain ⟨s, hs⟩ := exists_sample (d :: rest)
      exact hs.cons hc

/-! ## A text between wildcards -/

theorem pieces?_between (t : List Char) :
    pieces? ('%' :: (t ++ ['%'])) = (pieces? (t ++ ['%'])).map (.run :: ·) :=
  pieces?_cons (by decide) _

theorem admits_iff {text s : String} : admits ("%" ++ text ++ "%") s = true ↔
    ∃ ps, pieces? (text.toList ++ ['%']) = some ps ∧ covers (.run :: ps) s.toList = true := by
  have htext : ("%" ++ text ++ "%").toList = '%' :: (text.toList ++ ['%']) := by simp
  rw [admits, htext, pieces?_between]
  cases pieces? (text.toList ++ ['%']) with
  | none => simp
  | some ps => simp

/-- Without backslashes a text is found wherever it occurs. -/
theorem admits_of_contains {text s : String} (h : '\\' ∉ text.toList)
    (hs : text.toList <:+: s.toList) : admits ("%" ++ text ++ "%") s = true := by
  obtain ⟨before, behind, hs⟩ := hs
  have hbehind : covers [piece '%'] behind = true :=
    covers_run_iff.2 ⟨behind, [], (List.append_nil behind).symm, rfl⟩
  refine admits_iff.2 ⟨_, pieces?_append h ['%'], ?_⟩
  rw [← hs, List.append_assoc]
  exact covers_run_append before (covers_map_piece text.toList hbehind)

/-- The pattern finds what contains the text exactly if every character of it stands for itself. -/
theorem forall_admits_iff (text : String) :
    (∀ s : String, admits ("%" ++ text ++ "%") s = true ↔ text.toList <:+: s.toList) ↔
      ∀ c ∈ text.toList, isSpecial c = false := by
  constructor
  · intro h
    obtain ⟨s, hs⟩ := exists_sample text.toList
    obtain ⟨ps, hps, hcovers⟩ := hs.covered
    have hlist : (String.ofList s).toList = s := String.toList_ofList
    have hin : text.toList <:+: (String.ofList s).toList := by
      refine (h (String.ofList s)).1 (admits_iff.2 ⟨ps, hps, ?_⟩)
      rw [hlist]
      exact covers_run_append [] hcovers
    rw [hlist] at hin
    -- The text occurs in its sample, which is no longer: they are the same.
    exact hs.plain (hin.eq_of_length (Nat.le_antisymm hin.length_le hs.length)).symm
  · intro hplain s
    have hbackslash : '\\' ∉ text.toList := fun hmem => absurd (hplain _ hmem) (by decide)
    refine ⟨fun hadmits => ?_, admits_of_contains hbackslash⟩
    obtain ⟨ps, hps, hcovers⟩ := admits_iff.1 hadmits
    obtain ⟨before, rest, hs, hcovers⟩ := covers_run_iff.1 hcovers
    rw [pieces?_append hbackslash] at hps
    obtain rfl := Option.some.inj hps
    obtain ⟨behind, rfl, _⟩ := (covers_literal_iff hplain).1 hcovers
    exact ⟨before, behind, by rw [hs, List.append_assoc]⟩

end Pattern

/-! ## Filters -/

namespace Filter

/-- A filter on a pattern binds its text between wildcards, without a cast.  It is about the rows
whose column contains the text, for any column, exactly if the text has no `%`, no `_` and no
backslash; and without a backslash none of these rows is missed. -/
theorem contains_iff_of_like {f : Filter} {scope : Scope} {bound : Nat} {e : Sql.Expr}
    {values : List String} (hlike : f.operator = .like)
    (h : f.clause scope bound = .ok (e, values)) :
    ∃ column text pattern, scope.resolve f.columnText = .ok column ∧
      scalarText f.value = some text ∧ values = [pattern] ∧
      e = (if f.mode = .leaveOut then .not (.binary .like column.expr (.param bound none))
        else .binary .like column.expr (.param bound none)) ∧
      ((∀ s : String, Pattern.admits pattern s = true ↔ text.toList <:+: s.toList) ↔
        ∀ c ∈ text.toList, Pattern.isSpecial c = false) ∧
      ('\\' ∉ text.toList → ∀ s : String, text.toList <:+: s.toList →
        Pattern.admits pattern s = true) := by
  obtain ⟨column, hcolumn, h⟩ := bind_eq_ok.1 h
  simp only [hlike] at h
  split at h
  · rename_i text htext
    obtain ⟨rfl, rfl⟩ := Prod.mk.inj (pure_eq_ok.1 h)
    exact ⟨column, text, _, hcolumn, htext, rfl, rfl, Pattern.forall_admits_iff text,
      fun hbackslash _ => Pattern.admits_of_contains hbackslash⟩
  · cases h

/-- A filter whose text stands for itself. -/
def namedAnn : Filter where
  column := some "name"
  operator := .like
  value := .string "ann"

theorem contains_namedAnn : namedAnn.operator = .like ∧
    ∃ e, namedAnn.clause ⟨"customers", [], none⟩ 0 = .ok (e, ["%ann%"]) ∧
      ∀ s : String, Pattern.admits "%ann%" s = true ↔ "ann".toList <:+: s.toList := by
  have hvalues : (namedAnn.clause ⟨"customers", [], none⟩ 0).toOption.map (·.2) =
      some ["%ann%"] := by decide +kernel
  obtain ⟨⟨e, values⟩, hclause, rfl⟩ := Option.map_eq_some_iff.1 hvalues
  replace hclause := toOption_eq_some.1 hclause
  obtain ⟨_, text, pattern, _, htext, hpattern, _, hexact, _⟩ := contains_iff_of_like rfl hclause
  obtain rfl := Option.some.inj htext
  obtain rfl := (List.cons.inj hpattern).1
  have hplain : ∀ c ∈ "ann".toList, Pattern.isSpecial c = false := by simp [Pattern.isSpecial]
  exact ⟨rfl, e, hclause, hexact.2 hplain⟩

/-- A filter whose text has a wildcard in it. -/
def fiftyPercent : Filter where
  column := some "discount"
  operator := .like
  value := .string "50%"

/-- It finds a discount that does not contain the text. -/
theorem fiftyPercent_not_contains : fiftyPercent.isBlank = false ∧
    (fiftyPercent.clause ⟨"orders", [], none⟩ 0).toOption.map (·.2) = some ["%50%%"] ∧
    ¬∀ s : String, Pattern.admits "%50%%" s = true ↔ "50%".toList <:+: s.toList := by
  refine ⟨by decide +kernel, by decide +kernel, fun h => ?_⟩
  exact absurd ((h "500").1 (by decide)) (by decide)

end Filter

end Granary
