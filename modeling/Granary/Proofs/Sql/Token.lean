import Granary.Sql.Dialect
import Mathlib.Data.List.Forall2

/-!
# Tokens of SQL texts

What a database reads in a text: names between double quotes, texts between single quotes, either
with its own quote written twice and no other escape, placeholders, words, numbers and single
symbols.  Reading fails only where a quote is left open.

The reader takes one character at a time, so that a text can be cut wherever a character stands that
neither begins nor goes on with a longer token.  `lex_append` says that both parts then read as they
do alone, and it is what the texts of the renderer are taken apart with.
-/

namespace Granary
namespace Sql

inductive Token where
  /-- What stands between double quotes, each quote inside once. -/
  | name (value : String)
  /-- What stands between single quotes, each quote inside once. -/
  | text (value : String)
  | placeholder (number : Nat)
  | word (chars : String)
  | number (digits : String)
  | symbol (c : Char)
  deriving DecidableEq, Repr

/-- The number of a placeholder. -/
def Token.placeholder? : Token → Option Nat
  | .placeholder n => some n
  | _ => none

inductive Quote where
  | single | double
  deriving DecidableEq, Repr

def Quote.char : Quote → Char
  | .single => '\''
  | .double => '"'

def Quote.token : Quote → List Char → Token
  | .single, cs => .text (String.ofList cs)
  | .double, cs => .name (String.ofList cs)

/-- Letters for the purposes of words: all characters beyond ASCII count. -/
def isWordStart (c : Char) : Bool := c.isAlpha || c == '_' || 128 ≤ c.toNat

def isWordPart (c : Char) : Bool := isWordStart c || c.isDigit || c == '$'

/-- Characters that are tokens of their own, or blank. -/
def isSeparator (c : Char) : Bool := c != '"' && c != '\'' && !isWordPart c

namespace Lexer

/-- Where in a token the reader is, and what it has of it. -/
inductive State where
  | between
  | word (chars : List Char)
  | number (digits : List Char)
  | dollar (digits : List Char)
  | inside (q : Quote) (chars : List Char)
  /-- Behind a quote, which ends the token unless another follows. -/
  | behind (q : Quote) (chars : List Char)
  deriving DecidableEq, Repr

/-- The tokens not yet given when a text ends; inside quotes it must not end. -/
def State.ended : State → Option (List Token)
  | .between => some []
  | .word cs => some [.word (String.ofList cs)]
  | .number ds => some [.number (String.ofList ds)]
  | .dollar [] => some [.symbol '$']
  | .dollar (d :: ds) => some [.placeholder (Nat.ofDigitChars 10 (d :: ds) 0)]
  | .inside _ _ => none
  | .behind q cs => some [q.token cs]

/-- The state after a character that goes on with the token that has begun. -/
def State.extend : State → Char → Option State
  | .between, _ => none
  | .word cs, c => if isWordPart c then some (.word (cs ++ [c])) else none
  | .number ds, c => if c.isDigit then some (.number (ds ++ [c])) else none
  | .dollar ds, c => if c.isDigit then some (.dollar (ds ++ [c])) else none
  | .inside q cs, c => some (if c = q.char then .behind q cs else .inside q (cs ++ [c]))
  | .behind q cs, c => if c = q.char then some (.inside q (cs ++ [c])) else none

/-- The token that a separator is; blanks are none. -/
def separated (c : Char) : List Token := if c.isWhitespace then [] else [.symbol c]

/-- What a character is or begins that goes on with nothing. -/
def begin (c : Char) : List Token × State :=
  if c = '"' then ([], .inside .double [])
  else if c = '\'' then ([], .inside .single [])
  else if c = '$' then ([], .dollar [])
  else if isWordStart c then ([], .word [c])
  else if c.isDigit then ([], .number [c])
  else (separated c, .between)

def scan : State → List Char → Option (List Token)
  | st, [] => st.ended
  | st, c :: rest =>
    match st.extend c with
    | some next => scan next rest
    | none =>
      st.ended.bind fun before =>
        (scan (begin c).2 rest).map fun after => before ++ (begin c).1 ++ after

end Lexer

/-- The tokens of a text. -/
def lex (s : String) : Option (List Token) := Lexer.scan .between s.toList

/-- Whether a text begins where no token can go on. -/
def startsApart (s : String) : Bool := s.toList.head?.all isSeparator

/-- Whether a text ends where no token can go on. -/
def endsApart (s : String) : Bool := s.toList.getLast?.all isSeparator

/-! ## Cutting a text at a separator -/

namespace Lexer

theorem isSeparator_iff {c : Char} : isSeparator c = true ↔
    (c ≠ '"' ∧ c ≠ '\'') ∧ isWordStart c = false ∧ c.isDigit = false ∧ c ≠ '$' := by
  simp [isSeparator, isWordPart, and_assoc]

theorem ne_quote {c : Char} (hc : isSeparator c = true) (q : Quote) : c ≠ q.char := by
  obtain ⟨⟨hd, hs⟩, _⟩ := isSeparator_iff.1 hc
  cases q with
  | single => exact hs
  | double => exact hd

theorem begin_separator {c : Char} (hc : isSeparator c = true) :
    begin c = (separated c, .between) := by
  obtain ⟨⟨hdq, hsq⟩, hw, hd, hs⟩ := isSeparator_iff.1 hc
  simp [begin, hdq, hsq, hw, hd, hs]

/-- Only an open quote takes a separator into its token. -/
theorem extend_separator {c : Char} (hc : isSeparator c = true) (st : State) :
    st.extend c = none ∧ st.ended.isSome ∨ ∃ q cs, st = .inside q cs := by
  obtain ⟨_, hw, hd, hs⟩ := isSeparator_iff.1 hc
  have hp : isWordPart c = false := by simp [isWordPart, hw, hd, hs]
  cases st with
  | between => exact .inl ⟨rfl, rfl⟩
  | word cs => exact .inl ⟨by simp [State.extend, hp], rfl⟩
  | number ds => exact .inl ⟨by simp [State.extend, hd], rfl⟩
  | dollar ds => exact .inl ⟨by simp [State.extend, hd], by cases ds <;> rfl⟩
  | inside q cs => exact .inr ⟨q, cs, rfl⟩
  | behind q cs => exact .inl ⟨by simp [State.extend, ne_quote hc q], rfl⟩

/-- A separator ends the token before it. -/
theorem scan_separator {c : Char} (hc : isSeparator c = true) {st : State} {ts : List Token}
    (hst : st.ended = some ts) (rest : List Char) :
    scan st (c :: rest) = (scan .between rest).map (ts ++ separated c ++ ·) := by
  rcases extend_separator hc st with ⟨hx, _⟩ | ⟨q, cs, rfl⟩
  · simp only [scan, hx, hst, begin_separator hc, Option.bind_some]
  · cases hst

/-- What is read does not change when a separator and more come behind it. -/
theorem scan_append_separator {c : Char} (hc : isSeparator c = true) (cs rest : List Char)
    {st : State} {ts : List Token} (h : scan st cs = some ts) :
    scan st (cs ++ c :: rest) = (scan .between rest).map (ts ++ separated c ++ ·) := by
  induction cs generalizing st ts with
  | nil => exact scan_separator hc h rest
  | cons d ds ih =>
    rw [List.cons_append]
    simp only [scan] at h ⊢
    cases hx : st.extend d with
    | some next => rw [hx] at h; exact ih h
    | none =>
      simp only [hx, Option.bind_eq_some_iff, Option.map_eq_some_iff] at h ⊢
      obtain ⟨before, hb, after, ha, rfl⟩ := h
      rw [hb, Option.bind_some, ih ha, Option.map_map]
      simp [Function.comp_def, List.append_assoc]

/-- Nor when more comes behind a separator at its end. -/
theorem scan_append_of_separator {c : Char} (hc : isSeparator c = true) (cs rest : List Char)
    {st : State} {ts : List Token} (h : scan st (cs ++ [c]) = some ts) :
    scan st (cs ++ c :: rest) = (scan .between rest).map (ts ++ ·) := by
  induction cs generalizing st ts with
  | nil =>
    rcases extend_separator hc st with ⟨_, hs⟩ | ⟨q, cs, rfl⟩
    · obtain ⟨before, hb⟩ := Option.isSome_iff_exists.1 hs
      rw [List.nil_append, scan_separator hc hb] at h
      obtain rfl : before ++ separated c = ts := by simpa [scan, State.ended] using h
      exact scan_separator hc hb rest
    · simp [scan, State.extend, ne_quote hc q, State.ended] at h
  | cons d ds ih =>
    rw [List.cons_append] at h ⊢
    simp only [scan] at h ⊢
    cases hx : st.extend d with
    | some next => rw [hx] at h; exact ih h
    | none =>
      simp only [hx, Option.bind_eq_some_iff, Option.map_eq_some_iff] at h ⊢
      obtain ⟨before, hb, after, ha, rfl⟩ := h
      rw [hb, Option.bind_some, ih ha, Option.map_map]
      simp [Function.comp_def, List.append_assoc]

end Lexer

theorem lex_append_of_startsApart {s t : String} {a b : List Token} (hs : lex s = some a)
    (ht : lex t = some b) (h : startsApart t = true) : lex (s ++ t) = some (a ++ b) := by
  rw [lex, String.toList_append]
  rw [lex] at hs ht
  cases hl : t.toList with
  | nil =>
    rw [hl] at ht
    obtain rfl : [] = b := by simpa [Lexer.scan, Lexer.State.ended] using ht
    rw [List.append_nil, List.append_nil, hs]
  | cons c rest =>
    have hc : isSeparator c = true := by simpa [startsApart, hl] using h
    rw [hl, Lexer.scan_separator hc rfl, Option.map_eq_some_iff] at ht
    obtain ⟨after, ha, rfl⟩ := ht
    rw [Lexer.scan_append_separator hc _ _ hs, ha]
    simp [List.append_assoc]

theorem lex_append_of_endsApart {s t : String} {a b : List Token} (hs : lex s = some a)
    (ht : lex t = some b) (h : endsApart s = true) : lex (s ++ t) = some (a ++ b) := by
  rw [lex, String.toList_append]
  rw [lex] at hs ht
  cases hl : s.toList.getLast? with
  | none =>
    rw [List.getLast?_eq_none_iff] at hl
    rw [hl] at hs
    obtain rfl : [] = a := by simpa [Lexer.scan, Lexer.State.ended] using hs
    rw [hl, List.nil_append, List.nil_append, ht]
  | some c =>
    have hc : isSeparator c = true := by simpa [endsApart, hl] using h
    obtain ⟨cs, hcs⟩ := List.getLast?_eq_some_iff.1 hl
    rw [hcs] at hs ⊢
    rw [List.append_assoc, List.singleton_append, Lexer.scan_append_of_separator hc _ _ hs, ht]
    rfl

/-- Whether a text may stand between two others without changing what they read as. -/
def standsApart (s : String) : Bool := s != "" && startsApart s && endsApart s

theorem startsApart_append {s : String} (h : startsApart s = true) (hne : s ≠ "") (t : String) :
    startsApart (s ++ t) = true := by
  cases hl : s.toList with
  | nil => exact absurd (String.toList_inj.1 hl) hne
  | cons c rest => simpa [startsApart, hl] using h

theorem lex_link {s g t : String} {a m b : List Token} (h : standsApart g = true)
    (hs : lex s = some a) (hg : lex g = some m) (ht : lex t = some b) :
    lex (s ++ g ++ t) = some (a ++ m ++ b) := by
  simp only [standsApart, Bool.and_eq_true, bne_iff_ne] at h
  obtain ⟨⟨hne, hstart⟩, hend⟩ := h
  rw [String.append_assoc, List.append_assoc]
  exact lex_append_of_startsApart hs (lex_append_of_endsApart hg ht hend)
    (startsApart_append hstart hne t)

/-- The tokens of texts with commas between them. -/
def commaTokens (parts : List (List Token)) : List Token := [.symbol ','].intercalate parts

theorem forall_mem_commaTokens {P : Token → Prop} {parts : List (List Token)}
    (hcomma : P (.symbol ',')) (h : ∀ ts ∈ parts, ∀ t ∈ ts, P t) :
    ∀ t ∈ commaTokens parts, P t := by
  induction parts with
  | nil => exact fun t ht => absurd ht List.not_mem_nil
  | cons ts rest ih =>
    obtain ⟨hts, hrest⟩ := List.forall_mem_cons.1 h
    cases rest with
    | nil =>
      rw [commaTokens, List.intercalate_singleton]
      exact hts
    | cons _ _ =>
      rw [commaTokens, List.intercalate_cons_cons]
      simp only [List.forall_mem_append, List.forall_mem_singleton]
      exact ⟨⟨hts, hcomma⟩, ih hrest⟩

theorem lex_commas {parts : List String} {tokens : List (List Token)}
    (h : List.Forall₂ (fun s ts => lex s = some ts) parts tokens) :
    lex (commas parts) = some (commaTokens tokens) := by
  induction h with
  | nil => rfl
  | @cons s ts parts tokens hs hrest ih =>
    cases hrest with
    | nil =>
      rw [commas, String.intercalate_singleton, commaTokens, List.intercalate_singleton]
      exact hs
    | cons =>
      rw [commas, String.intercalate_cons_cons, commaTokens, List.intercalate_cons_cons]
      exact lex_link (by decide) hs (by decide : lex ", " = some [.symbol ',']) ih

theorem lex_commas_map {α : Type} {f : α → String} {g : α → List Token} (items : List α)
    (h : ∀ a ∈ items, lex (f a) = some (g a)) :
    lex (commas (items.map f)) = some (commaTokens (items.map g)) := by
  refine lex_commas ?_
  rw [List.forall₂_map_left_iff, List.forall₂_map_right_iff, List.forall₂_same]
  exact h

/-! ## Quoted tokens and numbers -/

namespace Lexer

/-- Behind the quotes around a text the whole text has been read, each quote in it once. -/
theorem scan_double (q : Quote) (cs rest : List Char) (before : List Char) :
    scan (.inside q before) (Text.double q.char cs ++ q.char :: rest) =
      scan (.behind q (before ++ cs)) rest := by
  induction cs generalizing before with
  | nil => simp [Text.double, scan, State.extend]
  | cons c cs ih =>
    by_cases hc : c = q.char
    · subst hc
      simpa [Text.double, scan, State.extend] using ih (before ++ [q.char])
    · simpa [Text.double, hc, scan, State.extend] using ih (before ++ [c])

theorem begin_quote (q : Quote) : begin q.char = ([], .inside q []) := by
  cases q <;> rfl

theorem begin_digit {d : Char} (h : d.isDigit = true) : begin d = ([], .number [d]) := by
  obtain ⟨hlow, hhigh⟩ := Char.isDigit_iff_toNat.1 h
  have hall : ∀ n < 58, 48 ≤ n → begin (Char.ofNat n) = ([], .number [Char.ofNat n]) := by decide
  have hd := hall d.toNat (Nat.lt_succ_of_le hhigh) hlow
  rwa [Char.ofNat_toNat] at hd

/-- Between tokens a character is taken for what it begins. -/
theorem scan_begin {c : Char} {st : State} (h : begin c = ([], st)) (rest : List Char) :
    scan .between (c :: rest) = scan st rest := by
  simp [scan, State.extend, State.ended, h]

theorem scan_number (ds before : List Char) (h : ∀ c ∈ ds, c.isDigit = true) :
    scan (.number before) ds = some [.number (String.ofList (before ++ ds))] := by
  induction ds generalizing before with
  | nil => simp [scan, State.ended]
  | cons d ds ih =>
    have hd : d.isDigit = true := h d List.mem_cons_self
    simpa [scan, State.extend, hd] using
      ih (before ++ [d]) fun c hc => h c (List.mem_cons_of_mem d hc)

theorem scan_dollar (ds before : List Char) (h : ∀ c ∈ ds, c.isDigit = true) :
    scan (.dollar before) ds = (State.dollar (before ++ ds)).ended := by
  induction ds generalizing before with
  | nil => simp [scan]
  | cons d ds ih =>
    have hd : d.isDigit = true := h d List.mem_cons_self
    simpa [scan, State.extend, hd] using
      ih (before ++ [d]) fun c hc => h c (List.mem_cons_of_mem d hc)

end Lexer

/-- A text between quotes, with the quotes in it written twice, is one token. -/
theorem lex_enclose (q : Quote) (s : String) :
    lex (enclose q.char s) = some [q.token s.toList] := by
  rw [lex, enclose, String.toList_ofList, List.cons_append,
    Lexer.scan_begin (Lexer.begin_quote q), Lexer.scan_double]
  rfl

theorem lex_quoteIdent (s : String) : lex (quoteIdent s) = some [.name s] := by
  rw [quoteIdent, ← Quote.char, lex_enclose]
  simp [Quote.token]

theorem lex_quoteText (s : String) : lex (quoteText s) = some [.text s] := by
  rw [quoteText, ← Quote.char, lex_enclose]
  simp [Quote.token]

theorem lex_number (n : Nat) : lex (toString n) = some [.number (toString n)] := by
  have hdigits : ∀ c ∈ Nat.toDigits 10 n, c.isDigit = true := fun c hc =>
    Nat.isDigit_of_mem_toDigits (by decide) (by decide) hc
  rw [Nat.toString_eq_repr, lex, Nat.toList_repr, Nat.repr_eq_ofList_toDigits]
  cases hl : Nat.toDigits 10 n with
  | nil => exact absurd hl Nat.toDigits_ne_nil
  | cons d ds =>
    rw [hl] at hdigits
    have hd : d.isDigit = true := hdigits d List.mem_cons_self
    rw [Lexer.scan_begin (Lexer.begin_digit hd),
      Lexer.scan_number ds [d] fun c hc => hdigits c (List.mem_cons_of_mem d hc)]
    rfl

theorem lex_placeholder (index : Nat) :
    lex (placeholder index) = some [.placeholder (index + 1)] := by
  have hdigits : ∀ c ∈ Nat.toDigits 10 (index + 1), c.isDigit = true := fun c hc =>
    Nat.isDigit_of_mem_toDigits (by decide) (by decide) hc
  rw [placeholder, Nat.toString_eq_repr, lex, String.toList_append, Nat.toList_repr]
  have hdollar : "$".toList = ['$'] := rfl
  rw [hdollar, List.singleton_append, Lexer.scan_begin (c := '$') rfl,
    Lexer.scan_dollar _ _ hdigits, List.nil_append]
  cases hl : Nat.toDigits 10 (index + 1) with
  | nil => exact absurd hl Nat.toDigits_ne_nil
  | cons d ds =>
    rw [Lexer.State.ended, ← hl, Nat.ofDigitChars_ten_toDigits]

end Sql
end Granary
