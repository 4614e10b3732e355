import Granary.Proofs.Sql.Inline
import Mathlib.Data.Option.NAry

/-!
# Reading conditions

A condition is read back from its text as a database reads it.  A comparison or a range takes its
operands first, so the AND of a range is part of it; NOT takes what follows it up to the next AND or
OR; AND is taken before OR, and either from the left; parentheses are read for themselves.

The reader knows nothing of what wrote the text.  `read_render` says that a condition of the
renderer is read as its own tree: parentheses around every comparison, range and connective make
each of them one item, whatever stands around it, and a NOT before an item is an item again.
-/

namespace Granary
namespace Sql

/-- What a condition compares. -/
inductive Operand where
  | column (table : Option String) (name : String)
  /-- The placeholder of the given number, counted from one. -/
  | placeholder (number : Nat)
  | text (value : String)
  | cast (inner : Operand) (typeName : String)
  deriving DecidableEq, Repr

inductive Condition where
  | comparison (op : Operator) (left right : Operand)
  | between (subject low high : Operand)
  | not (inner : Condition)
  | and (left right : Condition)
  | or (left right : Condition)
  deriving DecidableEq, Repr

/-- Fills a placeholder that has a value. -/
def Operand.filled (values : List String) : Operand → Operand
  | .placeholder (index + 1) => (values[index]?.map .text).getD (.placeholder (index + 1))
  | .cast inner typeName => .cast (inner.filled values) typeName
  | other => other

/-- Fills the placeholders that have values. -/
def Condition.filled (values : List String) : Condition → Condition
  | .comparison op left right => .comparison op (left.filled values) (right.filled values)
  | .between subject low high =>
    .between (subject.filled values) (low.filled values) (high.filled values)
  | .not inner => .not (inner.filled values)
  | .and left right => .and (left.filled values) (right.filled values)
  | .or left right => .or (left.filled values) (right.filled values)

/-! ## The reader -/

/-- Reads something at the start of some tokens and gives what stands behind it. -/
abbrev Reading (α : Type) : Type := List Token → Option (α × List Token)

namespace Reading

def operand : Reading Operand
  | .name table :: .symbol '.' :: .name column :: rest => some (.column (some table) column, rest)
  | .name column :: rest => some (.column none column, rest)
  | .placeholder number :: rest => some (.placeholder number, rest)
  | .text value :: rest => some (.text value, rest)
  | .word "CAST" :: .symbol '(' :: rest =>
    match operand rest with
    | some (inner, .word "AS" :: .name typeName :: .symbol ')' :: rest) =>
      some (.cast inner typeName, rest)
    | _ => none
  | _ => none

/-- The longest operator that makes a comparison. -/
def comparator : Reading Operator
  | .symbol '!' :: .symbol '=' :: rest => some (.neq, rest)
  | .symbol '>' :: .symbol '=' :: rest => some (.gte, rest)
  | .symbol '<' :: .symbol '=' :: rest => some (.lte, rest)
  | .symbol '=' :: rest => some (.eq, rest)
  | .symbol '>' :: rest => some (.gt, rest)
  | .symbol '<' :: rest => some (.lt, rest)
  | .word "LIKE" :: rest => some (.like, rest)
  | _ => none

/-- The two ends of a range; the AND between them belongs to the range. -/
def ends (subject : Operand) : Reading Condition := fun ts =>
  match operand ts with
  | some (low, .word "AND" :: rest) =>
    (operand rest).map fun (high, rest) => (.between subject low high, rest)
  | _ => none

/-- A comparison or a range. -/
def test : Reading Condition := fun ts =>
  (operand ts).bind fun
    | (subject, .word "BETWEEN" :: rest) => ends subject rest
    | (subject, .word "NOT" :: .word "BETWEEN" :: rest) =>
      (ends subject rest).map fun (c, rest) => (.not c, rest)
    | (left, rest) =>
      (comparator rest).bind fun (op, rest) =>
        (operand rest).map fun (right, rest) => (.comparison op left right, rest)

/-- What NOT applies to, and what AND joins; `inner` reads what stands in parentheses. -/
def factor (inner : Reading Condition) : Reading Condition
  | .word "NOT" :: rest => (factor inner rest).map fun (c, rest) => (.not c, rest)
  | .symbol '(' :: rest =>
    match inner rest with
    | some (c, .symbol ')' :: rest) => some (c, rest)
    | _ => none
  | ts => test ts

/-- Goes on with items as long as the word stands before the next one, at most `n` times. -/
def more (word : String) (join : Condition → Condition → Condition) (item : Reading Condition) :
    Nat → Condition → Reading Condition
  | n + 1, before, .word w :: rest =>
    if w = word then
      (item rest).bind fun (c, rest) => more word join item n (join before c) rest
    else some (before, .word w :: rest)
  | _, before, rest => some (before, rest)

/-- Items with a word between each two of them, joined from the left. -/
def chain (word : String) (join : Condition → Condition → Condition) (item : Reading Condition) :
    Reading Condition := fun ts =>
  (item ts).bind fun (c, rest) => more word join item rest.length c rest

/-- Conditions in which less than the given number of parentheses stand in each other. -/
def condition : Nat → Reading Condition
  | 0 => fun _ => none
  | depth + 1 => chain "OR" .or (chain "AND" .and (factor (condition depth)))

end Reading

/-- The condition that a text is, if it is one and nothing else. -/
def Condition.read (s : String) : Option Condition :=
  (lex s).bind fun ts =>
    match Reading.condition (ts.length + 1) ts with
    | some (c, []) => some c
    | _ => none

/-- NOT before AND before OR, and the first AND behind BETWEEN is the range's. -/
example : Condition.read "NOT \"a\" = $1 OR \"b\" BETWEEN $2 AND $3 AND \"c\" LIKE '%'" =
    some (.or (.not (.comparison .eq (.column none "a") (.placeholder 1)))
      (.and (.between (.column none "b") (.placeholder 2) (.placeholder 3))
        (.comparison .like (.column none "c") (.text "%")))) := by
  decide +kernel

/-! ## What an expression says -/

/-- What is compared where a parameter stands. -/
def Binding.operand? (b : Binding) (index : Nat) : Option Operand :=
  match b with
  | .placeholders => some (.placeholder (index + 1))
  | .inlined values => values[index]?.map .text

def Expr.operand? (b : Binding) : Expr → Option Operand
  | .column table name => some (.column table name)
  | .param index none => b.operand? index
  | .param index (some typeName) => (b.operand? index).map (.cast · typeName)
  | _ => none

/-- The condition that an expression is the tree of, if it is made of comparisons, ranges and
connectives. -/
def Expr.condition? (b : Binding) : Expr → Option Condition
  | .binary .and left right => Option.map₂ .and (left.condition? b) (right.condition? b)
  | .binary .or left right => Option.map₂ .or (left.condition? b) (right.condition? b)
  | .binary op left right => Option.map₂ (.comparison op) (left.operand? b) (right.operand? b)
  | .between subject low high negated =>
    (subject.operand? b).bind fun subject =>
      Option.map₂ (fun low high =>
        if negated then .not (.between subject low high) else .between subject low high)
        (low.operand? b) (high.operand? b)
  | .not inner => (inner.condition? b).map .not
  | _ => none

/-! ## Operands and operators are read back -/

/-- A text in parentheses, or behind any other text that parts from it. -/
theorem lex_closed {s t : String} {a b : List Token} (hs : lex s = some a)
    (h : endsApart s = true) (ht : lex t = some b) :
    lex (s ++ t ++ ")") = some (a ++ b ++ [.symbol ')']) :=
  lex_append_of_startsApart (lex_append_of_endsApart hs ht h) (by decide) (by decide)

/-- Whether a dot follows, which would make a name the name of a table. -/
def dotFollows (rest : List Token) : Bool := rest.head? == some (.symbol '.')

/-- A text that is read as an operand unless a dot follows. -/
def IsOperand (s : String) (o : Operand) : Prop :=
  ∃ ts, lex s = some ts ∧
    ∀ rest, dotFollows rest = false → Reading.operand (ts ++ rest) = some (o, rest)

namespace IsOperand

theorem quoteText (value : String) : IsOperand (Sql.quoteText value) (.text value) :=
  ⟨_, lex_quoteText value, fun _ _ => rfl⟩

theorem placeholder (index : Nat) : IsOperand (Sql.placeholder index) (.placeholder (index + 1)) :=
  ⟨_, lex_placeholder index, fun _ _ => rfl⟩

theorem columnText (table : Option String) (name : String) :
    IsOperand (Sql.columnText table name) (.column table name) := by
  cases table with
  | none =>
    refine ⟨_, lex_quoteIdent name, fun rest hrest => ?_⟩
    rw [List.singleton_append, Reading.operand]
    intro _ _ h
    rw [h] at hrest
    cases hrest
  | some t =>
    exact ⟨_, lex_link (by decide) (lex_quoteIdent t) (by decide : lex "." = some [.symbol '.'])
      (lex_quoteIdent name), fun _ _ => rfl⟩

theorem castTo {s : String} {o : Operand} (typeName : String) (h : IsOperand s o) :
    IsOperand (Sql.castTo s typeName) (.cast o typeName) := by
  obtain ⟨ts, hts, hread⟩ := h
  have htype := lex_link (by decide) hts (by decide : lex " AS " = some [.word "AS"])
    (lex_quoteIdent typeName)
  have hall := lex_closed (by decide : lex "CAST(" = some [.word "CAST", .symbol '(']) (by decide)
    htype
  refine ⟨_, by simpa only [Sql.castTo, String.append_assoc] using hall, fun rest _ => ?_⟩
  have hinner := hread (.word "AS" :: .name typeName :: .symbol ')' :: rest) rfl
  simp only [List.cons_append, List.nil_append, List.append_assoc, Reading.operand, hinner]

theorem param {b : Binding} {index : Nat} {o : Operand} (h : b.operand? index = some o) :
    IsOperand (b.param index) o := by
  cases b with
  | placeholders =>
    obtain rfl := Option.some.inj h
    exact placeholder index
  | inlined values =>
    obtain ⟨value, hvalue, rfl⟩ := Option.map_eq_some_iff.1 h
    simp only [Binding.param, hvalue]
    exact quoteText value

end IsOperand

theorem Expr.isOperand_render {b : Binding} {e : Expr} {o : Operand} (h : e.operand? b = some o) :
    IsOperand (e.render b) o := by
  cases e with
  | column table name =>
    obtain rfl := Option.some.inj h
    exact IsOperand.columnText table name
  | param index cast =>
    cases cast with
    | none => exact IsOperand.param h
    | some typeName =>
      obtain ⟨o, ho, rfl⟩ := Option.map_eq_some_iff.1 h
      exact IsOperand.castTo typeName (IsOperand.param ho)
  | _ => cases h

/-- The tokens of an operator. -/
def Operator.tokens : Operator → List Token
  | .and => [.word "AND"]
  | .or => [.word "OR"]
  | .eq => [.symbol '=']
  | .neq => [.symbol '!', .symbol '=']
  | .gt => [.symbol '>']
  | .gte => [.symbol '>', .symbol '=']
  | .lt => [.symbol '<']
  | .lte => [.symbol '<', .symbol '=']
  | .like => [.word "LIKE"]

theorem lex_symbol (op : Operator) : lex (" " ++ op.symbol ++ " ") = some op.tokens := by
  cases op <;> decide

def Operator.compares (op : Operator) : Prop := op ≠ .and ∧ op ≠ .or

namespace Reading

/-- No operand begins with what an operator could go on with. -/
theorem comparator_append {op : Operator} (hop : op.compares) {ts : List Token}
    {o : Operand × List Token} (h : operand ts = some o) :
    comparator (op.tokens ++ ts) = some (op, ts) := by
  have hequals : ∀ us, ts ≠ .symbol '=' :: us := fun us hts => by rw [hts] at h; cases h
  cases op with
  | and => exact absurd rfl hop.1
  | or => exact absurd rfl hop.2
  | gt =>
    rw [Operator.tokens, List.singleton_append, comparator]
    exact hequals
  | lt =>
    rw [Operator.tokens, List.singleton_append, comparator]
    exact hequals
  | _ => rfl

theorem factor_of_operand {inner : Reading Condition} {ts : List Token} {o : Operand × List Token}
    (h : operand ts = some o) : factor inner ts = test ts := by
  rw [factor]
  · intro us hts
    rw [hts] at h
    cases h
  · intro us hts
    rw [hts] at h
    cases h

theorem test_comparison {op : Operator} (hop : op.compares) {ts us rest : List Token}
    {left right : Operand} (hleft : operand ts = some (left, op.tokens ++ us))
    (hright : operand us = some (right, rest)) :
    test ts = some (.comparison op left right, rest) := by
  have hcompare := comparator_append hop hright
  rw [test, hleft]
  cases op with
  | and => exact absurd rfl hop.1
  | or => exact absurd rfl hop.2
  | _ =>
    simp only [Operator.tokens, List.cons_append, List.nil_append] at hcompare
    simp [Operator.tokens, hcompare, hright]

theorem ends_eq {subject low high : Operand} {ts us rest : List Token}
    (hlow : operand ts = some (low, .word "AND" :: us)) (hhigh : operand us = some (high, rest)) :
    ends subject ts = some (.between subject low high, rest) := by
  rw [ends, hlow]
  simp [hhigh]

/-- The tokens between the subject of a range and its ends. -/
def betweenTokens (negated : Bool) : List Token :=
  if negated then [.word "NOT", .word "BETWEEN"] else [.word "BETWEEN"]

theorem test_between {negated : Bool} {ts us rest : List Token} {subject : Operand}
    {range : Condition} (hsubject : operand ts = some (subject, betweenTokens negated ++ us))
    (hrange : ends subject us = some (range, rest)) :
    test ts = some (if negated then .not range else range, rest) := by
  rw [test, hsubject]
  cases negated <;> simp [betweenTokens, hrange]

/-! ## Chains -/

/-- Whether no word follows, so that no chain goes on. -/
def isAtEnd (rest : List Token) : Bool :=
  match rest with
  | .word _ :: _ => false
  | _ => true

theorem ne_of_isAtEnd {rest : List Token} (h : isAtEnd rest = true) (word : String)
    (us : List Token) : rest ≠ .word word :: us := fun hrest => by
  rw [hrest] at h
  cases h

section

variable {word : String} {join : Condition → Condition → Condition} {item : Reading Condition}
  {ts us rest : List Token} {c d : Condition}

/-- A chain ends where its word does not stand. -/
theorem more_of_ne {n : Nat} (h : ∀ us, rest ≠ .word word :: us) :
    more word join item n c rest = some (c, rest) := by
  fun_cases more word join item n c rest with
  | case1 n _ us => exact absurd rfl (h us)
  | case2 n w us hw => rfl
  | case3 => rfl

theorem chain_one (hitem : item ts = some (c, rest)) (h : ∀ us, rest ≠ .word word :: us) :
    chain word join item ts = some (c, rest) := by
  rw [chain, hitem, Option.bind_some]
  exact more_of_ne h

theorem chain_two (hfirst : item ts = some (c, .word word :: us))
    (hsecond : item us = some (d, rest)) (h : ∀ us, rest ≠ .word word :: us) :
    chain word join item ts = some (join c d, rest) := by
  rw [chain, hfirst, Option.bind_some]
  simp only [List.length_cons, more, if_true, hsecond, Option.bind_some]
  exact more_of_ne h

end

variable {depth : Nat} {ts us rest : List Token} {c d : Condition}

theorem condition_of_factor (h : factor (condition depth) ts = some (c, rest))
    (hrest : isAtEnd rest = true) : condition (depth + 1) ts = some (c, rest) :=
  chain_one (chain_one h (ne_of_isAtEnd hrest _)) (ne_of_isAtEnd hrest _)

theorem condition_and (hleft : factor (condition depth) ts = some (c, .word "AND" :: us))
    (hright : factor (condition depth) us = some (d, rest)) (hrest : isAtEnd rest = true) :
    condition (depth + 1) ts = some (.and c d, rest) :=
  chain_one (chain_two hleft hright (ne_of_isAtEnd hrest _)) (ne_of_isAtEnd hrest _)

theorem condition_or (hleft : factor (condition depth) ts = some (c, .word "OR" :: us))
    (hright : factor (condition depth) us = some (d, rest)) (hrest : isAtEnd rest = true) :
    condition (depth + 1) ts = some (.or c d, rest) :=
  chain_two (chain_one hleft (by simp)) (chain_one hright (ne_of_isAtEnd hrest _))
    (ne_of_isAtEnd hrest _)

/-- A condition in parentheses is an item, whatever follows. -/
theorem factor_closed (h : condition depth ts = some (c, .symbol ')' :: rest)) :
    factor (condition depth) (.symbol '(' :: ts) = some (c, rest) := by
  rw [factor, h]
  rfl

theorem factor_not {inner : Reading Condition} (h : factor inner ts = some (c, rest)) :
    factor inner (.word "NOT" :: ts) = some (.not c, rest) := by
  rw [factor, h]
  rfl

end Reading

/-! ## Conditions are read back -/

/-- A text that is read as a condition wherever an item of a chain may stand, whatever follows. -/
def IsItem (s : String) (c : Condition) : Prop :=
  ∃ ts, lex s = some ts ∧ ∀ depth, ts.length ≤ depth → ∀ rest,
    Reading.factor (Reading.condition depth) (ts ++ rest) = some (c, rest)

namespace IsItem

variable {s t u : String} {c d : Condition}

theorem not (h : IsItem s c) : IsItem ("NOT " ++ s) (.not c) := by
  obtain ⟨ts, hts, hread⟩ := h
  refine ⟨_, lex_append_of_endsApart (by decide : lex "NOT " = some [.word "NOT"]) hts (by decide),
    fun depth hdepth rest => ?_⟩
  rw [List.length_append] at hdepth
  exact Reading.factor_not (hread depth (by omega) rest)

/-- Parentheses around what reads as a condition before a closing one. -/
theorem closed {ts : List Token} (hts : lex s = some ts)
    (hread : ∀ depth, ts.length ≤ depth → ∀ rest,
      Reading.condition (depth + 1) (ts ++ .symbol ')' :: rest) = some (c, .symbol ')' :: rest)) :
    IsItem ("(" ++ s ++ ")") c := by
  refine ⟨_, lex_closed (by decide : lex "(" = some [.symbol '(']) (by decide) hts,
    fun depth hdepth rest => ?_⟩
  simp only [List.length_append, List.length_cons, List.length_nil] at hdepth
  obtain ⟨n, rfl⟩ : ∃ n, depth = n + 1 := ⟨depth - 1, by omega⟩
  simpa using Reading.factor_closed (hread n (by omega) rest)

theorem comparison {op : Operator} (hop : op.compares) {left right : Operand}
    (hs : IsOperand s left) (ht : IsOperand t right) :
    IsItem ("(" ++ s ++ " " ++ op.symbol ++ " " ++ t ++ ")") (.comparison op left right) := by
  obtain ⟨ts, hts, hleft⟩ := hs
  obtain ⟨us, hus, hright⟩ := ht
  have hlex := lex_link (by cases op <;> decide) hts (lex_symbol op) hus
  have hitem : IsItem _ (.comparison op left right) := closed hlex fun depth _ rest => by
    have hfirst := hleft (op.tokens ++ (us ++ .symbol ')' :: rest))
      (by cases op <;> rfl)
    have hsecond := hright (.symbol ')' :: rest) rfl
    refine Reading.condition_of_factor ?_ rfl
    simp only [List.append_assoc]
    rw [Reading.factor_of_operand hfirst]
    exact Reading.test_comparison hop hfirst hsecond
  simpa only [String.append_assoc] using hitem

theorem between (negated : Bool) {subject low high : Operand} (hs : IsOperand s subject)
    (ht : IsOperand t low) (hu : IsOperand u high) :
    IsItem ("(" ++ s ++ " " ++ (if negated then "NOT " else "") ++ "BETWEEN " ++ t ++ " AND " ++
        u ++ ")")
      (if negated then .not (.between subject low high) else .between subject low high) := by
  obtain ⟨ss, hss, hsubject⟩ := hs
  obtain ⟨ts, hts, hlow⟩ := ht
  obtain ⟨us, hus, hhigh⟩ := hu
  have hbetween : lex (" " ++ (if negated then "NOT " else "") ++ "BETWEEN ") =
      some (Reading.betweenTokens negated) := by
    cases negated <;> decide
  have hlex := lex_link (by decide) (lex_link (by cases negated <;> decide) hss hbetween hts)
    (by decide : lex " AND " = some [.word "AND"]) hus
  have hitem : IsItem _ (if negated then .not (.between subject low high)
      else .between subject low high) := closed hlex fun depth _ rest => by
    have hfirst := hsubject
      (Reading.betweenTokens negated ++ (ts ++ .word "AND" :: (us ++ .symbol ')' :: rest)))
      (by cases negated <;> rfl)
    have hrange : Reading.ends subject (ts ++ .word "AND" :: (us ++ .symbol ')' :: rest)) = _ :=
      Reading.ends_eq (hlow _ rfl) (hhigh (.symbol ')' :: rest) rfl)
    refine Reading.condition_of_factor ?_ rfl
    simp only [List.append_assoc, List.cons_append, List.nil_append]
    rw [Reading.factor_of_operand hfirst]
    exact Reading.test_between hfirst hrange
  simpa only [String.append_assoc] using hitem

/-- Two items with a word between them, in parentheses. -/
theorem pair {op : Operator} {joined : Condition}
    (hjoined : ∀ {depth : Nat} {ts us rest : List Token},
      Reading.factor (Reading.condition depth) ts = some (c, op.tokens ++ us) →
      Reading.factor (Reading.condition depth) us = some (d, rest) → Reading.isAtEnd rest = true →
      Reading.condition (depth + 1) ts = some (joined, rest))
    (hs : IsItem s c) (ht : IsItem t d) :
    IsItem ("(" ++ s ++ " " ++ op.symbol ++ " " ++ t ++ ")") joined := by
  obtain ⟨ts, hts, hleft⟩ := hs
  obtain ⟨us, hus, hright⟩ := ht
  have hlex := lex_link (by cases op <;> decide) hts (lex_symbol op) hus
  have hitem : IsItem _ joined := closed hlex fun depth hdepth rest => by
    simp only [List.length_append] at hdepth
    simp only [List.append_assoc]
    exact hjoined (hleft depth (by omega) _) (hright depth (by omega) _) rfl
  simpa only [String.append_assoc] using hitem

theorem and (hs : IsItem s c) (ht : IsItem t d) :
    IsItem ("(" ++ s ++ " " ++ Operator.and.symbol ++ " " ++ t ++ ")") (.and c d) :=
  pair Reading.condition_and hs ht

theorem or (hs : IsItem s c) (ht : IsItem t d) :
    IsItem ("(" ++ s ++ " " ++ Operator.or.symbol ++ " " ++ t ++ ")") (.or c d) :=
  pair Reading.condition_or hs ht

/-- An item is a condition by itself. -/
theorem read (h : IsItem s c) : Condition.read s = some c := by
  obtain ⟨ts, hts, hread⟩ := h
  have hitem := hread ts.length (Nat.le_refl _) []
  rw [List.append_nil] at hitem
  rw [Condition.read, hts, Option.bind_some, Reading.condition_of_factor hitem rfl]

end IsItem

/-- By induction on the expression, which is an item in every case. -/
theorem Expr.isItem_render {b : Binding} (e : Expr) {c : Condition}
    (h : e.condition? b = some c) : IsItem (e.render b) c := by
  cases e with
  | binary op left right =>
    cases op with
    | and =>
      obtain ⟨c, d, hc, hd, rfl⟩ := Option.map₂_eq_some_iff.1 h
      exact (left.isItem_render hc).and (right.isItem_render hd)
    | or =>
      obtain ⟨c, d, hc, hd, rfl⟩ := Option.map₂_eq_some_iff.1 h
      exact (left.isItem_render hc).or (right.isItem_render hd)
    | _ =>
      simp only [condition?, Option.map₂_eq_some_iff] at h
      obtain ⟨x, y, hx, hy, rfl⟩ := h
      refine IsItem.comparison ?_ (isOperand_render hx) (isOperand_render hy)
      exact ⟨nofun, nofun⟩
  | between subject low high negated =>
    rw [condition?, Option.bind_eq_some_iff] at h
    obtain ⟨x, hx, h⟩ := h
    obtain ⟨y, z, hy, hz, rfl⟩ := Option.map₂_eq_some_iff.1 h
    exact IsItem.between negated (isOperand_render hx) (isOperand_render hy) (isOperand_render hz)
  | not inner =>
    obtain ⟨c, hc, rfl⟩ := Option.map_eq_some_iff.1 h
    exact (inner.isItem_render hc).not
  | _ => cases h

theorem Condition.read_render {b : Binding} {e : Expr} {c : Condition}
    (h : e.condition? b = some c) : Condition.read (e.render b) = some c :=
  (e.isItem_render h).read

/-! ## Filling placeholders -/

theorem Expr.operand?_filled {values : List String} (e : Expr)
    (h : e.isWritable values.length = true) :
    (e.operand? .placeholders).map (·.filled values) = e.operand? (.inlined values) := by
  cases e with
  | param index cast =>
    have hindex : index < values.length := by simpa [isWritable] using h
    have hv : values[index]? = some values[index] := List.getElem?_eq_getElem hindex
    cases cast <;> simp [operand?, Binding.operand?, Operand.filled, hv]
  | _ => rfl

/-- The condition that is written with placeholders, these filled, is the one that is written with
the values. -/
theorem Expr.condition?_filled {values : List String} (e : Expr)
    (h : e.isWritable values.length = true) :
    (e.condition? .placeholders).map (·.filled values) = e.condition? (.inlined values) := by
  cases e with
  | binary op left right =>
    simp only [isWritable, Bool.and_eq_true] at h
    cases op with
    | and =>
      rw [condition?, condition?, ← left.condition?_filled h.1, ← right.condition?_filled h.2]
      exact Option.map_map₂_distrib fun _ _ => rfl
    | or =>
      rw [condition?, condition?, ← left.condition?_filled h.1, ← right.condition?_filled h.2]
      exact Option.map_map₂_distrib fun _ _ => rfl
    | _ =>
      simp only [condition?, ← left.operand?_filled h.1, ← right.operand?_filled h.2]
      exact Option.map_map₂_distrib fun _ _ => rfl
  | between subject low high negated =>
    simp only [isWritable, Bool.and_eq_true] at h
    simp only [condition?, ← subject.operand?_filled h.1.1, ← low.operand?_filled h.1.2,
      ← high.operand?_filled h.2, Option.map_bind, Option.bind_map]
    congr 1
    funext x
    refine Option.map_map₂_distrib fun _ _ => ?_
    cases negated <;> rfl
  | not inner =>
    rw [condition?, condition?, ← inner.condition?_filled h, Option.map_map, Option.map_map]
    rfl
  | _ => rfl

end Sql
end Granary
