import Granary.Proofs.Sql.Inline

/-!
# The names in a statement

A database reads names between double quotes in the text of a statement, and beside them words,
numbers, texts and symbols.  The names are those of the tables, columns, types and aliases of the
statement, and the words are words of the language: whatever a name is made of, it stays between its
quotes.
-/

namespace Granary
namespace Sql

/-- The words that statements are written with. -/
def keywords : List String :=
  ["SELECT", "AS", "FROM", "LEFT", "RIGHT", "FULL", "CROSS", "JOIN", "ON", "WHERE", "GROUP",
    "ORDER", "BY", "ASC", "DESC", "LIMIT", "AND", "OR", "NOT", "LIKE", "BETWEEN", "CAST", "NULL",
    "SUM", "AVG", "MIN", "MAX", "COUNT", "DISTINCT", "DATE_TRUNC", "TO_CHAR", "TRIM"]

/-- A token of the language, or one of some names. -/
def Token.Known (names : List String) : Token → Prop
  | .name value => value ∈ names
  | .word chars => chars ∈ keywords
  | .text _ | .placeholder _ | .number _ | .symbol _ => True

def Token.isOfLanguage : Token → Bool
  | .name _ => false
  | .word chars => keywords.contains chars
  | .text _ | .placeholder _ | .number _ | .symbol _ => true

theorem Token.known_of_isOfLanguage {t : Token} (h : t.isOfLanguage = true) (names : List String) :
    t.Known names := by
  cases t with
  | name value => cases h
  | word chars => exact List.contains_iff_mem.1 h
  | text value => trivial
  | placeholder number => trivial
  | number digits => trivial
  | symbol c => trivial

/-- A text with no names but some. -/
def Reads (names : List String) (s : String) : Prop :=
  ∃ ts, lex s = some ts ∧ ∀ t ∈ ts, t.Known names

/-- Whether a text is of the language alone. -/
def isOfLanguage (s : String) : Bool := (lex s).any fun ts => ts.all (·.isOfLanguage)

/-- Whether a text of the language may stand between two others. -/
def isLink (s : String) : Bool := s != "" && isOfLanguage s && startsApart s && endsApart s

namespace Reads

variable {names : List String} {s t : String}

theorem language (h : isOfLanguage s = true) : Reads names s := by
  obtain ⟨ts, hs, hall⟩ := (Option.any_eq_true _ _).1 h
  rw [List.all_eq_true] at hall
  exact ⟨ts, hs, fun t ht => Token.known_of_isOfLanguage (hall t ht) names⟩

theorem append (hs : Reads names s) (ht : Reads names t) (h : startsApart t = true) :
    Reads names (s ++ t) := by
  obtain ⟨ss, hss, hsk⟩ := hs
  obtain ⟨ts, hts, htk⟩ := ht
  exact ⟨ss ++ ts, lex_append_of_startsApart hss hts h, List.forall_mem_append.2 ⟨hsk, htk⟩⟩

theorem after (p : String) (hp : isOfLanguage p = true) (h : endsApart p = true)
    (ht : Reads names t) : Reads names (p ++ t) := by
  obtain ⟨ps, hps, hpk⟩ := @language names p hp
  obtain ⟨ts, hts, htk⟩ := ht
  exact ⟨ps ++ ts, lex_append_of_endsApart hps hts h, List.forall_mem_append.2 ⟨hpk, htk⟩⟩

theorem before (q : String) (hq : isOfLanguage q = true) (h : startsApart q = true)
    (hs : Reads names s) : Reads names (s ++ q) :=
  append hs (language hq) h

theorem link (g : String) (hg : isLink g = true) (hs : Reads names s) (ht : Reads names t) :
    Reads names (s ++ g ++ t) := by
  simp only [isLink, Bool.and_eq_true, bne_iff_ne] at hg
  obtain ⟨⟨⟨hne, hlanguage⟩, hstart⟩, hend⟩ := hg
  rw [String.append_assoc]
  exact append hs (after g hlanguage hend ht) (startsApart_append hstart hne t)

theorem quoteIdent {name : String} (h : name ∈ names) : Reads names (Sql.quoteIdent name) :=
  ⟨[.name name], lex_quoteIdent name, List.forall_mem_singleton.2 h⟩

theorem quoteText (value : String) : Reads names (Sql.quoteText value) :=
  ⟨[.text value], lex_quoteText value, List.forall_mem_singleton.2 trivial⟩

theorem number (k : Nat) : Reads names (toString k) :=
  ⟨[.number (toString k)], lex_number k, List.forall_mem_singleton.2 trivial⟩

theorem param (b : Binding) (index : Nat) : Reads names (b.param index) := by
  cases b with
  | placeholders =>
    exact ⟨[.placeholder (index + 1)], lex_placeholder index, List.forall_mem_singleton.2 trivial⟩
  | inlined values =>
    rw [Binding.param]
    cases values[index]? with
    | none => exact language (by decide)
    | some value => exact quoteText value

theorem intercalate {α : Type} (g : String) (hg : isLink g = true) (f : α → String)
    (items : List α) (h : ∀ a ∈ items, Reads names (f a)) :
    Reads names (g.intercalate (items.map f)) := by
  induction items with
  | nil => exact language rfl
  | cons a rest ih =>
    have ha := h a List.mem_cons_self
    have hrest := ih fun b hb => h b (List.mem_cons_of_mem a hb)
    cases rest with
    | nil => simpa using ha
    | cons b rest =>
      simp only [List.map_cons, String.intercalate_cons_cons] at hrest ⊢
      exact link g hg ha hrest

end Reads

/-! ## Expressions -/

mutual

/-- The names that an expression is written with. -/
def Expr.names : Expr → List String
  | .column table? name => table?.toList ++ [name]
  | .star | .literal _ => []
  | .param _ cast => cast.toList
  | .aliased name => [name]
  | .call _ args => namesAll args
  | .binary _ left right => left.names ++ right.names
  | .aggregate _ arg => arg.names
  | .between subject low high _ => subject.names ++ low.names ++ high.names
  | .not inner => inner.names

def namesAll : List Expr → List String
  | [] => []
  | e :: rest => e.names ++ namesAll rest

end

theorem namesAll_eq_flatMap (es : List Expr) : namesAll es = es.flatMap (·.names) := by
  induction es with
  | nil => rfl
  | cons e rest ih => rw [namesAll, ih, List.flatMap_cons]

namespace Reads

variable {names : List String} {s t u : String}

theorem columnText {table? : Option String} {name : String}
    (h : table?.toList ++ [name] ⊆ names) : Reads names (Sql.columnText table? name) := by
  have hname : name ∈ names := h (List.mem_append_right _ List.mem_cons_self)
  cases table? with
  | none => exact quoteIdent hname
  | some table => exact link "." (by decide) (quoteIdent (h List.mem_cons_self)) (quoteIdent hname)

theorem castTo {typeName : String} (h : typeName ∈ names) (hs : Reads names s) :
    Reads names (Sql.castTo s typeName) := by
  have htype := link " AS " (by decide) hs (quoteIdent h)
  have hcall := before ")" (by decide) (by decide) (after "CAST(" (by decide) (by decide) htype)
  simpa only [Sql.castTo, String.append_assoc] using hcall

theorem aggregated (aggregation : Aggregation) (hs : Reads names s) :
    Reads names (Sql.aggregated aggregation s) := by
  cases aggregation
  all_goals exact before ")" (by decide) (by decide) (after _ (by decide) (by decide) hs)

theorem applied {α : Type} (function : Function) (f : α → String) (args : List α)
    (h : ∀ a ∈ args, Reads names (f a)) : Reads names (Sql.applied function (args.map f)) := by
  have hargs := intercalate ", " (by decide) f args h
  have hnull : Reads names "NULL" := language (by decide)
  cases function with
  | dateTrunc grain =>
    have hcall := after ("DATE_TRUNC('" ++ grain.name ++ "', ") (by cases grain <;> decide)
      (by cases grain <;> decide) (before ")" (by decide) (by decide) hargs)
    unfold Sql.applied
    simpa only [commas, String.append_assoc] using hcall
  | toChar format =>
    cases args with
    | nil => exact hnull
    | cons arg rest =>
      cases rest with
      | nil =>
        have hformat := link ", " (by decide) (h arg List.mem_cons_self) (quoteText format)
        have hcall := after "TO_CHAR(" (by decide) (by decide)
          (before ")" (by decide) (by decide) hformat)
        unfold Sql.applied
        simpa only [List.map_cons, List.map_nil, String.append_assoc] using hcall
      | cons _ _ => exact hnull
  | trim =>
    have hcall := after "TRIM(" (by decide) (by decide) (before ")" (by decide) (by decide) hargs)
    unfold Sql.applied
    simpa only [commas, String.append_assoc] using hcall

theorem binary (op : Operator) (hs : Reads names s) (ht : Reads names t) :
    Reads names ("(" ++ s ++ " " ++ op.symbol ++ " " ++ t ++ ")") := by
  have hpair := link (" " ++ op.symbol ++ " ") (by cases op <;> decide) hs ht
  have hclosed := after "(" (by decide) (by decide) (before ")" (by decide) (by decide) hpair)
  simpa only [String.append_assoc] using hclosed

theorem between (negated : Bool) (hs : Reads names s) (ht : Reads names t) (hu : Reads names u) :
    Reads names ("(" ++ s ++ " " ++ (if negated then "NOT " else "") ++ "BETWEEN " ++ t ++
      " AND " ++ u ++ ")") := by
  have hlow := link (" " ++ (if negated then "NOT " else "") ++ "BETWEEN ")
    (by cases negated <;> decide) hs ht
  have hrange := link " AND " (by decide) hlow hu
  have hclosed := after "(" (by decide) (by decide) (before ")" (by decide) (by decide) hrange)
  simpa only [String.append_assoc] using hclosed

end Reads

mutual

theorem Expr.render_reads {names : List String} {n : Nat} (b : Binding) (e : Expr)
    (h : e.isWritable n = true) (hnames : e.names ⊆ names) : Reads names (e.render b) := by
  cases e with
  | column table? name => exact Reads.columnText hnames
  | star => exact Reads.language (by decide : isOfLanguage "*" = true)
  | aliased name => exact Reads.quoteIdent (hnames List.mem_cons_self)
  | literal value =>
    match value, h with
    | .number (.int (.ofNat k)), _ => exact Reads.number k
  | param index cast =>
    cases cast with
    | none => exact Reads.param b index
    | some typeName => exact Reads.castTo (hnames List.mem_cons_self) (Reads.param b index)
  | call function args =>
    have hargs : areWritable n args = true := by
      cases function <;> simp_all [Expr.isWritable]
    rw [Expr.render, renderAll_eq_map]
    exact Reads.applied function _ args (renderAll_reads b args hargs hnames)
  | binary op left right =>
    simp only [Expr.isWritable, Bool.and_eq_true] at h
    obtain ⟨hleft, hright⟩ := List.append_subset.1 hnames
    exact Reads.binary op (left.render_reads b h.1 hleft) (right.render_reads b h.2 hright)
  | aggregate aggregation arg => exact Reads.aggregated aggregation (arg.render_reads b h hnames)
  | between subject low high negated =>
    simp only [Expr.isWritable, Bool.and_eq_true] at h
    obtain ⟨hfirst, hhigh⟩ := List.append_subset.1 hnames
    obtain ⟨hsubject, hlow⟩ := List.append_subset.1 hfirst
    exact Reads.between negated (subject.render_reads b h.1.1 hsubject)
      (low.render_reads b h.1.2 hlow) (high.render_reads b h.2 hhigh)
  | not inner => exact Reads.after "NOT " (by decide) (by decide) (inner.render_reads b h hnames)

theorem renderAll_reads {names : List String} {n : Nat} (b : Binding) (es : List Expr)
    (h : areWritable n es = true) (hnames : namesAll es ⊆ names) :
    ∀ e ∈ es, Reads names (e.render b) := by
  cases es with
  | nil => exact fun e he => absurd he List.not_mem_nil
  | cons first rest =>
    simp only [areWritable, Bool.and_eq_true] at h
    obtain ⟨hfirst, hrest⟩ := List.append_subset.1 hnames
    exact List.forall_mem_cons.2
      ⟨first.render_reads b h.1 hfirst, renderAll_reads b rest h.2 hrest⟩

end

/-! ## Statements -/

def TableRef.names (t : TableRef) : List String := t.name :: t.alias?.toList

/-- The names that a statement is written with. -/
def Select.names (q : Select) : List String :=
  namesAll q.exprs ++ q.items.filterMap (·.alias?) ++ q.source.names ++
    q.joins.flatMap (·.table.names)

/-- A text that can stand behind any other. -/
structure ReadsBehind (names : List String) (s : String) : Prop where
  reads : Reads names s
  apart : startsApart s = true

namespace ReadsBehind

variable {names : List String} {s t : String}

theorem append (hs : Reads names s) (ht : ReadsBehind names t) : Reads names (s ++ t) :=
  hs.append ht.reads ht.apart

theorem nothing : ReadsBehind names "" := ⟨Reads.language rfl, rfl⟩

theorem after (p : String) (hp : isLink p = true) (ht : Reads names t) :
    ReadsBehind names (p ++ t) := by
  simp only [isLink, Bool.and_eq_true, bne_iff_ne] at hp
  obtain ⟨⟨⟨hne, hlanguage⟩, hstart⟩, hend⟩ := hp
  exact ⟨ht.after p hlanguage hend, startsApart_append hstart hne t⟩

theorem clause {α : Type} (keyword : String) (hk : isLink (" " ++ keyword ++ " ") = true)
    (f : α → String) (items : List α) (h : ∀ a ∈ items, Reads names (f a)) :
    ReadsBehind names (Sql.clause keyword (items.map f)) := by
  cases items with
  | nil => exact nothing
  | cons a rest =>
    exact after (" " ++ keyword ++ " ") hk (Reads.intercalate ", " (by decide) f (a :: rest) h)

end ReadsBehind

section

variable {names : List String} {n : Nat} (b : Binding)

theorem SelectItem.render_reads {item : SelectItem} (h : Reads names (item.expr.render b))
    (halias : ∀ name ∈ item.alias?, name ∈ names) : Reads names (item.render b) := by
  obtain ⟨expr, alias?⟩ := item
  cases alias? with
  | none => exact h
  | some name => exact Reads.link " AS " (by decide) h (Reads.quoteIdent (halias name rfl))

theorem OrderItem.render_reads {o : OrderItem} (h : Reads names (o.expr.render b)) :
    Reads names (o.render b) := by
  have hdirection := Reads.before (" " ++ o.direction.keyword) (by cases o.direction <;> decide)
    (by cases o.direction <;> decide) h
  simpa only [OrderItem.render, String.append_assoc] using hdirection

theorem TableRef.render_reads {t : TableRef} (h : t.names ⊆ names) : Reads names t.render := by
  obtain ⟨name, alias?⟩ := t
  have hname : name ∈ names := h List.mem_cons_self
  cases alias? with
  | none => exact Reads.quoteIdent hname
  | some a =>
    have ha : a ∈ names := h (List.mem_cons_of_mem _ List.mem_cons_self)
    exact Reads.link " " (by decide) (Reads.quoteIdent hname) (Reads.quoteIdent ha)

theorem conditions_readBehind {es : List Expr} (h : ∀ e ∈ es, Reads names (e.render b)) :
    ReadsBehind names
      (if es.isEmpty then "" else " ON " ++ " AND ".intercalate (es.map (·.render b))) := by
  cases es with
  | nil => exact ReadsBehind.nothing
  | cons e rest =>
    exact ReadsBehind.after " ON " (by decide) (Reads.intercalate " AND " (by decide) _ _ h)

theorem joins_readBehind {joins : List Join} (htables : ∀ j ∈ joins, j.table.names ⊆ names)
    (h : ∀ j ∈ joins, ∀ e ∈ j.conditions, Reads names (e.render b)) :
    ReadsBehind names (String.join (joins.map (·.render b))) := by
  induction joins with
  | nil => exact ReadsBehind.nothing
  | cons j rest ih =>
    obtain ⟨htable, htables⟩ := List.forall_mem_cons.1 htables
    obtain ⟨hconditions, h⟩ := List.forall_mem_cons.1 h
    have hbody := ReadsBehind.append (ReadsBehind.append (TableRef.render_reads htable)
      (conditions_readBehind b hconditions)) (ih htables h)
    have hjoin :=
      ReadsBehind.after (" " ++ j.kind.keyword ++ " ") (by cases j.kind <;> decide) hbody
    simpa only [List.map_cons, String.join_cons, Join.render, String.append_assoc] using hjoin

/-- The text of a statement has no names but those of the statement. -/
theorem Select.render_reads (q : Select) (h : areWritable n q.exprs = true) :
    Reads q.names (q.render b) := by
  have hnames : ∀ e ∈ q.exprs, e.names ⊆ q.names := by
    intro e he name hname
    rw [Select.names, namesAll_eq_flatMap]
    simp only [List.mem_append, List.mem_flatMap]
    exact .inl (.inl (.inl ⟨e, he, hname⟩))
  have hexprs : ∀ e ∈ q.exprs, Reads q.names (e.render b) := by
    rw [areWritable_eq_all, List.all_eq_true] at h
    exact fun e he => e.render_reads b (h e he) (hnames e he)
  simp only [Select.exprs, List.mem_append, or_imp, forall_and, List.forall_mem_map] at hexprs
  obtain ⟨⟨⟨⟨hitems, hjoins⟩, hcondition⟩, hgroup⟩, horder⟩ := hexprs
  have halias : ∀ item ∈ q.items, ∀ name ∈ item.alias?, name ∈ q.names := by
    intro item hitem name hname
    simp only [Select.names, List.mem_append]
    exact .inl (.inl (.inr (List.mem_filterMap.2 ⟨item, hitem, hname⟩)))
  have hsource : q.source.names ⊆ q.names := fun name hname => by
    simp only [Select.names, List.mem_append]
    exact .inl (.inr hname)
  have htables : ∀ j ∈ q.joins, j.table.names ⊆ q.names := fun j hj name hname =>
    List.mem_append_right _ (List.mem_flatMap.2 ⟨j, hj, hname⟩)
  have items := Reads.intercalate ", " (by decide) _ q.items
    fun item hi => item.render_reads b (hitems item hi) (halias item hi)
  have joins := joins_readBehind b htables
    fun j hj e he => hjoins e (List.mem_flatMap.2 ⟨j, hj, he⟩)
  have condition := ReadsBehind.clause "WHERE" (by decide) _ q.condition.toList hcondition
  have group := ReadsBehind.clause "GROUP BY" (by decide) _ q.groupBy hgroup
  have order := ReadsBehind.clause "ORDER BY" (by decide) _ q.orderBy
    fun o ho => o.render_reads b (horder o ho)
  have limit := ReadsBehind.clause "LIMIT" (by decide) _ q.limit.toList
    fun k _ => @Reads.number q.names k
  have head := Reads.after "SELECT " (by decide) (by decide)
    (Reads.link " FROM " (by decide) items (TableRef.render_reads hsource))
  have whole := ReadsBehind.append (ReadsBehind.append (ReadsBehind.append (ReadsBehind.append
    (ReadsBehind.append head joins) condition) group) order) limit
  unfold Select.render
  simpa only [commas, String.append_assoc] using whole

end

end Sql
end Granary
