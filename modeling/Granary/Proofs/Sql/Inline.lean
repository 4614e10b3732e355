import Granary.Proofs.Sql.Parameter
import Granary.Proofs.Sql.Token
import Granary.Sql.Render
import Mathlib.Data.List.Forall2

/-!
# The two texts of a statement

A statement is written with placeholders, and again with the values of its parameters in their
place.  The two texts are read side by side: token by token they are alike, but that the second has
the value as a text where the first has a placeholder.  The reading also gives the numbers of the
placeholders, which are those of the parameters from left to right.

This is shown piece by piece.  `InStep` speaks of any two texts, and is kept when they are joined at
a place where tokens part, which all the pieces of the renderer are.
-/

namespace Granary
namespace Sql

/-- Whether a token is the other with its placeholder, if it is one, filled with its value. -/
def Token.Filled (values : List String) : Token → Token → Prop
  | .placeholder k, t => 0 < k ∧ ∃ v, values[k - 1]? = some v ∧ t = .text v
  | s, t => t = s

/-- Two texts that read alike, but that the second has the values for the placeholders of the first,
which have these numbers from left to right. -/
def InStep (values : List String) (numbers : List Nat) (s t : String) : Prop :=
  ∃ ss ts, lex s = some ss ∧ lex t = some ts ∧ List.Forall₂ (Token.Filled values) ss ts ∧
    ss.filterMap Token.placeholder? = numbers

/-- Whether a text reads as tokens other than placeholders. -/
def isFixed (s : String) : Bool :=
  (lex s).any fun ts => ts.all fun t => t.placeholder?.isNone

/-- Whether a text may stand between two others. -/
def isGlue (s : String) : Bool := s != "" && isFixed s && startsApart s && endsApart s

theorem Token.Filled.refl {values : List String} {t : Token} (h : t.placeholder? = none) :
    t.Filled values t := by
  cases t with
  | placeholder n => cases h
  | name v => rfl
  | text v => rfl
  | word cs => rfl
  | number ds => rfl
  | symbol c => rfl

namespace InStep

variable {values : List String} {m n : List Nat} {s s' t t' : String}

theorem fixed (h : isFixed s = true) : InStep values [] s s := by
  obtain ⟨ts, hs, hall⟩ := (Option.any_eq_true _ _).1 h
  have hnone : ∀ t ∈ ts, t.placeholder? = none := by simpa using hall
  refine ⟨ts, ts, hs, hs, ?_, List.filterMap_eq_nil_iff.2 hnone⟩
  exact List.forall₂_same.2 fun t ht => Token.Filled.refl (hnone t ht)

theorem append (hs : InStep values m s s') (ht : InStep values n t t')
    (h : startsApart t = true) (h' : startsApart t' = true) :
    InStep values (m ++ n) (s ++ t) (s' ++ t') := by
  obtain ⟨ss, ss', hss, hss', hf, rfl⟩ := hs
  obtain ⟨ts, ts', hts, hts', hg, rfl⟩ := ht
  exact ⟨ss ++ ts, ss' ++ ts', lex_append_of_startsApart hss hts h,
    lex_append_of_startsApart hss' hts' h', List.rel_append hf hg, List.filterMap_append⟩

/-- A fixed text in front. -/
theorem after (p : String) (hp : isFixed p = true) (h : endsApart p = true)
    (ht : InStep values n t t') : InStep values n (p ++ t) (p ++ t') := by
  obtain ⟨ps, ps', hps, hps', hf, hnil⟩ := @fixed values p hp
  obtain ⟨ts, ts', hts, hts', hg, rfl⟩ := ht
  refine ⟨ps ++ ts, ps' ++ ts', lex_append_of_endsApart hps hts h,
    lex_append_of_endsApart hps' hts' h, List.rel_append hf hg, ?_⟩
  rw [List.filterMap_append, hnil, List.nil_append]

/-- A fixed text behind. -/
theorem before (q : String) (hq : isFixed q = true) (h : startsApart q = true)
    (hs : InStep values m s s') : InStep values m (s ++ q) (s' ++ q) := by
  simpa using append hs (fixed hq) h h

/-- Two texts with a fixed one between them. -/
theorem glue (g : String) (hg : isGlue g = true) (hs : InStep values m s s')
    (ht : InStep values n t t') : InStep values (m ++ n) (s ++ g ++ t) (s' ++ g ++ t') := by
  simp only [isGlue, Bool.and_eq_true, bne_iff_ne] at hg
  obtain ⟨⟨⟨hne, hfix⟩, hstart⟩, hend⟩ := hg
  rw [String.append_assoc, String.append_assoc]
  exact append hs (after g hfix hend ht) (startsApart_append hstart hne t)
    (startsApart_append hstart hne t')

theorem quoteIdent (name : String) :
    InStep values [] (Sql.quoteIdent name) (Sql.quoteIdent name) :=
  fixed (by simp [isFixed, lex_quoteIdent, Token.placeholder?])

theorem quoteText (value : String) :
    InStep values [] (Sql.quoteText value) (Sql.quoteText value) :=
  fixed (by simp [isFixed, lex_quoteText, Token.placeholder?])

theorem number (k : Nat) : InStep values [] (toString k) (toString k) :=
  fixed (by simp only [isFixed, lex_number]; rfl)

/-- A parameter that has a value. -/
theorem param {index : Nat} (h : index < values.length) :
    InStep values [index + 1] (Binding.placeholders.param index)
      ((Binding.inlined values).param index) := by
  have hv : values[index]? = some values[index] := List.getElem?_eq_getElem h
  refine ⟨[.placeholder (index + 1)], [.text values[index]], lex_placeholder index, ?_, ?_, rfl⟩
  · simp only [Binding.param, hv]
    exact lex_quoteText _
  · exact List.forall₂_cons.2 ⟨⟨Nat.succ_pos _, _, hv, rfl⟩, .nil⟩

/-- A list of pieces with one text between each two of them. -/
theorem intercalate {α : Type} (g : String) (hg : isGlue g = true) (f f' : α → String)
    (numbers : α → List Nat) (items : List α)
    (h : ∀ a ∈ items, InStep values (numbers a) (f a) (f' a)) :
    InStep values (items.flatMap numbers) (g.intercalate (items.map f))
      (g.intercalate (items.map f')) := by
  induction items with
  | nil => exact fixed rfl
  | cons a rest ih =>
    have ha := h a List.mem_cons_self
    have hrest := ih fun b hb => h b (List.mem_cons_of_mem a hb)
    cases rest with
    | nil => simpa using ha
    | cons b rest =>
      simp only [List.map_cons, String.intercalate_cons_cons] at hrest ⊢
      rw [List.flatMap_cons]
      exact glue g hg ha hrest

end InStep

/-! ## Expressions -/

mutual

/-- The expressions that can be written with `n` values: every parameter has one, constants are
natural numbers, and a pattern is applied to one argument. -/
def Expr.isWritable (n : Nat) : Expr → Bool
  | .column _ _ | .star | .aliased _ => true
  | .literal (.number (.int (.ofNat _))) => true
  | .literal _ => false
  | .param index _ => index < n
  | .call (.toChar _) args => args.length == 1 && areWritable n args
  | .call _ args => areWritable n args
  | .binary _ left right => left.isWritable n && right.isWritable n
  | .aggregate _ arg => arg.isWritable n
  | .between subject low high _ =>
    subject.isWritable n && low.isWritable n && high.isWritable n
  | .not inner => inner.isWritable n

def areWritable (n : Nat) : List Expr → Bool
  | [] => true
  | e :: rest => e.isWritable n && areWritable n rest

end

theorem areWritable_eq_all (n : Nat) (es : List Expr) :
    areWritable n es = es.all (·.isWritable n) := by
  induction es with
  | nil => rfl
  | cons e rest ih => rw [areWritable, ih, List.all_cons]

mutual

/-- More values do no harm. -/
theorem Expr.isWritable_mono {m n : Nat} (hmn : m ≤ n) (e : Expr) (h : e.isWritable m = true) :
    e.isWritable n = true := by
  cases e with
  | column table name => rfl
  | star => rfl
  | aliased name => rfl
  | literal value =>
    match value, h with
    | .number (.int (.ofNat _)), _ => rfl
  | param index cast =>
    simp only [Expr.isWritable, decide_eq_true_eq] at h ⊢
    omega
  | call function args =>
    cases function with
    | dateTrunc grain => exact areWritable_mono hmn args h
    | trim => exact areWritable_mono hmn args h
    | toChar format =>
      simp only [Expr.isWritable, Bool.and_eq_true] at h ⊢
      exact ⟨h.1, areWritable_mono hmn args h.2⟩
  | binary op left right =>
    simp only [Expr.isWritable, Bool.and_eq_true] at h ⊢
    exact ⟨left.isWritable_mono hmn h.1, right.isWritable_mono hmn h.2⟩
  | aggregate aggregation arg => exact arg.isWritable_mono hmn h
  | between subject low high negated =>
    simp only [Expr.isWritable, Bool.and_eq_true] at h ⊢
    exact ⟨⟨subject.isWritable_mono hmn h.1.1, low.isWritable_mono hmn h.1.2⟩,
      high.isWritable_mono hmn h.2⟩
  | not inner => exact inner.isWritable_mono hmn h

theorem areWritable_mono {m n : Nat} (hmn : m ≤ n) (es : List Expr)
    (h : areWritable m es = true) : areWritable n es = true := by
  cases es with
  | nil => rfl
  | cons e rest =>
    simp only [areWritable, Bool.and_eq_true] at h ⊢
    exact ⟨e.isWritable_mono hmn h.1, areWritable_mono hmn rest h.2⟩

end

mutual

/-- What can be written without a value has no parameters. -/
theorem Expr.parameters_eq_nil (subject? : Option Expr) (e : Expr) (h : e.isWritable 0 = true) :
    e.parameters subject? = [] := by
  cases e with
  | column table name => rfl
  | star => rfl
  | aliased name => rfl
  | literal value => rfl
  | param index cast => simp [Expr.isWritable] at h
  | call function args =>
    have hargs : areWritable 0 args = true := by
      cases function <;> simp_all [Expr.isWritable]
    exact parametersAll_eq_nil args hargs
  | binary op left right =>
    simp only [Expr.isWritable, Bool.and_eq_true] at h
    rw [Expr.parameters, left.parameters_eq_nil none h.1, right.parameters_eq_nil _ h.2,
      List.append_nil]
  | aggregate aggregation arg => exact arg.parameters_eq_nil none h
  | between subject low high negated =>
    simp only [Expr.isWritable, Bool.and_eq_true] at h
    rw [Expr.parameters, subject.parameters_eq_nil none h.1.1, low.parameters_eq_nil _ h.1.2,
      high.parameters_eq_nil _ h.2, List.append_nil, List.append_nil]
  | not inner => exact inner.parameters_eq_nil none h

theorem parametersAll_eq_nil (es : List Expr) (h : areWritable 0 es = true) :
    parametersAll es = [] := by
  cases es with
  | nil => rfl
  | cons e rest =>
    simp only [areWritable, Bool.and_eq_true] at h
    rw [parametersAll, e.parameters_eq_nil none h.1, parametersAll_eq_nil rest h.2,
      List.append_nil]

end

theorem renderAll_eq_map (b : Binding) (es : List Expr) :
    renderAll b es = es.map (·.render b) := by
  induction es with
  | nil => rfl
  | cons e rest ih => rw [renderAll, ih, List.map_cons]

/-- The numbers of the placeholders for some parameters. -/
def numbersOf (ps : List Parameter) : List Nat := ps.map (·.index + 1)

theorem numbersOf_append (ps qs : List Parameter) :
    numbersOf (ps ++ qs) = numbersOf ps ++ numbersOf qs := List.map_append

namespace InStep

variable {values : List String} {n : List Nat} {s s' : String}

theorem columnText (table : Option String) (name : String) :
    InStep values [] (Sql.columnText table name) (Sql.columnText table name) := by
  cases table with
  | none => exact quoteIdent name
  | some t => exact glue "." (by decide) (quoteIdent t) (quoteIdent name)

theorem castTo (typeName : String) (h : InStep values n s s') :
    InStep values n (Sql.castTo s typeName) (Sql.castTo s' typeName) := by
  have htype := glue " AS " (by decide) h (@quoteIdent values typeName)
  rw [List.append_nil] at htype
  have hcall := before ")" (by decide) (by decide) (after "CAST(" (by decide) (by decide) htype)
  simpa only [Sql.castTo, String.append_assoc] using hcall

theorem aggregated (aggregation : Aggregation) (h : InStep values n s s') :
    InStep values n (Sql.aggregated aggregation s) (Sql.aggregated aggregation s') := by
  cases aggregation
  all_goals exact before ")" (by decide) (by decide) (after _ (by decide) (by decide) h)

/-- A function applied to pieces that are in step; a pattern to exactly one. -/
theorem applied {α : Type} (function : Function) (f f' : α → String) (numbers : α → List Nat)
    (args : List α) (h : ∀ a ∈ args, InStep values (numbers a) (f a) (f' a))
    (hone : ∀ format, function = .toChar format → args.length = 1) :
    InStep values (args.flatMap numbers) (Sql.applied function (args.map f))
      (Sql.applied function (args.map f')) := by
  have hargs := intercalate ", " (by decide) f f' numbers args h
  cases function with
  | dateTrunc grain =>
    have hclosed := before ")" (by decide) (by decide) hargs
    have hcall := after ("DATE_TRUNC('" ++ grain.name ++ "', ") (by cases grain <;> decide)
      (by cases grain <;> decide) hclosed
    unfold Sql.applied
    simpa only [commas, String.append_assoc] using hcall
  | toChar format =>
    obtain ⟨arg, rfl⟩ := List.length_eq_one_iff.1 (hone format rfl)
    have harg := h arg List.mem_cons_self
    have hformat := glue ", " (by decide) harg (@quoteText values format)
    rw [List.append_nil] at hformat
    have hclosed := before ")" (by decide) (by decide) hformat
    have hcall := after "TO_CHAR(" (by decide) (by decide) hclosed
    unfold Sql.applied
    simpa [String.append_assoc] using hcall
  | trim =>
    have hclosed := before ")" (by decide) (by decide) hargs
    have hcall := after "TRIM(" (by decide) (by decide) hclosed
    unfold Sql.applied
    simpa only [commas, String.append_assoc] using hcall

theorem binary (op : Operator) {m : List Nat} {t t' : String} (hs : InStep values m s s')
    (ht : InStep values n t t') :
    InStep values (m ++ n) ("(" ++ s ++ " " ++ op.symbol ++ " " ++ t ++ ")")
      ("(" ++ s' ++ " " ++ op.symbol ++ " " ++ t' ++ ")") := by
  have hpair := glue (" " ++ op.symbol ++ " ") (by cases op <;> decide) hs ht
  have hclosed := after "(" (by decide) (by decide) (before ")" (by decide) (by decide) hpair)
  simpa only [String.append_assoc] using hclosed

theorem between (negated : Bool) {k m : List Nat} {t t' u u' : String}
    (hs : InStep values k s s') (ht : InStep values m t t') (hu : InStep values n u u') :
    InStep values (k ++ m ++ n)
      ("(" ++ s ++ " " ++ (if negated then "NOT " else "") ++ "BETWEEN " ++ t ++ " AND " ++ u ++
        ")")
      ("(" ++ s' ++ " " ++ (if negated then "NOT " else "") ++ "BETWEEN " ++ t' ++ " AND " ++ u' ++
        ")") := by
  have hlow := glue (" " ++ (if negated then "NOT " else "") ++ "BETWEEN ")
    (by cases negated <;> decide) hs ht
  have hrange := glue " AND " (by decide) hlow hu
  have hclosed := after "(" (by decide) (by decide) (before ")" (by decide) (by decide) hrange)
  simpa only [String.append_assoc] using hclosed

end InStep

mutual

theorem Expr.render_inStep {values : List String} (subject? : Option Expr) (e : Expr)
    (h : e.isWritable values.length = true) :
    InStep values (numbersOf (e.parameters subject?)) (e.render .placeholders)
      (e.render (.inlined values)) := by
  cases e with
  | column table name => exact InStep.columnText table name
  | star => exact InStep.fixed (by decide)
  | aliased name => exact InStep.quoteIdent name
  | literal value =>
    match value, h with
    | .number (.int (.ofNat k)), _ => exact InStep.number k
  | param index cast =>
    have hindex : index < values.length := by simpa [Expr.isWritable] using h
    cases cast with
    | none => exact InStep.param hindex
    | some typeName => exact InStep.castTo typeName (InStep.param hindex)
  | call function args =>
    have hargs : areWritable values.length args = true ∧
        ∀ format, function = .toChar format → args.length = 1 := by
      cases function <;> simp_all [Expr.isWritable]
    simp only [Expr.parameters, Expr.render, renderAll_eq_map, parametersAll_eq_flatMap]
    rw [numbersOf, List.map_flatMap]
    exact InStep.applied function _ _ _ args (renderAll_inStep args hargs.1) hargs.2
  | binary op left right =>
    simp only [Expr.isWritable, Bool.and_eq_true] at h
    simp only [Expr.parameters, numbersOf_append, Expr.render]
    exact InStep.binary op (left.render_inStep none h.1) (right.render_inStep (some left) h.2)
  | aggregate aggregation arg =>
    exact InStep.aggregated aggregation (arg.render_inStep none h)
  | between subject low high negated =>
    simp only [Expr.isWritable, Bool.and_eq_true] at h
    simp only [Expr.parameters, numbersOf_append, Expr.render]
    exact InStep.between negated (subject.render_inStep none h.1.1)
      (low.render_inStep (some subject) h.1.2) (high.render_inStep (some subject) h.2)
  | not inner =>
    exact InStep.after "NOT " (by decide) (by decide) (inner.render_inStep none h)

theorem renderAll_inStep {values : List String} (es : List Expr)
    (h : areWritable values.length es = true) :
    ∀ e ∈ es, InStep values (numbersOf (e.parameters none)) (e.render .placeholders)
      (e.render (.inlined values)) := by
  cases es with
  | nil => exact fun e he => absurd he List.not_mem_nil
  | cons first rest =>
    simp only [areWritable, Bool.and_eq_true] at h
    have hfirst := first.render_inStep none h.1
    have hrest := renderAll_inStep rest h.2
    exact List.forall_mem_cons.2 ⟨hfirst, hrest⟩

end

/-! ## Statements -/

/-- Two texts in step that can stand behind any others. -/
structure Follows (values : List String) (numbers : List Nat) (s t : String) : Prop where
  inStep : InStep values numbers s t
  left : startsApart s = true
  right : startsApart t = true

namespace Follows

variable {values : List String} {m n : List Nat} {s s' t t' : String}

theorem append (hs : InStep values m s s') (ht : Follows values n t t') :
    InStep values (m ++ n) (s ++ t) (s' ++ t') :=
  hs.append ht.inStep ht.left ht.right

theorem nothing : Follows values [] "" "" :=
  ⟨InStep.fixed rfl, rfl, rfl⟩

/-- Behind a fixed text that starts apart anything may stand. -/
theorem after (p : String) (hp : isGlue p = true) (ht : InStep values n t t') :
    Follows values n (p ++ t) (p ++ t') := by
  simp only [isGlue, Bool.and_eq_true, bne_iff_ne] at hp
  obtain ⟨⟨⟨hne, hfix⟩, hstart⟩, hend⟩ := hp
  exact ⟨ht.after p hfix hend, startsApart_append hstart hne t, startsApart_append hstart hne t'⟩

theorem clause {α : Type} (keyword : String) (hk : isGlue (" " ++ keyword ++ " ") = true)
    (f f' : α → String) (numbers : α → List Nat) (items : List α)
    (h : ∀ a ∈ items, InStep values (numbers a) (f a) (f' a)) :
    Follows values (items.flatMap numbers) (Sql.clause keyword (items.map f))
      (Sql.clause keyword (items.map f')) := by
  cases items with
  | nil => exact nothing
  | cons a rest =>
    have hlist := InStep.intercalate ", " (by decide) f f' numbers (a :: rest) h
    exact after (" " ++ keyword ++ " ") hk hlist

end Follows

section

variable {values : List String}

theorem SelectItem.render_inStep (item : SelectItem)
    (h : item.expr.isWritable values.length = true) :
    InStep values (numbersOf (item.expr.parameters none)) (item.render .placeholders)
      (item.render (.inlined values)) := by
  have hexpr := item.expr.render_inStep none h
  obtain ⟨expr, alias?⟩ := item
  cases alias? with
  | none => exact hexpr
  | some name =>
    have halias := InStep.glue " AS " (by decide) hexpr (InStep.quoteIdent name)
    rw [List.append_nil] at halias
    exact halias

theorem OrderItem.render_inStep (o : OrderItem) (h : o.expr.isWritable values.length = true) :
    InStep values (numbersOf (o.expr.parameters none)) (o.render .placeholders)
      (o.render (.inlined values)) := by
  have hexpr := o.expr.render_inStep none h
  have hdir := InStep.before (" " ++ o.direction.keyword) (by cases o.direction <;> decide)
    (by cases o.direction <;> decide) hexpr
  simpa only [OrderItem.render, String.append_assoc] using hdir

theorem TableRef.render_inStep (t : TableRef) : InStep values [] t.render t.render := by
  obtain ⟨name, alias?⟩ := t
  cases alias? with
  | none => exact InStep.quoteIdent name
  | some a => exact InStep.glue " " (by decide) (InStep.quoteIdent name) (InStep.quoteIdent a)

/-- What stands behind the table of a join. -/
theorem conditions_follow (es : List Expr) (h : areWritable values.length es = true) :
    Follows values (numbersOf (parametersAll es))
      (if es.isEmpty then "" else " ON " ++ " AND ".intercalate (es.map (·.render .placeholders)))
      (if es.isEmpty then "" else
        " ON " ++ " AND ".intercalate (es.map (·.render (.inlined values)))) := by
  rw [parametersAll_eq_flatMap, numbersOf, List.map_flatMap]
  cases es with
  | nil => exact Follows.nothing
  | cons e rest =>
    exact Follows.after " ON " (by decide)
      (InStep.intercalate " AND " (by decide) _ _ _ _ (renderAll_inStep (e :: rest) h))

theorem joins_follow (joins : List Join)
    (h : ∀ j ∈ joins, areWritable values.length j.conditions = true) :
    Follows values (numbersOf (parametersAll (joins.flatMap (·.conditions))))
      (String.join (joins.map (·.render .placeholders)))
      (String.join (joins.map (·.render (.inlined values)))) := by
  induction joins with
  | nil => exact Follows.nothing
  | cons j rest ih =>
    have hrest := ih fun k hk => h k (List.mem_cons_of_mem j hk)
    have hon := conditions_follow j.conditions (h j List.mem_cons_self)
    have htable := Follows.append (Follows.append j.table.render_inStep hon) hrest
    have hjoin := Follows.after (" " ++ j.kind.keyword ++ " ") (by cases j.kind <;> decide) htable
    simp only [parametersAll_eq_flatMap, List.flatMap_cons, List.flatMap_append] at hjoin ⊢
    rw [numbersOf_append]
    simpa only [List.map_cons, String.join_cons, Join.render, String.append_assoc,
      List.nil_append] using hjoin

/-- The expressions of a statement in the order in which they are written. -/
def Select.exprs (q : Select) : List Expr :=
  q.items.map (·.expr) ++ q.joins.flatMap (·.conditions) ++ q.condition.toList ++ q.groupBy ++
    q.orderBy.map (·.expr)

theorem Select.render_inStep (q : Select) (h : areWritable values.length q.exprs = true) :
    InStep values (numbersOf (parametersAll q.exprs)) (q.render .placeholders)
      (q.render (.inlined values)) := by
  rw [areWritable_eq_all, List.all_eq_true] at h
  simp only [Select.exprs, List.mem_append, or_imp, forall_and, List.forall_mem_map] at h
  obtain ⟨⟨⟨⟨hitems, hjoins⟩, hcondition⟩, hgroup⟩, horder⟩ := h
  have items := InStep.intercalate ", " (by decide) _ _ _ q.items
    fun item hi => item.render_inStep (hitems item hi)
  have joins := joins_follow q.joins fun j hj => by
    rw [areWritable_eq_all, List.all_eq_true]
    exact fun e he => hjoins e (List.mem_flatMap.2 ⟨j, hj, he⟩)
  have condition := Follows.clause "WHERE" (by decide) _ _ _ q.condition.toList
    fun e he => e.render_inStep none (hcondition e he)
  have group := Follows.clause "GROUP BY" (by decide) _ _ _ q.groupBy
    fun e he => e.render_inStep none (hgroup e he)
  have order := Follows.clause "ORDER BY" (by decide) _ _ _ q.orderBy
    fun o ho => o.render_inStep (horder o ho)
  have limit := Follows.clause "LIMIT" (by decide) _ _ _ q.limit.toList
    fun k _ => @InStep.number values k
  have head := InStep.after "SELECT " (by decide) (by decide)
    (InStep.glue " FROM " (by decide) items q.source.render_inStep)
  have whole := Follows.append (Follows.append (Follows.append (Follows.append
    (Follows.append head joins) condition) group) order) limit
  have hnumbers : numbersOf (parametersAll q.exprs) =
      q.items.flatMap (fun item => numbersOf (item.expr.parameters none)) ++ [] ++
        numbersOf (parametersAll (q.joins.flatMap (·.conditions))) ++
        q.condition.toList.flatMap (fun e => numbersOf (e.parameters none)) ++
        q.groupBy.flatMap (fun e => numbersOf (e.parameters none)) ++
        q.orderBy.flatMap (fun o => numbersOf (o.expr.parameters none)) ++
        q.limit.toList.flatMap (fun _ => []) := by
    simp [Select.exprs, parametersAll_eq_flatMap, numbersOf, List.map_flatMap, List.flatMap_map,
      List.flatMap_append]
  rw [hnumbers]
  unfold Select.render
  simpa only [commas, String.append_assoc] using whole

end

end Sql
end Granary
