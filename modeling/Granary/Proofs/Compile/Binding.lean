import Granary.Proofs.Compile.Unbound

/-!
# What filters bind

A filter that is not blank binds its value to a parameter, and a range binds two.  `Slot` is one
such value with the column it is compared with, and `Filter.Binds` gives the slots of a filter.
The condition of a statement then has one parameter for every slot, numbered in the order of the
slots, and the values of the statement are the texts of the slots.

The filters are added to the predicate one by one, so the invariant `Predicate.Holds` speaks of the
slots of the filters that have been added.
-/

namespace Granary

open Outcome
open Sql (Expr Parameter Select Token areWritable areWritable_eq_all lex numbersOf parametersAll
  parametersAll_eq_flatMap)

/-- A value that a filter binds. -/
structure Slot where
  /-- The column as it is written. -/
  column : Expr
  text : String
  cast : Option String

/-- The parameters for some slots, numbered from `k` on. -/
def Slot.parameters : Nat → List Slot → List Parameter
  | _, [] => []
  | k, slot :: rest => ⟨some slot.column, k, slot.cast⟩ :: parameters (k + 1) rest

theorem Slot.parameters_append (k : Nat) (slots more : List Slot) :
    parameters k (slots ++ more) = parameters k slots ++ parameters (k + slots.length) more := by
  induction slots generalizing k with
  | nil => rfl
  | cons slot rest ih =>
    have hk : k + (rest.length + 1) = k + 1 + rest.length := by omega
    rw [List.cons_append, parameters, parameters, ih, List.cons_append, List.length_cons, hk]

theorem Slot.index_parameters (k : Nat) (slots : List Slot) :
    (parameters k slots).map (·.index) = List.range' k slots.length := by
  induction slots generalizing k with
  | nil => rfl
  | cons slot rest ih =>
    rw [parameters, List.map_cons, ih, List.length_cons, List.range'_succ]

theorem Slot.numbersOf_parameters (k : Nat) (slots : List Slot) :
    numbersOf (parameters k slots) = List.range' (k + 1) slots.length := by
  have hsucc :
      numbersOf (parameters k slots) = ((parameters k slots).map (·.index)).map (1 + ·) := by
    simp [numbersOf, Nat.add_comm]
  rw [hsucc, index_parameters, List.map_add_range', Nat.add_comm]

/-- The type that the catalog gives a column, if there is a catalog. -/
def Resolved.catalogType (c : Resolved) (snapshot? : Option Snapshot) : Option String :=
  snapshot?.bind fun snapshot => snapshot.columnType? c.table c.column

theorem Scope.type?_of_resolve {s : Scope} {raw : String} {c : Resolved}
    (h : s.resolve raw = .ok c) : c.type? = c.catalogType s.snapshot? := by
  obtain ⟨ref, _, href⟩ := bind_eq_ok.1 h
  unfold resolveRef at href
  cases hs : s.snapshot? with
  | none =>
    simp only [hs] at href
    cases href
    rfl
  | some snapshot =>
    simp only [hs, bind_eq_ok, pure_eq_ok] at href
    obtain ⟨table, _, rfl⟩ := href
    rfl

namespace Filter

/-- The slots of a filter: none if it is blank, the lower and the upper end of a range, and one for
any other comparison.  They are cast to the type of the column but for patterns. -/
inductive Binds (snapshot? : Option Snapshot) (scope : Scope) (f : Filter) : List Slot → Prop where
  | blank (h : f.isBlank = true) : Binds snapshot? scope f []
  | range {c : Resolved} {low high : Json} {lowText highText : String} (h : f.isBlank = false)
      (hop : f.operator = .between) (hc : scope.resolve f.columnText = .ok c)
      (hv : f.value = .array [low, high]) (hlow : scalarText low = some lowText)
      (hhigh : scalarText high = some highText) :
      Binds snapshot? scope f
        [⟨c.expr, lowText, c.catalogType snapshot?⟩, ⟨c.expr, highText, c.catalogType snapshot?⟩]
  | pattern {c : Resolved} {text : String} (h : f.isBlank = false) (hop : f.operator = .like)
      (hc : scope.resolve f.columnText = .ok c) (hv : scalarText f.value = some text) :
      Binds snapshot? scope f [⟨c.expr, "%" ++ text ++ "%", none⟩]
  | single {c : Resolved} {text : String} (h : f.isBlank = false) (hrange : f.operator ≠ .between)
      (hpattern : f.operator ≠ .like) (hc : scope.resolve f.columnText = .ok c)
      (hv : scalarText f.value = some text) :
      Binds snapshot? scope f [⟨c.expr, text, c.catalogType snapshot?⟩]

theorem range_eq_ok {f : Filter} {low high : String} (h : f.range = .ok (low, high)) :
    ∃ a b, f.value = .array [a, b] ∧ scalarText a = some low ∧ scalarText b = some high := by
  unfold range at h
  split at h
  · rename_i a b hv
    split at h
    · rename_i ta tb ha hb
      cases h
      exact ⟨a, b, hv, ha, hb⟩
    · cases h
  · cases h

/-- What a clause and its values have to do with some slots. -/
structure Fits (bound : Nat) (slots : List Slot) (e : Expr) (values : List String) : Prop where
  values : values = slots.map (·.text)
  /-- Wherever the clause stands, since it names what its parameters are compared with. -/
  parameters : ∀ subject?, e.parameters subject? = Slot.parameters bound slots
  isWritable : e.isWritable (bound + slots.length) = true

/-- One comparison, kept or left out. -/
theorem Fits.comparison {bound : Nat} {slot : Slot} (op : Sql.Operator) (mode : Mode)
    (hcolumn : slot.column.isWritable 0 = true) :
    Fits bound [slot]
      (if mode = .leaveOut then .not (.binary op slot.column (.param bound slot.cast))
        else .binary op slot.column (.param bound slot.cast)) [slot.text] := by
  have hnone := slot.column.parameters_eq_nil none hcolumn
  have hmore := slot.column.isWritable_mono (Nat.zero_le (bound + 1)) hcolumn
  have hlt : bound < bound + 1 := Nat.lt_succ_self bound
  refine ⟨rfl, fun subject? => ?_, ?_⟩
  · split
    · simp [Expr.parameters, hnone, Slot.parameters]
    · simp [Expr.parameters, hnone, Slot.parameters]
  · split
    · simp [Expr.isWritable, hmore]
    · simp [Expr.isWritable, hmore]

theorem Fits.between {bound : Nat} {column : Expr} {low high : String} {cast : Option String}
    (negated : Bool) (hcolumn : column.isWritable 0 = true) :
    Fits bound [⟨column, low, cast⟩, ⟨column, high, cast⟩]
      (.between column (.param bound cast) (.param (bound + 1) cast) negated) [low, high] := by
  have hnone := column.parameters_eq_nil none hcolumn
  have hmore := column.isWritable_mono (Nat.zero_le (bound + 2)) hcolumn
  refine ⟨rfl, fun subject? => ?_, ?_⟩
  · simp [Expr.parameters, hnone, Slot.parameters]
  · simp [Expr.isWritable, hmore]

theorem binds_of_clause {f : Filter} {scope : Scope} {bound : Nat} {e : Expr}
    {values : List String} (hb : f.isBlank = false) (h : f.clause scope bound = .ok (e, values)) :
    ∃ slots, f.Binds scope.snapshot? scope slots ∧ Fits bound slots e values := by
  obtain ⟨c, hc, h⟩ := bind_eq_ok.1 h
  -- The column has no parameters of its own, so a clause has those of its values only.
  have hcolumn : c.expr.isWritable 0 = true := Scope.isWritable_of_resolve hc
  have htype : c.type? = c.catalogType scope.snapshot? := Scope.type?_of_resolve hc
  split at h
  · rename_i hrange
    simp only [bind_eq_ok, mapError_eq_ok, pure_eq_ok] at h
    obtain ⟨⟨low, high⟩, hends, hclause⟩ := h
    obtain ⟨rfl, rfl⟩ := Prod.mk.inj hclause
    obtain ⟨a, b, hv, hlow, hhigh⟩ := range_eq_ok hends
    rw [htype]
    exact ⟨_, .range hb hrange hc hv hlow hhigh, Fits.between _ hcolumn⟩
  · rename_i hrange
    split at h
    · rename_i text hv
      by_cases hpattern : f.operator = .like
      · simp only [if_pos hpattern, pure_eq_ok, Prod.mk.injEq] at h
        obtain ⟨rfl, rfl⟩ := h
        exact ⟨_, .pattern hb hpattern hc hv, Fits.comparison _ _ hcolumn⟩
      · simp only [if_neg hpattern, pure_eq_ok, Prod.mk.injEq] at h
        obtain ⟨rfl, rfl⟩ := h
        rw [htype]
        exact ⟨_, .single hb hrange hpattern hc hv, Fits.comparison _ _ hcolumn⟩
    · cases h

end Filter

namespace Predicate

/-- What a predicate has to do with the slots of the filters added so far. -/
structure Holds (p : Predicate) (slots : List Slot) : Prop where
  params : p.params = slots.map (·.text)
  parameters : parametersAll p.expr.toList = Slot.parameters 0 slots
  isWritable : ∀ e ∈ p.expr, e.isWritable p.params.length = true

theorem Holds.empty : Holds {} [] :=
  ⟨rfl, rfl, fun _ he => nomatch he⟩

/-- The clause of one more filter stands behind those before it, and so do its parameters. -/
theorem Holds.and {p : Predicate} {slots more : List Slot} {e : Expr} {values : List String}
    (op : Sql.Operator) (hp : p.Holds slots) (he : Filter.Fits p.params.length more e values) :
    Holds ⟨some (match p.expr with | none => e | some before => .binary op before e),
      p.params ++ values⟩ (slots ++ more) := by
  have hlength : p.params.length = slots.length := by rw [hp.params, List.length_map]
  have htotal : (p.params ++ values).length = p.params.length + more.length := by
    rw [List.length_append, he.values, List.length_map]
  have hnew : e.isWritable (p.params ++ values).length = true := htotal ▸ he.isWritable
  refine ⟨?_, ?_, ?_⟩
  · show p.params ++ values = (slots ++ more).map (·.text)
    rw [hp.params, he.values, List.map_append]
  · -- The new parameters go on from the number of values bound before.
    rw [Slot.parameters_append, Nat.zero_add, ← hlength, ← hp.parameters]
    cases p.expr with
    | none => simp [parametersAll, he.parameters]
    | some before => simp [parametersAll, Expr.parameters, he.parameters]
  · intro e' he'
    obtain rfl := Option.mem_some.1 he'
    cases hexpr : p.expr with
    | none => exact hnew
    | some before =>
      have hle : p.params.length ≤ (p.params ++ values).length := by omega
      have hbefore := before.isWritable_mono hle (hp.isWritable before hexpr)
      show (Expr.binary op before e).isWritable (p.params ++ values).length = true
      rw [Expr.isWritable, hbefore, hnew, Bool.and_self]

variable {scope : Scope}

theorem holds_of_add {p q : Predicate} {slots : List Slot} {f : Filter} (hp : p.Holds slots)
    (h : p.add scope f = .ok q) :
    ∃ more, f.Binds scope.snapshot? scope more ∧ q.Holds (slots ++ more) := by
  unfold add at h
  split at h
  · rename_i hblank
    cases h
    exact ⟨[], .blank hblank, by rwa [List.append_nil]⟩
  · rename_i hblank
    simp only [bind_eq_ok, pure_eq_ok] at h
    obtain ⟨⟨e, values⟩, hclause, rfl⟩ := h
    obtain ⟨more, hmore, hfits⟩ := Filter.binds_of_clause (Bool.eq_false_iff.2 hblank) hclause
    exact ⟨more, hmore, hp.and _ hfits⟩

/-- By induction over the filters that are still to be added. -/
theorem holds_of_foldlM {filters : List Filter} {p q : Predicate} {slots : List Slot}
    (hp : p.Holds slots) (h : filters.foldlM (add scope) p = .ok q) :
    ∃ owned : List (List Slot), List.Forall₂ (Filter.Binds scope.snapshot? scope) filters owned ∧
      q.Holds (slots ++ owned.flatten) := by
  induction filters generalizing p slots with
  | nil =>
    rw [List.foldlM_nil, pure_eq_ok] at h
    subst h
    exact ⟨[], .nil, by simpa using hp⟩
  | cons f rest ih =>
    rw [List.foldlM_cons, bind_eq_ok] at h
    obtain ⟨next, hnext, hrest⟩ := h
    obtain ⟨more, hmore, hq⟩ := holds_of_add hp hnext
    obtain ⟨owned, howned, hall⟩ := ih hq hrest
    refine ⟨more :: owned, .cons hmore howned, ?_⟩
    rwa [List.flatten_cons, ← List.append_assoc]

theorem holds_of_ofFilters {filters : List Filter} {p : Predicate}
    (h : ofFilters scope filters = .ok p) :
    ∃ owned : List (List Slot), List.Forall₂ (Filter.Binds scope.snapshot? scope) filters owned ∧
      p.Holds owned.flatten :=
  holds_of_foldlM Holds.empty h

end Predicate

/-! ## Statements -/

namespace Request

variable {r : Request} {snapshot? : Option Snapshot}

namespace Stages.Of

variable {st : Stages}

/-- All expressions of a statement can be written with its values. -/
theorem areWritable_exprs (h : st.Of r snapshot?) :
    areWritable st.predicate.params.length (st.statement r).query.exprs = true := by
  obtain ⟨_, _, hp⟩ := Predicate.holds_of_ofFilters h.predicate
  rw [areWritable_eq_all, List.all_eq_true]
  have hother : ∀ e ∈ (st.statement r).query.otherExprs,
      e.isWritable st.predicate.params.length = true := fun e he =>
    e.isWritable_mono (Nat.zero_le _) (h.isWritable_otherExprs e he)
  simp only [Select.exprs, Select.otherExprs, List.mem_append, or_imp, forall_and] at hother ⊢
  obtain ⟨⟨⟨hitems, hjoins⟩, hgroup⟩, horder⟩ := hother
  exact ⟨⟨⟨⟨hitems, hjoins⟩, fun e he => hp.isWritable e (Option.mem_toList.1 he)⟩, hgroup⟩, horder⟩

/-- All parameters of a statement are those of its condition. -/
theorem parametersAll_exprs (h : st.Of r snapshot?) :
    parametersAll (st.statement r).query.exprs = parametersAll st.predicate.expr.toList := by
  have hother : ∀ e ∈ (st.statement r).query.otherExprs, e.parameters none = [] := fun e he =>
    e.parameters_eq_nil none (h.isWritable_otherExprs e he)
  simp only [Select.otherExprs, List.mem_append, or_imp, forall_and] at hother
  obtain ⟨⟨⟨hitems, hjoins⟩, hgroup⟩, horder⟩ := hother
  simp only [Select.exprs, parametersAll_eq_flatMap, List.flatMap_append]
  rw [List.flatMap_eq_nil_iff.2 hitems, List.flatMap_eq_nil_iff.2 hjoins,
    List.flatMap_eq_nil_iff.2 hgroup, List.flatMap_eq_nil_iff.2 horder]
  simp [statement]

end Stages.Of

/-- The parameters of a statement are those that its filters bind, numbered in their order, and its
placeholders are numbered from one on. -/
theorem parameters_of_compile {s : Statement} (h : r.compile snapshot? = .ok s) :
    ∃ owned : List (List Slot),
      List.Forall₂ (Filter.Binds snapshot? (r.scope snapshot?)) r.filters owned ∧
      s.query.conditionParameters = Slot.parameters 0 owned.flatten ∧
      s.query.conditionParameters.map (·.index) = List.range s.params.length ∧
      s.params = owned.flatten.map (·.text) ∧
      (∀ e ∈ s.query.otherExprs, e.parameters none = []) ∧
      ∃ ts, lex s.sql = some ts ∧
        ts.filterMap Token.placeholder? = List.range' 1 s.params.length := by
  obtain ⟨st, hst, rfl⟩ := compile_eq_ok_iff.1 h
  obtain ⟨owned, howned, hp⟩ := Predicate.holds_of_ofFilters hst.predicate
  have hlength : st.predicate.params.length = owned.flatten.length := by
    rw [hp.params, List.length_map]
  have hindex : (parametersAll st.predicate.expr.toList).map (·.index) =
      List.range st.predicate.params.length := by
    rw [hp.parameters, Slot.index_parameters, hlength, List.range_eq_range']
  obtain ⟨ts, _, hlex, _, _, hnumbers⟩ :=
    Select.render_inStep (st.statement r).query hst.areWritable_exprs
  rw [hst.scope_eq, r.snapshot?_scope] at howned
  refine ⟨owned, howned, hp.parameters, hindex, hp.params,
    fun e he => e.parameters_eq_nil none (hst.isWritable_otherExprs e he), ts, hlex, ?_⟩
  rw [hnumbers, hst.parametersAll_exprs, hp.parameters, Slot.numbersOf_parameters, ← hlength]
  rfl

/-- A request with an unfinished filter, a pattern and a range. -/
def ordersByStatus : Request where
  table := "orders"
  dimensions := ["status"]
  filters := [
    { column := some "status", value := .string " " },
    { column := some "status", operator := .like, value := .string "it's \"$1\"",
      mode := .leaveOut },
    { column := some "Total", operator := .between, logic := .or,
      value := .array [Json.nat 10, .string "20'; --"] }]

def ordersCatalog : Snapshot :=
  ({} : Snapshot).addTyped "Orders" [("Status", "text"), ("Total", "numeric")]

theorem parameters_of_ordersByStatus :
    ∃ s, ordersByStatus.compile (some ordersCatalog) = .ok s ∧
      s.params = ["%it's \"$1\"%", "10", "20'; --"] ∧
      ∃ ts, lex s.sql = some ts ∧ ts.filterMap Token.placeholder? = [1, 2, 3] := by
  have hparams : (ordersByStatus.compile (some ordersCatalog)).toOption.map (·.params) =
      some ["%it's \"$1\"%", "10", "20'; --"] := by decide +kernel
  obtain ⟨s, hs, hvalues⟩ := Option.map_eq_some_iff.1 hparams
  rw [toOption_eq_some] at hs
  obtain ⟨_, _, _, _, _, _, ts, hlex, hnumbers⟩ := parameters_of_compile hs
  exact ⟨s, hs, hvalues, ts, hlex, by rw [hnumbers, hvalues]; rfl⟩

/-- Token by token the text that is shown is the text that is executed, with each placeholder filled
with its value. -/
theorem shown_of_compile {s : Statement} (h : r.compile snapshot? = .ok s) :
    ∃ ts ts', lex s.sql = some ts ∧ lex s.shown = some ts' ∧
      List.Forall₂ (Token.Filled s.params) ts ts' := by
  obtain ⟨st, hst, rfl⟩ := compile_eq_ok_iff.1 h
  obtain ⟨ts, ts', hts, hts', hfilled, _⟩ :=
    Select.render_inStep (st.statement r).query hst.areWritable_exprs
  exact ⟨ts, ts', hts, hts', hfilled⟩

theorem shown_of_ordersByStatus :
    ∃ s, ordersByStatus.compile (some ordersCatalog) = .ok s ∧ s.params.length = 3 ∧
      ∃ ts ts', lex s.sql = some ts ∧ lex s.shown = some ts' ∧
        List.Forall₂ (Token.Filled s.params) ts ts' := by
  have hlength : (ordersByStatus.compile (some ordersCatalog)).toOption.map (·.params.length) =
      some 3 := by decide +kernel
  obtain ⟨s, hs, hthree⟩ := Option.map_eq_some_iff.1 hlength
  rw [toOption_eq_some] at hs
  exact ⟨s, hs, hthree, shown_of_compile hs⟩

end Request
end Granary
