import Granary.Proofs.Compile.Binding
import Granary.Proofs.Sql.Condition

/-!
# What filters say together

The text of a predicate, read back with the precedences of SQL, is the conditions of its filters
joined strictly from the left: each filter is joined to all before it by its own logic, whatever the
others have, and a filter that leaves rows out has a NOT around its own comparison and nothing else.
Blank filters are as if they were not there.
-/

namespace Granary

open Outcome
open Sql (Condition Expr Operand)

/-- A value as it is written against a column: cast to the type of the column, if that is known. -/
def Resolved.valueOperand (c : Resolved) (text : String) : Operand :=
  match c.type? with
  | some typeName => .cast (.text text) typeName
  | none => .text text

namespace Filter

/-- The filters that are not blank. -/
def written (filters : List Filter) : List Filter := filters.filter fun f => !f.isBlank

def Logic.joins : Logic → Condition → Condition → Condition
  | .and => .and
  | .or => .or

def Mode.applied : Mode → Condition → Condition
  | .keep, c => c
  | .leaveOut, c => .not c

/-- What a filter tests a column for: that it lies in a range, holds a text, or compares. -/
def test? (f : Filter) (c : Resolved) (column : Operand) : Option Condition :=
  let compared (op : Sql.Operator) := (scalarText f.value).map fun text =>
    .comparison op column (c.valueOperand text)
  match f.operator with
  | .eq => compared .eq
  | .neq => compared .neq
  | .gt => compared .gt
  | .lt => compared .lt
  | .gte => compared .gte
  | .lte => compared .lte
  | .like => (scalarText f.value).map fun text =>
    .comparison .like column (.text ("%" ++ text ++ "%"))
  | .between =>
    match f.value with
    | .array [low, high] =>
      Option.map₂ (fun low high => .between column (c.valueOperand low) (c.valueOperand high))
        (scalarText low) (scalarText high)
    | _ => none

/-- The condition of one filter: its test, or the negation of it. -/
def condition? (scope : Scope) (f : Filter) : Option Condition := do
  let c ← (scope.resolve f.columnText).toOption
  let column ← c.expr.operand? .placeholders
  (f.test? c column).map f.mode.applied

/-- Conditions joined from the left, each to all before it by its own logic; before the first there
is nothing. -/
def folded : List (Logic × Condition) → Option Condition
  | [] => none
  | (_, first) :: rest =>
    some (rest.foldl (fun before next => next.1.joins before next.2) first)

theorem folded_concat (clauses : List (Logic × Condition)) (logic : Logic) (c : Condition) :
    folded (clauses ++ [(logic, c)]) = some ((folded clauses).elim c (logic.joins · c)) := by
  cases clauses with
  | nil => rfl
  | cons first rest => simp [folded, List.foldl_append]

theorem folded_eq_none {clauses : List (Logic × Condition)} :
    folded clauses = none ↔ clauses = [] := by
  cases clauses with
  | nil => simp [folded]
  | cons first rest => simp [folded]

def clause? (scope : Scope) (f : Filter) : Option (Logic × Condition) :=
  (f.condition? scope).map (f.logic, ·)

/-- What filters say one by one, each with its logic, those that are blank left out. -/
def clauses? (scope : Scope) (filters : List Filter) : Option (List (Logic × Condition)) :=
  (written filters).mapM (clause? scope)

theorem clauses_eq_nil_iff {scope : Scope} {filters : List Filter}
    {clauses : List (Logic × Condition)} (h : clauses? scope filters = some clauses) :
    clauses = [] ↔ written filters = [] := by
  rw [clauses?] at h
  cases hwritten : written filters with
  | nil =>
    rw [hwritten, List.mapM_nil] at h
    simp [← Option.some.inj h]
  | cons f rest =>
    rw [hwritten, List.mapM_cons] at h
    obtain ⟨c, _, h⟩ := Option.bind_eq_some_iff.1 h
    obtain ⟨cs, _, h⟩ := Option.bind_eq_some_iff.1 h
    simp [← Option.some.inj h]

/-! ## One clause -/

theorem compares_comparison (op : Operator) : op.comparison.compares := by
  cases op <;> exact ⟨nofun, nofun⟩

theorem test?_single {f : Filter} (hrange : f.operator ≠ .between) (hpattern : f.operator ≠ .like)
    {text : String} (hv : scalarText f.value = some text) (c : Resolved) (column : Operand) :
    f.test? c column = some (.comparison f.operator.comparison column (c.valueOperand text)) := by
  rw [test?]
  cases hop : f.operator with
  | between => exact absurd hop hrange
  | like => exact absurd hop hpattern
  | _ => simp [hv, Operator.comparison]

section

variable {b : Sql.Binding} {subject low high : Expr} {x y z : Operand}

theorem condition?_comparison {op : Sql.Operator} (hop : op.compares) (mode : Mode)
    (hx : subject.operand? b = some x) (hy : low.operand? b = some y) :
    (if mode = .leaveOut then Expr.not (.binary op subject low)
      else .binary op subject low).condition? b = some (mode.applied (.comparison op x y)) := by
  have hcomparison : (Expr.binary op subject low).condition? b = some (.comparison op x y) := by
    cases op with
    | and => exact absurd rfl hop.1
    | or => exact absurd rfl hop.2
    | _ => simp [Expr.condition?, hx, hy]
  cases mode with
  | keep => exact hcomparison
  | leaveOut =>
    rw [if_pos rfl, Expr.condition?, hcomparison]
    rfl

theorem condition?_between (mode : Mode) (hx : subject.operand? b = some x)
    (hy : low.operand? b = some y) (hz : high.operand? b = some z) :
    (Expr.between subject low high (mode == .leaveOut)).condition? b =
      some (mode.applied (.between x y z)) := by
  rw [Expr.condition?, hx, hy, hz]
  cases mode <;> rfl

end

/-- The parameter of a value that has been bound stands for the value. -/
theorem operand?_param {values : List String} {index : Nat} {text : String} (c : Resolved)
    (h : values[index]? = some text) :
    (Expr.param index c.type?).operand? (.inlined values) = some (c.valueOperand text) := by
  rw [Resolved.valueOperand]
  cases c.type? <;> simp [Expr.operand?, Sql.Binding.operand?, h]

variable {scope : Scope} {f : Filter} {bound : Nat} {e : Expr} {values : List String}

/-- A clause with its values in place is the condition of its filter. -/
theorem condition?_of_clause (h : f.clause scope bound = .ok (e, values)) :
    ∃ c, f.condition? scope = some c ∧ ∀ before more : List String, before.length = bound →
      e.condition? (.inlined (before ++ values ++ more)) = some c := by
  obtain ⟨c, hc, h⟩ := bind_eq_ok.1 h
  obtain ⟨ref, _, href⟩ := bind_eq_ok.1 hc
  obtain ⟨table?, name, hexpr⟩ := Scope.expr_of_resolveRef href
  have hcolumn : ∀ b, c.expr.operand? b = some (.column table? name) := fun b => by
    rw [hexpr, Expr.operand?]
  have hcondition : ∀ t, f.test? c (.column table? name) = some t →
      f.condition? scope = some (f.mode.applied t) := fun t ht => by
    simp [condition?, hc, hcolumn, ht, Except.toOption]
  split at h
  · rename_i hrange
    simp only [bind_eq_ok, mapError_eq_ok, pure_eq_ok] at h
    obtain ⟨⟨low, high⟩, hends, hclause⟩ := h
    obtain ⟨rfl, rfl⟩ := Prod.mk.inj hclause
    obtain ⟨a, b, hv, hlow, hhigh⟩ := range_eq_ok hends
    have htest : f.test? c (.column table? name) = some (.between (.column table? name)
        (c.valueOperand low) (c.valueOperand high)) := by
      simp [test?, hrange, hv, hlow, hhigh]
    refine ⟨_, hcondition _ htest, ?_⟩
    rintro before more rfl
    exact condition?_between _ (hcolumn _) (operand?_param c (by simp)) (operand?_param c (by simp))
  · rename_i hrange
    split at h
    · rename_i text hv
      by_cases hpattern : f.operator = .like
      · simp only [if_pos hpattern, pure_eq_ok, Prod.mk.injEq] at h
        obtain ⟨rfl, rfl⟩ := h
        have htest : f.test? c (.column table? name) = some (.comparison .like (.column table? name)
            (.text ("%" ++ text ++ "%"))) := by
          simp [test?, hpattern, hv]
        refine ⟨_, hcondition _ htest, ?_⟩
        rintro before more rfl
        have hvalue : (Expr.param before.length none).operand?
            (.inlined (before ++ ["%" ++ text ++ "%"] ++ more)) =
              some (.text ("%" ++ text ++ "%")) := by
          simp [Expr.operand?, Sql.Binding.operand?]
        rw [hpattern]
        exact condition?_comparison (compares_comparison .like) _ (hcolumn _) hvalue
      · simp only [if_neg hpattern, pure_eq_ok, Prod.mk.injEq] at h
        obtain ⟨rfl, rfl⟩ := h
        refine ⟨_, hcondition _ (test?_single hrange hpattern hv c _), ?_⟩
        rintro before more rfl
        exact condition?_comparison (compares_comparison _) _ (hcolumn _)
          (operand?_param c (by simp))
    · cases h

end Filter

namespace Predicate

open Granary.Filter (clauses? clauses_eq_nil_iff folded folded_concat folded_eq_none written)

variable {scope : Scope} {filters : List Filter} {p q : Predicate}

/-- What a predicate says once its values, and any that come after them, are in place. -/
def Says (p : Predicate) (c? : Option Condition) : Prop :=
  ∀ more : List String, p.expr.map (·.condition? (.inlined (p.params ++ more))) = c?.map some

/-- Blank filters may be left out, or put in, anywhere. -/
theorem ofFilters_written (scope : Scope) (filters : List Filter) :
    ofFilters scope filters = ofFilters scope (written filters) := by
  rw [ofFilters, ofFilters, written, List.foldlM_filter]
  congr 1
  funext p f
  rw [add]
  cases f.isBlank <;> rfl

/-- One more filter is joined to all before it. -/
theorem Says.add {f : Filter} {c? : Option Condition} (hp : p.Says c?) (hblank : f.isBlank = false)
    (h : p.add scope f = .ok q) :
    ∃ c, f.condition? scope = some c ∧ q.Says (some (c?.elim c (f.logic.joins · c))) := by
  rw [Predicate.add, hblank] at h
  simp only [Bool.false_eq_true, if_false, bind_eq_ok, pure_eq_ok] at h
  obtain ⟨⟨e, values⟩, hclause, rfl⟩ := h
  obtain ⟨c, hc, hreads⟩ := Filter.condition?_of_clause hclause
  refine ⟨c, hc, fun more => ?_⟩
  have hnew := hreads p.params more rfl
  have hold := hp (values ++ more)
  rw [List.append_assoc] at hnew
  cases hexpr : p.expr with
  | none =>
    rw [hexpr] at hold
    obtain rfl : c? = none := Option.map_eq_none_iff.1 hold.symm
    simp [hnew]
  | some before =>
    rw [hexpr] at hold
    obtain ⟨c', rfl, hbefore⟩ := Option.map_eq_some_iff.1 hold.symm
    cases hlogic : f.logic <;>
      simp [hnew, hbefore.symm, Expr.condition?, Filter.Logic.operator, Filter.Logic.joins]

theorem says_of_foldlM {clauses : List (Filter.Logic × Condition)} (hp : p.Says (folded clauses))
    (hwritten : ∀ f ∈ filters, f.isBlank = false) (h : filters.foldlM (add scope) p = .ok q) :
    ∃ later, filters.mapM (Filter.clause? scope) = some later ∧
      q.Says (folded (clauses ++ later)) := by
  induction filters generalizing p clauses with
  | nil =>
    rw [List.foldlM_nil, pure_eq_ok] at h
    subst h
    exact ⟨[], rfl, by simpa using hp⟩
  | cons f rest ih =>
    rw [List.foldlM_cons, bind_eq_ok] at h
    obtain ⟨next, hnext, hrest⟩ := h
    obtain ⟨hf, hall⟩ := List.forall_mem_cons.1 hwritten
    obtain ⟨c, hc, hsays⟩ := hp.add hf hnext
    rw [← folded_concat] at hsays
    obtain ⟨later, hlater, hq⟩ := ih hsays hall hrest
    refine ⟨(f.logic, c) :: later, ?_, by simpa using hq⟩
    simp [List.mapM_cons, Filter.clause?, hc, hlater]

/-- The predicate of some filters, read back from its text by the precedences of SQL, is the
conditions of the filters that are not blank, joined strictly from the left; with placeholders it is
the same, these filled.  Blank filters count for nothing wherever they stand, and there is no
predicate exactly if all are blank. -/
theorem reads_of_ofFilters (h : ofFilters scope filters = .ok p) :
    (∀ others, written others = written filters → ofFilters scope others = .ok p) ∧
      (p.expr = none ↔ ∀ f ∈ filters, f.isBlank = true) ∧
      ∃ clauses, clauses? scope filters = some clauses ∧
        ∀ e, p.expr = some e → ∃ c t, folded clauses = some c ∧
          Condition.read (e.render (.inlined p.params)) = some c ∧
          Condition.read (e.render .placeholders) = some t ∧ t.filled p.params = c := by
  have hwritten := ofFilters_written scope filters ▸ h
  have hnot : ∀ f ∈ written filters, f.isBlank = false := fun f hf => by
    simpa using (List.mem_filter.1 hf).2
  have hstart : ({} : Predicate).Says (folded []) := fun _ => rfl
  obtain ⟨clauses, hclauses, hsays⟩ := says_of_foldlM hstart hnot hwritten
  rw [List.nil_append] at hsays
  have hempty := hsays []
  rw [List.append_nil] at hempty
  refine ⟨fun others hothers => ?_, ?_, clauses, hclauses, fun e he => ?_⟩
  · rw [ofFilters_written, hothers, hwritten]
  · calc p.expr = none ↔ folded clauses = none := by
          rw [← Option.map_eq_none_iff, hempty, Option.map_eq_none_iff]
      _ ↔ written filters = [] := by
          rw [folded_eq_none, clauses_eq_nil_iff hclauses]
      _ ↔ ∀ f ∈ filters, f.isBlank = true := by simp [written]
  · rw [he] at hempty
    obtain ⟨c, hc, hsome⟩ := Option.map_eq_some_iff.1 hempty.symm
    have hinlined : e.condition? (.inlined p.params) = some c := hsome.symm
    obtain ⟨_, _, hholds⟩ := holds_of_ofFilters h
    have hfilled := e.condition?_filled (hholds.isWritable e he)
    rw [hinlined] at hfilled
    obtain ⟨t, ht, hfill⟩ := Option.map_eq_some_iff.1 hfilled
    exact ⟨c, t, hc, Condition.read_render hinlined, Condition.read_render ht, hfill⟩

/-- Every operator that is not plain, both logics, both modes, and a row left unfinished. -/
def openOrOld : List Filter := [
  { column := some "status", value := .string "open", logic := .or },
  { column := some "total", operator := .between, value := .array [Json.nat 10, Json.nat 20],
    logic := .or, mode := .leaveOut },
  { column := some "note", value := .string " ", logic := .or },
  { column := some "Items.Name", operator := .like, value := .string "it's (1) AND", logic := .and,
    mode := .leaveOut }]

/-- What they say, from left to right. -/
def openOrOldCondition : Condition :=
  .and
    (.or (.comparison .eq (.column none "status") (.text "open"))
      (.not (.between (.column none "total") (.text "10") (.text "20"))))
    (.not (.comparison .like (.column (some "items") "name") (.text "%it's (1) AND%")))

theorem reads_of_openOrOld :
    ∃ p e t, unscoped openOrOld = .ok p ∧ unscoped (written openOrOld) = .ok p ∧
      p.expr = some e ∧ p.params = ["open", "10", "20", "%it's (1) AND%"] ∧
      Condition.read (e.render (.inlined p.params)) = some openOrOldCondition ∧
      Condition.read (e.render .placeholders) = some t ∧
      t.filled p.params = openOrOldCondition := by
  have hparams : (unscoped openOrOld).toOption.map (·.params) =
      some ["open", "10", "20", "%it's (1) AND%"] := by decide +kernel
  have hfolded : (clauses? ⟨"", [], none⟩ openOrOld).bind folded = some openOrOldCondition := by
    decide +kernel
  obtain ⟨p, hp, hvalues⟩ := Option.map_eq_some_iff.1 hparams
  rw [toOption_eq_some] at hp
  obtain ⟨hothers, hnone, clauses, hclauses, hreads⟩ := reads_of_ofFilters hp
  have hwritten : unscoped (written openOrOld) = .ok p := hothers _ (by simp [written])
  have hsome : p.expr ≠ none := fun h => absurd (hnone.1 h) (by decide)
  obtain ⟨e, he⟩ := Option.ne_none_iff_exists'.1 hsome
  obtain ⟨c, t, hc, hinlined, hplaceholders, hfill⟩ := hreads e he
  rw [hclauses, Option.bind_some, hc] at hfolded
  obtain rfl := Option.some.inj hfolded
  exact ⟨p, e, t, hp, hwritten, he, hvalues, hinlined, hplaceholders, hfill⟩

end Predicate
end Granary
