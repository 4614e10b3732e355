import Granary.Compile.Statement
import Granary.Proofs.Outcome

/-!
# What values decide

Two requests whose filters differ only in the texts, numbers and truth values that they compare with
compile alike: both fail with the same error, or both become the same statement with other values.
So nothing that a value says can reach the statement, only whether a filter is blank, and whether it
has one value or two.

The two compilations are run side by side.  They part only where filters are validated and where
they are added to the predicate, and there the same clause comes with as many values on both sides.
-/

namespace Granary

open Outcome
open Sql (Expr)

namespace Filter

/-- Two values of one shape: one scalar each, or two each. -/
inductive SameShape : Json → Json → Prop where
  | scalars {v w : Json} (hv : isScalar v = true) (hw : isScalar w = true) : SameShape v w
  | pairs {a b c d : Json} (ha : isScalar a = true) (hb : isScalar b = true)
      (hc : isScalar c = true) (hd : isScalar d = true) :
      SameShape (.array [a, b]) (.array [c, d])

/-- Two filters that differ at most in their values.  The values have one shape unless both filters
are blank. -/
structure Alike (f g : Filter) : Prop where
  column : g.column = f.column
  operator : g.operator = f.operator
  logic : g.logic = f.logic
  mode : g.mode = f.mode
  isBlank : g.isBlank = f.isBlank
  value : f.isBlank = false → SameShape f.value g.value

/-- A scalar has a text and is not a list. -/
theorem isScalar_iff {v : Json} : isScalar v = true ↔ ∃ text, scalarText v = some text := by
  rw [isScalar, Option.isSome_iff_exists]

theorem ne_array_of_isScalar {v : Json} (h : isScalar v = true) (items : List Json) :
    v ≠ .array items := by
  intro hv
  subst hv
  cases h

theorem validate_of_isScalar {f : Filter} (hblank : f.isBlank = false)
    (hv : isScalar f.value = true) :
    f.validate =
      if f.operator = .between then .error (.betweenWantsPair f.columnText) else .ok () := by
  unfold validate
  rw [if_neg (Bool.eq_false_iff.1 hblank)]
  split
  · rename_i items _ hitems
    exact absurd hitems (ne_array_of_isScalar hv _)
  · rename_i hop _
    rw [if_pos hop]
  · rename_i hop _
    rw [if_pos hv, if_neg hop]

theorem validate_of_pair {f : Filter} {a b : Json} (hblank : f.isBlank = false)
    (hv : f.value = .array [a, b]) (ha : isScalar a = true) (hb : isScalar b = true) :
    f.validate =
      if f.operator = .between then .ok () else .error (.wantsSingleValue f.columnText) := by
  unfold validate
  rw [if_neg (Bool.eq_false_iff.1 hblank)]
  split
  · rename_i items hop hitems
    obtain rfl : items = [a, b] := Json.array.inj (hitems.symm.trans hv)
    rw [if_pos hop, if_pos (by simp [ha, hb])]
  · rename_i hitems
    exact absurd hv (hitems _)
  · rename_i hop _
    have hnone : isScalar f.value = false := by rw [hv]; rfl
    rw [if_neg (Bool.eq_false_iff.1 hnone), if_neg hop]

theorem Alike.columnText {f g : Filter} (h : f.Alike g) : g.columnText = f.columnText := by
  rw [Filter.columnText, h.column, Filter.columnText]

theorem Alike.validate {f g : Filter} (h : f.Alike g) : g.validate = f.validate := by
  cases hblank : f.isBlank with
  | true =>
    unfold Filter.validate
    rw [if_pos hblank, if_pos (h.isBlank.trans hblank)]
  | false =>
    have hblank' : g.isBlank = false := h.isBlank.trans hblank
    generalize hv : f.value = v
    generalize hw : g.value = w
    have hshape : SameShape v w := hv ▸ hw ▸ h.value hblank
    cases hshape with
    | scalars hsv hsw =>
      rw [validate_of_isScalar hblank (hv ▸ hsv), validate_of_isScalar hblank' (hw ▸ hsw),
        h.operator, h.columnText]
    | pairs ha hb hc hd =>
      rw [validate_of_pair hblank hv ha hb, validate_of_pair hblank' hw hc hd, h.operator,
        h.columnText]

/-- Two clauses are the same and have as many values. -/
def SameClause (x y : Expr × List String) : Prop := x.1 = y.1 ∧ x.2.length = y.2.length

theorem range_of_isScalar {f : Filter} (hv : isScalar f.value = true) :
    f.range = .error (.betweenWantsTwo f.columnText) := by
  unfold range
  split
  · rename_i hitems
    exact absurd hitems (ne_array_of_isScalar hv _)
  · rfl

theorem Alike.range {f g : Filter} (h : f.Alike g) (hblank : f.isBlank = false) :
    Agree (fun _ _ => True) f.range g.range := by
  generalize hv : f.value = v
  generalize hw : g.value = w
  have hshape : SameShape v w := hv ▸ hw ▸ h.value hblank
  cases hshape with
  | scalars hsv hsw =>
    rw [range_of_isScalar (hv ▸ hsv), range_of_isScalar (hw ▸ hsw), h.columnText]
    exact .error _
  | pairs ha hb hc hd =>
    obtain ⟨ta, ha⟩ := isScalar_iff.1 ha
    obtain ⟨tb, hb⟩ := isScalar_iff.1 hb
    obtain ⟨tc, hc⟩ := isScalar_iff.1 hc
    obtain ⟨td, hd⟩ := isScalar_iff.1 hd
    simp only [Filter.range, hv, hw, ha, hb, hc, hd]
    exact .ok trivial

/-- Both values have a text, or neither has. -/
theorem SameShape.scalarText {v w : Json} (h : SameShape v w) :
    (∃ t u, Filter.scalarText v = some t ∧ Filter.scalarText w = some u) ∨
      Filter.scalarText v = none ∧ Filter.scalarText w = none := by
  cases h with
  | scalars hv hw =>
    obtain ⟨t, ht⟩ := isScalar_iff.1 hv
    obtain ⟨u, hu⟩ := isScalar_iff.1 hw
    exact .inl ⟨t, u, ht, hu⟩
  | pairs => exact .inr ⟨rfl, rfl⟩

theorem Alike.clause {f g : Filter} (h : f.Alike g) (hblank : f.isBlank = false) (scope : Scope)
    (bound : Nat) : Agree SameClause (f.clause scope bound) (g.clause scope bound) := by
  unfold Filter.clause
  rw [h.columnText]
  refine Agree.bind_same fun column => ?_
  rw [h.operator, h.mode]
  split
  · refine Agree.bind ((h.range hblank).mapError _) fun x y _ => ?_
    exact .ok ⟨rfl, rfl⟩
  · obtain ⟨t, u, ht, hu⟩ | ⟨hv, hw⟩ := (h.value hblank).scalarText
    · rw [ht, hu]
      by_cases hpattern : f.operator = .like
      · simp only [if_pos hpattern]
        exact .ok ⟨rfl, rfl⟩
      · simp only [if_neg hpattern]
        exact .ok ⟨rfl, rfl⟩
    · rw [hv, hw]
      exact .error _

end Filter

namespace Predicate

/-- Two predicates are the same and have as many values. -/
def Same (p q : Predicate) : Prop := p.expr = q.expr ∧ p.params.length = q.params.length

theorem Same.add {p q : Predicate} {f g : Filter} (scope : Scope) (hpq : p.Same q)
    (hfg : f.Alike g) : Agree Same (p.add scope f) (q.add scope g) := by
  unfold Predicate.add
  rw [hfg.isBlank]
  cases hblank : f.isBlank with
  | true => exact .ok hpq
  | false =>
    rw [← hpq.2, hfg.logic, ← hpq.1]
    refine Agree.bind (hfg.clause hblank scope p.params.length) ?_
    rintro ⟨e, values⟩ ⟨e', values'⟩ ⟨he, hvalues⟩
    refine .ok ⟨?_, ?_⟩
    · rw [show e = e' from he]
    · show (p.params ++ values).length = (q.params ++ values').length
      rw [List.length_append, List.length_append, hpq.2, show values.length = _ from hvalues]

theorem same_ofFilters {fs gs : List Filter} (h : List.Forall₂ Filter.Alike fs gs)
    (scope : Scope) : Agree Same (ofFilters scope fs) (ofFilters scope gs) :=
  Agree.foldlM (fun _ _ _ _ hpq hfg => hpq.add scope hfg) h ⟨rfl, rfl⟩

end Predicate

namespace Request

/-- The same request with other filters. -/
def withFilters (r : Request) (gs : List Filter) : Request := { r with filters := gs }

variable {r : Request} {gs : List Filter}

theorem forM_validate {fs : List Filter} (h : List.Forall₂ Filter.Alike fs gs) :
    gs.forM Filter.validate = fs.forM Filter.validate := by
  induction h with
  | nil => rfl
  | cons hfg _ ih => rw [List.forM, List.forM, hfg.validate, ih]

theorem validate_withFilters (h : List.Forall₂ Filter.Alike r.filters gs) :
    (r.withFilters gs).validate = r.validate := by
  unfold validate withFilters
  rw [forM_validate h]

/-- Two statements are the same but for their values. -/
def SameText (s t : Statement) : Prop := s.table = t.table ∧ s.query = t.query

theorem compile_withFilters (h : List.Forall₂ Filter.Alike r.filters gs)
    (snapshot? : Option Snapshot) :
    Agree SameText (r.compile snapshot?) ((r.withFilters gs).compile snapshot?) := by
  unfold compile
  rw [validate_withFilters h]
  -- The stages before the filters are the same on both sides, and so are those behind them once
  -- the predicates have one expression.
  refine Agree.bind_same fun _ => Agree.bind_same fun _ => Agree.bind_same fun plan => ?_
  refine Agree.bind_same fun dated => Agree.bind_same fun dims => Agree.bind_same fun metrics => ?_
  refine Agree.bind (Predicate.same_ofFilters h plan.scope) fun p q hpq => ?_
  refine Agree.bind_same fun order => ?_
  rw [hpq.1]
  exact .ok ⟨rfl, rfl⟩

/-- Whatever the values of the filters are, a request fails alike or becomes the same statement with
the same text. -/
theorem compile_map_withFilters (h : List.Forall₂ Filter.Alike r.filters gs)
    (snapshot? : Option Snapshot) :
    (r.compile snapshot?).map (fun s => (s.table, s.query, s.sql)) =
      ((r.withFilters gs).compile snapshot?).map (fun s => (s.table, s.query, s.sql)) := by
  refine (compile_withFilters h snapshot?).map_eq fun s t hst => ?_
  rw [Statement.sql, Statement.sql, hst.1, hst.2]

def openOrders : Request where
  table := "orders"
  dimensions := ["status"]
  filters := [
    { column := some "status", value := .string "open" },
    { column := some "total", operator := .between, value := .array [Json.nat 10, Json.nat 20] }]

/-- A text for a text, and a text and a truth value for two numbers. -/
def otherFilters : List Filter := [
  { column := some "status", value := .string "' OR 1=1 --" },
  { column := some "total", operator := .between, value := .array [.string "$3", .bool true] }]

theorem openOrders_withFilters :
    List.Forall₂ Filter.Alike openOrders.filters otherFilters ∧
      (openOrders.compile none).toOption.isSome = true ∧
      (openOrders.compile none).map (fun s => (s.table, s.query, s.sql)) =
        ((openOrders.withFilters otherFilters).compile none).map
          (fun s => (s.table, s.query, s.sql)) := by
  have hstatus : Filter.Alike openOrders.filters[0] otherFilters[0] :=
    ⟨rfl, rfl, rfl, rfl, by decide +kernel, fun _ => .scalars rfl rfl⟩
  have htotal : Filter.Alike openOrders.filters[1] otherFilters[1] :=
    ⟨rfl, rfl, rfl, rfl, by decide +kernel, fun _ => .pairs rfl rfl rfl rfl⟩
  have h : List.Forall₂ Filter.Alike openOrders.filters otherFilters :=
    .cons hstatus (.cons htotal .nil)
  exact ⟨h, by decide +kernel, compile_map_withFilters h none⟩

end Request
end Granary
