import Granary.Proofs.Compile.OutputName
import Granary.Proofs.Compile.ValueShape

/-!
# When requests compile

Whether a request compiles against a snapshot, and what the error is where it does not, can be read
off the request without running the stages.  `Request.requirements` lists what must hold, in the
order in which it is found out, each with the error where it does not: nothing in the list depends
on the outcome of a stage.  `compile_decided` says that a request compiles exactly if all of it
holds, and else fails with the error of the first that does not.

Each stage is compared with its own part of the list.  The parts are put together by `Decides.bind`,
which runs a stage only where all requirements before it are met.  `Request.Fulfils` says of each
stage in words what its part asks for, and `compiles_iff` is stated with it.
-/

namespace Granary

open Outcome
open Sql (SelectItem)
open Text (lowercase)

/-- Something that must hold, and the error where it does not. -/
structure Requirement (ε : Type) where
  holds : Bool
  error : ε

namespace Requirement

variable {ε δ α β : Type}

/-- The error of the first requirement that is not met. -/
def firstUnmet (rs : List (Requirement ε)) : Option ε :=
  (rs.find? fun r => !r.holds).map (·.error)

def mapError (f : ε → δ) (r : Requirement ε) : Requirement δ := ⟨r.holds, f r.error⟩

theorem firstUnmet_append (rs ss : List (Requirement ε)) :
    firstUnmet (rs ++ ss) = (firstUnmet rs).or (firstUnmet ss) := by
  rw [firstUnmet, firstUnmet, firstUnmet, List.find?_append]
  cases rs.find? fun r => !r.holds with
  | none => rfl
  | some r => rfl

/-- The first that is not met, where requirements come in groups. -/
theorem firstUnmet_flatMap_iff {g : α → List (Requirement ε)} {xs : List α} {e : ε} :
    firstUnmet (xs.flatMap g) = some e ↔ ∃ before x after, xs = before ++ x :: after ∧
      (∀ y ∈ before, firstUnmet (g y) = none) ∧ firstUnmet (g x) = some e := by
  induction xs with
  | nil => simp [firstUnmet]
  | cons x rest ih =>
    rw [List.flatMap_cons, firstUnmet_append, Option.or_eq_some_iff, ih]
    constructor
    · rintro (h | ⟨hx, before, y, after, rfl, hbefore, hy⟩)
      · exact ⟨[], x, rest, rfl, fun y hy => absurd hy List.not_mem_nil, h⟩
      · exact ⟨x :: before, y, after, rfl, List.forall_mem_cons.2 ⟨hx, hbefore⟩, hy⟩
    · rintro ⟨before, y, after, heq, hbefore, hy⟩
      cases before with
      | nil =>
        obtain ⟨rfl, rfl⟩ := List.cons.inj heq
        exact .inl hy
      | cons b before =>
        obtain ⟨rfl, hrest⟩ := List.cons.inj heq
        obtain ⟨hx, hbefore⟩ := List.forall_mem_cons.1 hbefore
        exact .inr ⟨hx, before, y, after, hrest, hbefore, hy⟩

theorem firstUnmet_eq_none_iff {rs : List (Requirement ε)} :
    firstUnmet rs = none ↔ ∀ r ∈ rs, r.holds = true := by
  simp [firstUnmet]

/-- A run fails exactly where a requirement is not met, and then with the error of the first. -/
def Decides (rs : List (Requirement ε)) (x : Except ε α) : Prop := error? x = firstUnmet rs

namespace Decides

variable {rs ss : List (Requirement ε)} {x : Except ε α}

theorem ok (a : α) : Decides ([] : List (Requirement ε)) (.ok a) := rfl

/-- A stage that only looks whether something holds. -/
theorem check {b : Bool} {e : ε} {a : α} : Decides [⟨b, e⟩] (if b then .ok a else .error e) := by
  cases b with
  | true => rfl
  | false => rfl

theorem bind {f : α → Except ε β} (hx : Decides rs x)
    (hf : ∀ a, x = .ok a → Decides ss (f a)) : Decides (rs ++ ss) (x >>= f) := by
  rw [Decides] at hx ⊢
  rw [firstUnmet_append, ← hx]
  cases x with
  | error e => rfl
  | ok a => exact hf a rfl

/-- What comes behind a stage and cannot fail. -/
theorem bind_ok {f : α → β} (hx : Decides rs x) : Decides rs (x >>= fun a => .ok (f a)) := by
  have h := hx.bind (f := fun a => .ok (f a)) fun a _ => ok (f a)
  rwa [List.append_nil] at h

theorem mapError (f : ε → δ) (hx : Decides rs x) :
    Decides (rs.map (Requirement.mapError f)) (x.mapError f) := by
  have hunmet : firstUnmet (rs.map (Requirement.mapError f)) = (firstUnmet rs).map f := by
    rw [firstUnmet, firstUnmet, List.find?_map, Option.map_map, Option.map_map]
    rfl
  rw [Decides] at hx ⊢
  rw [hunmet, ← hx]
  cases x with
  | error e => rfl
  | ok a => rfl

/-- A loop whose rounds have requirements that do not depend on the rounds before. -/
theorem foldlM {f : β → α → Except ε β} {g : α → List (Requirement ε)} {xs : List α}
    (h : ∀ b, ∀ a ∈ xs, Decides (g a) (f b a)) (b : β) :
    Decides (xs.flatMap g) (xs.foldlM f b) := by
  induction xs generalizing b with
  | nil => exact ok b
  | cons a rest ih =>
    rw [List.flatMap_cons, List.foldlM_cons]
    refine (h b a List.mem_cons_self).bind fun c _ => ?_
    exact ih (fun b' a' ha => h b' a' (List.mem_cons_of_mem a ha)) c

theorem mapM {f : α → Except ε β} {g : α → List (Requirement ε)} {xs : List α}
    (h : ∀ a ∈ xs, Decides (g a) (f a)) : Decides (xs.flatMap g) (xs.mapM f) := by
  induction xs with
  | nil => exact ok []
  | cons a rest ih =>
    rw [List.flatMap_cons, List.mapM_cons]
    refine (h a List.mem_cons_self).bind fun b _ => ?_
    exact (ih fun a' ha => h a' (List.mem_cons_of_mem a ha)).bind_ok

theorem forM {f : α → Except ε Unit} {g : α → Requirement ε} {xs : List α}
    (h : ∀ a, Decides [g a] (f a)) : Decides (xs.map g) (xs.forM f) := by
  induction xs with
  | nil => exact ok ()
  | cons a rest ih =>
    rw [List.map_cons, List.forM]
    exact Decides.bind (h a) fun _ _ => ih

theorem eq_ok_iff (h : Decides rs x) : (∃ a, x = .ok a) ↔ ∀ r ∈ rs, r.holds = true := by
  rw [← firstUnmet_eq_none_iff, ← h]
  cases x with
  | error e => simp [error?]
  | ok a => simp [error?]

theorem eq_error_iff (h : Decides rs x) {e : ε} : x = .error e ↔ firstUnmet rs = some e := by
  rw [← h]
  cases x with
  | error e' => simp [error?]
  | ok a => simp [error?]

end Decides
end Requirement

open Requirement (Decides)

/-! ## References -/

namespace Scope

variable {scope : Scope} {s : Snapshot}

/-- What a reference must satisfy: a table that it names is one of the query and has the column, and
a column that it names alone is one of some table of the query. -/
def referenceRequirements (scope : Scope) (s : Snapshot) (ref : ColumnRef) :
    List (Requirement Error) :=
  match ref.table with
  | some table => [⟨scope.tables.contains table, .unknownTable table⟩,
      ⟨s.hasColumn table ref.column, .unknownColumn [table] ref.column⟩]
  | none => [⟨scope.tables.any (s.hasColumn · ref.column), .unknownColumn scope.tables ref.column⟩]

/-- What a text must satisfy to refer to a column; a bare name may be meant for a given table. -/
def columnRequirements (scope : Scope) (s : Snapshot) (table? : Option String) (raw : String) :
    List (Requirement Error) :=
  match ColumnRef.parse raw with
  | .error refusal => [⟨false, .validation refusal⟩]
  | .ok ref => scope.referenceRequirements s { ref with table := ref.table.or table? }

theorem decides_owner (scope : Scope) (s : Snapshot) (ref : ColumnRef) :
    Decides (scope.referenceRequirements s ref) (scope.owner s ref) := by
  unfold owner referenceRequirements
  cases ref.table with
  | some table =>
    dsimp only
    cases scope.tables.contains table with
    | false => rfl
    | true =>
      cases s.hasColumn table ref.column with
      | false => rfl
      | true => rfl
  | none =>
    dsimp only
    cases hfind : scope.tables.find? fun table => s.hasColumn table ref.column with
    | some table =>
      have hany : scope.tables.any (s.hasColumn · ref.column) = true :=
        List.any_eq_true.2
          ⟨table, List.mem_of_find?_eq_some hfind, by simpa using List.find?_some hfind⟩
      rw [hany]
      rfl
    | none =>
      have hany : scope.tables.any (s.hasColumn · ref.column) = false := by
        rw [Bool.eq_false_iff, Ne, List.any_eq_true]
        rintro ⟨table, hmem, hhas⟩
        exact List.find?_eq_none.1 hfind table hmem hhas
      rw [hany]
      rfl

theorem decides_resolveRef (hs : scope.snapshot? = some s) (ref : ColumnRef) :
    Decides (scope.referenceRequirements s ref) (scope.resolveRef ref) := by
  unfold resolveRef
  rw [hs]
  exact (decides_owner scope s ref).bind_ok

theorem decides_resolve (hs : scope.snapshot? = some s) (raw : String) :
    Decides (scope.columnRequirements s none raw) (scope.resolve raw) := by
  unfold resolve columnRequirements
  cases ColumnRef.parse raw with
  | error refusal => rfl
  | ok ref =>
    have hsame : ({ ref with table := ref.table.or none } : ColumnRef) = ref := by
      rw [Option.or_none]
    dsimp only
    rw [hsame]
    exact decides_resolveRef hs ref

theorem decides_resolveOn (hs : scope.snapshot? = some s) (table raw : String) :
    Decides (scope.columnRequirements s (some (lowercase table)) raw)
      (scope.resolveOn table raw) := by
  unfold resolveOn columnRequirements
  cases ColumnRef.parse raw with
  | error refusal => rfl
  | ok ref =>
    have hsame : ref.table.or (some (lowercase table)) =
        some (ref.table.getD (lowercase table)) := by
      cases ref.table with
      | none => rfl
      | some named => rfl
    dsimp only
    rw [hsame]
    exact decides_resolveRef hs _

end Scope

/-! ## Validation -/

namespace Filter

/-- Whether the value is of the kind that the operator compares with. -/
def valueFits (f : Filter) : Bool :=
  match f.operator, f.value with
  | .between, .array [low, high] => isScalar low && isScalar high
  | .between, _ => false
  | _, value => isScalar value

/-- What is said of a value that does not fit. -/
def misfit (f : Filter) : Refusal :=
  match f.operator, f.value with
  | .between, .array _ => .betweenWantsTwo f.columnText
  | .between, _ => .betweenWantsPair f.columnText
  | _, _ => .wantsSingleValue f.columnText

def requirement (f : Filter) : Requirement Refusal := ⟨f.isBlank || f.valueFits, f.misfit⟩

theorem decides_validate (f : Filter) : Decides [f.requirement] f.validate := by
  unfold validate requirement valueFits misfit
  cases f.isBlank with
  | true => rfl
  | false =>
    rw [if_neg Bool.false_ne_true, Bool.false_or]
    cases f.operator with
    | between =>
      cases f.value with
      | array items =>
        match items with
        | [] => rfl
        | [_] => rfl
        | [low, high] =>
          have hpair : ([low, high].length = 2 ∧ [low, high].all isScalar = true) ↔
              (isScalar low && isScalar high) = true := by simp
          dsimp only
          rw [if_congr hpair rfl rfl]
          exact Decides.check
        | first :: second :: third :: rest =>
          have hmany : ¬ ((first :: second :: third :: rest).length = 2 ∧
              (first :: second :: third :: rest).all isScalar = true) := by simp
          dsimp only
          rw [if_neg hmany]
          rfl
      | null => rfl
      | bool b => rfl
      | number n => rfl
      | string t => rfl
      | object fields => rfl
    | _ => exact Decides.check

/-- A value that fits is taken by the clause, which then asks for nothing but the column. -/
theorem decides_clause {scope : Scope} {s : Snapshot} (hs : scope.snapshot? = some s) {f : Filter}
    (hfits : f.valueFits = true) (bound : Nat) :
    Decides (scope.columnRequirements s none f.columnText) (f.clause scope bound) := by
  have hcolumn := Scope.decides_resolve hs f.columnText
  rw [← List.append_nil (scope.columnRequirements s none f.columnText)]
  refine hcolumn.bind fun c _ => ?_
  unfold valueFits at hfits
  split at hfits
  · rename_i low high hop hvalue
    rw [Bool.and_eq_true, isScalar_iff, isScalar_iff] at hfits
    obtain ⟨⟨lowText, hlow⟩, highText, hhigh⟩ := hfits
    have hrange : f.range = .ok (lowText, highText) := by
      rw [range, hvalue]
      simp only [hlow, hhigh]
    rw [hop, hrange]
    rfl
  · cases hfits
  · rename_i hop _
    obtain ⟨text, htext⟩ := isScalar_iff.1 hfits
    cases hoperator : f.operator with
    | between => exact absurd hoperator hop
    | _ =>
      rw [htext]
      rfl

end Filter

namespace Request

variable {r : Request} {s : Snapshot}

/-- What is checked without the snapshot. -/
def validity (r : Request) : List (Requirement Refusal) :=
  [⟨!Text.allBlank r.table, .emptyTable⟩] ++
    (r.joins.map fun j => ⟨!Text.allBlank j.table, .emptyJoinTable⟩) ++
    r.filters.map Filter.requirement

theorem decides_validate (r : Request) : Decides r.validity r.validate := by
  unfold validity validate
  rw [List.append_assoc]
  cases Text.allBlank r.table with
  | true => rfl
  | false =>
    have hjoins : Decides (r.joins.map fun j => ⟨!Text.allBlank j.table, Refusal.emptyJoinTable⟩)
        (r.joins.forM fun j =>
          if Text.allBlank j.table then throw Refusal.emptyJoinTable else pure ()) := by
      refine Decides.forM fun j => ?_
      cases Text.allBlank j.table with
      | true => rfl
      | false => rfl
    exact hjoins.bind fun _ _ => Decides.forM Filter.decides_validate

end Request

/-! ## Joins -/

namespace JoinPlan

variable {s : Snapshot}

/-- What a join needs for its condition, behind some tables of which `previous` was joined last. -/
def linkRequirements (s : Snapshot) (scope : Scope) (previous : String) (j : Requested.Join) :
    List (Requirement Error) :=
  match j.kind, j.on with
  | .cross, _ => []
  | _, some on => (scope.add j.key).columnRequirements s none on.left ++
      (scope.add j.key).columnRequirements s (some j.key) on.right
  | _, none => [⟨(s.joinKey? previous j.key).isSome, .joinNotFound previous j.key⟩]

/-- What a join must satisfy. -/
def requirements (s : Snapshot) (scope : Scope) (previous : String) (j : Requested.Join) :
    List (Requirement Error) :=
  [⟨s.hasTable j.key, .unknownTable j.key⟩] ++ linkRequirements s scope previous j

/-- What joins must satisfy, each behind the tables joined before it. -/
def requirementsAll (s : Snapshot) : Scope → String → List Requested.Join → List (Requirement Error)
  | _, _, [] => []
  | scope, previous, j :: rest =>
    requirements s scope previous j ++ requirementsAll s (scope.add j.key) j.key rest

theorem decides_conditions {plan : JoinPlan} (hs : plan.scope.snapshot? = some s)
    (j : Requested.Join) :
    Decides (linkRequirements s plan.scope plan.previous j) (plan.conditions j j.key) := by
  have hadded : (plan.scope.add j.key).snapshot? = some s := by rw [Scope.snapshot?_add, hs]
  have hleft := Scope.decides_resolve hadded
  have hright := Scope.decides_resolveOn hadded j.key
  rw [j.lowercase_key] at hright
  unfold linkRequirements conditions
  rw [hs]
  cases j.kind with
  | cross => rfl
  | _ =>
    cases j.on with
    | some on => exact (hleft on.left).bind fun _ _ => (hright on.right).bind_ok
    | none =>
      dsimp only
      cases s.joinKey? plan.previous j.key with
      | none => rfl
      | some key => rfl

theorem decides_checkTable {scope : Scope} (hs : scope.snapshot? = some s) (table : String) :
    Decides [⟨s.hasTable table, .unknownTable table⟩] (checkTable scope table) := by
  rw [checkTable, hs]
  exact Decides.check

theorem decides_add {plan : JoinPlan} (hs : plan.scope.snapshot? = some s) (j : Requested.Join) :
    Decides (requirements s plan.scope plan.previous j) (plan.add j) :=
  (decides_checkTable hs j.key).bind fun _ _ => (decides_conditions hs j).bind_ok

theorem decides_foldlM {plan : JoinPlan} (hs : plan.scope.snapshot? = some s)
    (joins : List Requested.Join) :
    Decides (requirementsAll s plan.scope plan.previous joins) (joins.foldlM add plan) := by
  induction joins generalizing plan with
  | nil => exact Decides.ok plan
  | cons j rest ih =>
    rw [List.foldlM_cons, requirementsAll]
    refine (decides_add hs j).bind fun next hnext => ?_
    obtain ⟨_, conditions, _, hnew⟩ := add_eq_ok_iff.1 hnext
    have hscope : next.scope = plan.scope.add j.key := by rw [← hnew]
    have hprevious : next.previous = j.key := by rw [← hnew]
    rw [← hscope, ← hprevious]
    exact ih (by rw [hscope, Scope.snapshot?_add, hs])

end JoinPlan

/-! ## The request -/

/-- What a metric must satisfy. -/
def Metric.requirements (m : Metric) (scope : Scope) (s : Snapshot) : List (Requirement Error) :=
  if m.isStar then [⟨m.aggregation = .count, .validation (.starOnlyCounts m.text)⟩]
  else scope.columnRequirements s none m.column

theorem Metric.decides_expr {scope : Scope} {s : Snapshot} (hs : scope.snapshot? = some s)
    (m : Metric) : Decides (m.requirements scope s) (m.expr scope) := by
  unfold requirements expr
  cases m.isStar with
  | true =>
    rw [if_pos rfl, if_pos rfl, ← if_congr decide_eq_true_iff rfl rfl]
    exact Decides.check
  | false =>
    rw [if_neg Bool.false_ne_true, if_neg Bool.false_ne_true]
    exact (Scope.decides_resolve hs m.column).bind_ok

namespace Request

/-- The stages that can fail. -/
inductive Stage where
  | validation | root | joins | date | dimensions | metrics | filters | ranking
  deriving DecidableEq, Repr

/-- The stages in the order in which they are run. -/
def Stage.all : List Stage :=
  [.validation, .root, .joins, .date, .dimensions, .metrics, .filters, .ranking]

theorem Stage.mem_all (stage : Stage) : stage ∈ all := by
  cases stage <;> decide

/-- What each stage asks for. -/
def requirementsAt (r : Request) (s : Snapshot) : Stage → List (Requirement Error)
  | .validation => r.validity.map (Requirement.mapError .validation)
  | .root => [⟨s.hasTable r.root, .unknownTable r.root⟩]
  | .joins => JoinPlan.requirementsAll s ⟨r.root, [], some s⟩ r.root r.joins
  | .date =>
    match r.granularity.grain?, r.date? with
    | some _, some column => (r.scope (some s)).columnRequirements s (some r.root) column
    | _, _ => []
  | .dimensions => r.dimensions.flatMap ((r.scope (some s)).columnRequirements s none)
  | .metrics => r.metrics.flatMap (·.requirements (r.scope (some s)) s)
  | .filters => r.filters.flatMap fun f =>
    if f.isBlank then [] else (r.scope (some s)).columnRequirements s none f.columnText
  | .ranking =>
    match r.top, r.metrics with
    | some _, first :: _ =>
      if (r.ranking.getD first).aliasName ∈ r.metrics.map (·.aliasName) then []
      else (r.ranking.getD first).requirements (r.scope (some s)) s
    | _, _ => []

/-- All that must hold, in the order in which it is found out. -/
def requirements (r : Request) (s : Snapshot) : List (Requirement Error) :=
  Stage.all.flatMap (r.requirementsAt s)

variable {r : Request} {s : Snapshot}

theorem root_scope (r : Request) (snapshot? : Option Snapshot) :
    (r.scope snapshot?).root = r.root := by
  have hroot : ∀ (tables : List String) (scope : Scope),
      (tables.foldl Scope.add scope).root = scope.root := by
    intro tables
    induction tables with
    | nil => exact fun scope => rfl
    | cons table rest ih => exact fun scope => (ih _).trans (scope.grows_add table).root
  rw [scope, hroot, lowercase_root]

theorem decides_joins (r : Request) (s : Snapshot) :
    Decides (r.requirementsAt s .joins)
      (JoinPlan.ofRequested ⟨lowercase r.root, [], some s⟩ r.joins) := by
  have hstart : (JoinPlan.start ⟨r.root, [], some s⟩).scope.snapshot? = some s := rfl
  rw [lowercase_root]
  exact JoinPlan.decides_foldlM hstart r.joins

theorem decides_bucket? (r : Request) (s : Snapshot) :
    Decides (r.requirementsAt s .date) (r.bucket? (r.scope (some s))) := by
  have hdate := Scope.decides_resolveOn (r.snapshot?_scope (some s)) r.root
  rw [lowercase_root] at hdate
  unfold requirementsAt bucket?
  rw [root_scope]
  cases r.granularity.grain? with
  | none => rfl
  | some grain =>
    cases r.date? with
    | none => rfl
    | some column => exact (hdate column).bind_ok

theorem decides_dimensions (r : Request) (s : Snapshot) (date : Option Resolved) :
    Decides (r.requirementsAt s .dimensions)
      (r.dimensions.foldlM (addDimension (r.scope (some s)) date) []) := by
  refine Decides.foldlM (fun dims raw _ => ?_) []
  unfold addDimension
  rw [← List.append_nil (Scope.columnRequirements _ s none raw)]
  refine (Scope.decides_resolve (r.snapshot?_scope (some s)) raw).bind fun dim _ => ?_
  split
  · rfl
  · rfl

theorem decides_metrics (r : Request) (s : Snapshot) :
    Decides (r.requirementsAt s .metrics) (r.metrics.mapM (·.select (r.scope (some s)))) :=
  Decides.mapM fun m _ => (m.decides_expr (r.snapshot?_scope (some s))).bind_ok

/-- Values have been checked by the validation, so that the columns are all that can be wrong. -/
theorem decides_filters (hvalid : r.validate = .ok ()) (s : Snapshot) :
    Decides (r.requirementsAt s .filters) (Predicate.ofFilters (r.scope (some s)) r.filters) := by
  have hall := (decides_validate r).eq_ok_iff.1 ⟨(), hvalid⟩
  refine Decides.foldlM (fun p f hf => ?_) ({} : Predicate)
  have hfits : (f.isBlank || f.valueFits) = true :=
    hall f.requirement (List.mem_append_right _ (List.mem_map_of_mem hf))
  rw [Predicate.add]
  cases hblank : f.isBlank with
  | true => exact Decides.ok p
  | false =>
    rw [hblank, Bool.false_or] at hfits
    have hclause := Filter.decides_clause (r.snapshot?_scope (some s)) hfits p.params.length
    rw [if_neg Bool.false_ne_true, if_neg Bool.false_ne_true, ← List.append_nil
      (Scope.columnRequirements _ s none f.columnText)]
    exact hclause.bind fun ⟨clause, values⟩ _ => Decides.ok _

/-- The aliases of the selected items: dimensions have none. -/
theorem alias?_selectItems {scope : Scope} {dated : Option (Resolved × Bucket)}
    (hdated : r.bucket? scope = .ok dated) {metrics : List SelectItem}
    (hmetrics : r.metrics.mapM (·.select scope) = .ok metrics) (dims : List Resolved) :
    (selectItems (dated.map (·.2)) dims metrics).map (·.alias?) =
        r.periodNames.map some ++ dims.map (fun _ => none) ++
          (r.metrics.map (·.aliasName)).map some ∨
      selectItems (dated.map (·.2)) dims metrics = [standIn] ∧ r.metrics = [] := by
  have hnames := alias?_of_metrics hmetrics
  have hdims : (dims.map fun d => (⟨d.expr, none⟩ : SelectItem)).map (·.alias?) =
      dims.map fun _ => none := by
    rw [List.map_map]
    rfl
  obtain hitems | ⟨hitems, hempty⟩ := selectItems_cases (dated.map (·.2)) dims metrics
  · rw [hitems, List.map_append, List.map_append, alias?_of_bucket? hdated, hnames, hdims]
    exact .inl rfl
  · obtain ⟨_, rfl⟩ := List.append_eq_nil_iff.1 hempty
    exact .inr ⟨hitems, by simpa using hnames.symm⟩

/-- A metric is named in the result exactly if a selected metric has its name: the names of periods
are others. -/
theorem any_alias?_items {scope : Scope} {dated : Option (Resolved × Bucket)}
    (hdated : r.bucket? scope = .ok dated) {metrics : List SelectItem}
    (hmetrics : r.metrics.mapM (·.select scope) = .ok metrics) (dims : List Resolved)
    (hsome : r.metrics ≠ []) (m : Metric) :
    (selectItems (dated.map (·.2)) dims metrics).any (·.alias? == some m.aliasName) = true ↔
      m.aliasName ∈ r.metrics.map (·.aliasName) := by
  have hany : ∀ items : List SelectItem, items.any (·.alias? == some m.aliasName) = true ↔
      some m.aliasName ∈ items.map (·.alias?) := by
    intro items
    simp [List.any_eq_true, List.mem_map]
  rw [hany]
  obtain hitems | ⟨_, hempty⟩ := alias?_selectItems hdated hmetrics dims
  · have hperiod := r.aliasName_not_mem_periodNames m
    rw [hitems]
    simp [hperiod]
  · exact absurd hempty hsome

theorem decides_ranking {dated : Option (Resolved × Bucket)}
    (hdated : r.bucket? (r.scope (some s)) = .ok dated) {metrics : List SelectItem}
    (hmetrics : r.metrics.mapM (·.select (r.scope (some s))) = .ok metrics)
    (dims : List Resolved) (order : List Sql.OrderItem) :
    Decides (r.requirementsAt s .ranking)
      (r.rankedOrder (r.scope (some s)) (selectItems (dated.map (·.2)) dims metrics) order) := by
  have hitems := any_alias?_items hdated hmetrics dims
  rw [requirementsAt, rankedOrder]
  cases r.top with
  | none => exact Decides.ok _
  | some n =>
    cases hlist : r.metrics with
    | nil => exact Decides.ok _
    | cons first rest =>
      have hranking := hitems (by simp [hlist]) (r.ranking.getD first)
      rw [hlist] at hranking
      refine Decides.bind_ok ?_
      dsimp only
      rw [rankingOrder]
      by_cases hselected : (r.ranking.getD first).aliasName ∈ (first :: rest).map (·.aliasName)
      · rw [if_pos hselected, if_pos (hranking.2 hselected)]
        exact Decides.ok _
      · rw [if_neg hselected, if_neg (mt hranking.1 hselected)]
        exact (Metric.decides_expr (r.snapshot?_scope (some s)) _).bind_ok

theorem compile_decided (r : Request) (s : Snapshot) :
    Decides (r.requirements s) (r.compile (some s)) := by
  unfold requirements compile
  simp only [Stage.all, List.flatMap_cons, List.flatMap_nil]
  refine ((decides_validate r).mapError Error.validation).bind fun _ hvalid => ?_
  rw [mapError_eq_ok] at hvalid
  have hroot : (⟨r.root, [], some s⟩ : Scope).snapshot? = some s := rfl
  refine (JoinPlan.decides_checkTable hroot r.root).bind fun _ _ => ?_
  refine (decides_joins r s).bind fun plan hplan => ?_
  have hscope : plan.scope = r.scope (some s) := by
    rw [JoinPlan.scope_foldlM hplan, scope]
    rfl
  rw [hscope]
  refine (decides_bucket? r s).bind fun dated hdated => ?_
  refine (decides_dimensions r s _).bind fun dims _ => ?_
  refine (decides_metrics r s).bind fun metrics hmetrics => ?_
  refine (decides_filters hvalid s).bind fun predicate _ => ?_
  exact (decides_ranking hdated hmetrics dims _).bind fun _ _ => Decides.ok _

end Request

/-! ## What a request must say -/

namespace Snapshot

/-- A text refers to a column of one of some tables; a bare name may be meant for a given table. -/
def Finds (s : Snapshot) (tables : List String) (table? : Option String) (raw : String) : Prop :=
  ∃ ref, ColumnRef.parse raw = .ok ref ∧
    match ref.table.or table? with
    | some table => table ∈ tables ∧ s.hasColumn table ref.column = true
    | none => ∃ table ∈ tables, s.hasColumn table ref.column = true

/-- A join is possible behind some tables, of which `previous` was joined last. -/
structure Joins (s : Snapshot) (tables : List String) (previous : String) (j : Requested.Join) :
    Prop where
  table : s.hasTable j.key = true
  found : j.kind ≠ .cross → j.on = none → (s.joinKey? previous j.key).isSome = true
  left : ∀ on, j.kind ≠ .cross → j.on = some on → s.Finds (tables ++ [j.key]) none on.left
  right : ∀ on, j.kind ≠ .cross → j.on = some on →
    s.Finds (tables ++ [j.key]) (some j.key) on.right

/-- A metric counts rows, or is about a column of one of some tables. -/
def Measures (s : Snapshot) (tables : List String) (m : Metric) : Prop :=
  if m.isStar then m.aggregation = .count else s.Finds tables none m.column

variable {s : Snapshot}

theorem finds_congr {tables tables' : List String} (h : ∀ t, t ∈ tables ↔ t ∈ tables')
    (table? : Option String) (raw : String) :
    s.Finds tables table? raw ↔ s.Finds tables' table? raw := by
  simp only [Finds, h]

theorem finds_iff {scope : Scope} {table? : Option String} {raw : String} :
    (∀ q ∈ scope.columnRequirements s table? raw, q.holds = true) ↔
      s.Finds scope.tables table? raw := by
  unfold Finds Scope.columnRequirements
  cases ColumnRef.parse raw with
  | error refusal => simp
  | ok ref =>
    simp only [Scope.referenceRequirements, Except.ok.injEq, exists_eq_left']
    cases ref.table.or table? with
    | some table => simp
    | none => simp

theorem measures_iff {scope : Scope} {m : Metric} :
    (∀ q ∈ m.requirements scope s, q.holds = true) ↔ s.Measures scope.tables m := by
  unfold Measures Metric.requirements
  cases m.isStar with
  | true => simp
  | false =>
    rw [if_neg Bool.false_ne_true, if_neg Bool.false_ne_true]
    exact finds_iff

end Snapshot

namespace JoinPlan

variable {s : Snapshot}

theorem mem_tables_add_key_iff {scope : Scope} (j : Requested.Join) (table : String) :
    table ∈ (scope.add j.key).tables ↔ table ∈ scope.tables ++ [j.key] := by
  rw [Scope.mem_tables_add, j.lowercase_key, List.mem_append, List.mem_singleton]

theorem joins_iff {scope : Scope} {tables : List String} (h : ∀ t, t ∈ scope.tables ↔ t ∈ tables)
    (previous : String) (j : Requested.Join) :
    (∀ q ∈ requirements s scope previous j, q.holds = true) ↔ s.Joins tables previous j := by
  have hfinds : ∀ table? raw,
      (∀ q ∈ (scope.add j.key).columnRequirements s table? raw, q.holds = true) ↔
        s.Finds (tables ++ [j.key]) table? raw := by
    intro table? raw
    rw [Snapshot.finds_iff]
    refine Snapshot.finds_congr (fun t => ?_) table? raw
    rw [mem_tables_add_key_iff, List.mem_append, List.mem_append, h]
  have hlink : (∀ q ∈ linkRequirements s scope previous j, q.holds = true) ↔
      (j.kind ≠ .cross → j.on = none → (s.joinKey? previous j.key).isSome = true) ∧
      ∀ on, j.kind ≠ .cross → j.on = some on → s.Finds (tables ++ [j.key]) none on.left ∧
        s.Finds (tables ++ [j.key]) (some j.key) on.right := by
    unfold linkRequirements
    cases j.kind with
    | cross => simp
    | _ =>
      cases j.on with
      | none => simp
      | some on => simp only [List.forall_mem_append, hfinds]; simp
  rw [requirements, List.forall_mem_append, List.forall_mem_singleton, hlink]
  constructor
  · rintro ⟨htable, hfound, hsides⟩
    exact ⟨htable, hfound, fun on hkind hon => (hsides on hkind hon).1,
      fun on hkind hon => (hsides on hkind hon).2⟩
  · rintro ⟨htable, hfound, hleft, hright⟩
    exact ⟨htable, hfound, fun on hkind hon => ⟨hleft on hkind hon, hright on hkind hon⟩⟩

/-- Each join is behind the root and the joins before it. -/
theorem joinsAll_iff {scope : Scope} {tables : List String}
    (h : ∀ t, t ∈ scope.tables ↔ t ∈ tables) (previous : String) (joins : List Requested.Join) :
    (∀ q ∈ requirementsAll s scope previous joins, q.holds = true) ↔
      ∀ before j after, joins = before ++ j :: after →
        s.Joins (tables ++ before.map (·.key)) ((before.map (·.key)).getLastD previous) j := by
  induction joins generalizing scope tables previous with
  | nil => simp [requirementsAll]
  | cons first rest ih =>
    have hadd : ∀ t, t ∈ (scope.add first.key).tables ↔ t ∈ tables ++ [first.key] := by
      intro t
      rw [mem_tables_add_key_iff, List.mem_append, List.mem_append, h]
    have hshift : ∀ before : List Requested.Join,
        tables ++ [first.key] ++ before.map (·.key) = tables ++ (first :: before).map (·.key) ∧
        (before.map (·.key)).getLastD first.key =
          ((first :: before).map (·.key)).getLastD previous := by
      intro before
      rw [List.map_cons, List.getLastD_cons, List.append_assoc, List.singleton_append]
      exact ⟨rfl, rfl⟩
    rw [requirementsAll, List.forall_mem_append, joins_iff h, ih hadd]
    constructor
    · rintro ⟨hfirst, hrest⟩ before j after heq
      cases before with
      | nil =>
        obtain ⟨rfl, rfl⟩ := List.cons.inj heq
        rw [List.map_nil, List.append_nil]
        exact hfirst
      | cons b before =>
        rw [List.cons_append] at heq
        obtain ⟨rfl, htail⟩ := List.cons.inj heq
        rw [← (hshift before).1, ← (hshift before).2]
        exact hrest before j after htail
    · intro hall
      have hfirst := hall [] first rest rfl
      rw [List.map_nil, List.append_nil] at hfirst
      refine ⟨hfirst, fun before j after heq => ?_⟩
      rw [(hshift before).1, (hshift before).2]
      exact hall (first :: before) j after (by rw [heq, List.cons_append])

end JoinPlan

namespace Request

/-- What a request must say for a stage to succeed. -/
def Fulfils (r : Request) (s : Snapshot) : Stage → Prop
  | .validation => r.validate = .ok ()
  | .root => s.hasTable r.root = true
  | .joins => ∀ before j after, r.joins = before ++ j :: after →
      s.Joins (r.root :: before.map (·.key)) ((before.map (·.key)).getLastD r.root) j
  | .date => ∀ column, r.granularity ≠ .asIs → r.date? = some column →
      s.Finds r.tableKeys (some r.root) column
  | .dimensions => ∀ raw ∈ r.dimensions, s.Finds r.tableKeys none raw
  | .metrics => ∀ m ∈ r.metrics, s.Measures r.tableKeys m
  | .filters => ∀ f ∈ r.filters, f.isBlank = false → s.Finds r.tableKeys none f.columnText
  | .ranking => ∀ n first rest, r.top = some n → r.metrics = first :: rest →
      (r.ranking.getD first).aliasName ∉ r.metrics.map (·.aliasName) →
      s.Measures r.tableKeys (r.ranking.getD first)

variable {r : Request} {s : Snapshot}

/-- The metric that ranks is looked at only if there is something to rank, and only if none that is
selected has its name. -/
theorem ranking_iff {measured : Metric → Prop}
    (hmeasures : ∀ m : Metric,
      (∀ q ∈ m.requirements (r.scope (some s)) s, q.holds = true) ↔ measured m) :
    (∀ q ∈ r.requirementsAt s .ranking, q.holds = true) ↔
      ∀ n first rest, r.top = some n → r.metrics = first :: rest →
        (r.ranking.getD first).aliasName ∉ r.metrics.map (·.aliasName) →
        measured (r.ranking.getD first) := by
  rw [requirementsAt]
  cases r.top with
  | none => simp
  | some n =>
    cases r.metrics with
    | nil => simp
    | cons first rest =>
      dsimp only
      constructor
      · rintro h n' first' rest' - heq hselected
        obtain ⟨rfl, rfl⟩ := List.cons.inj heq
        rw [if_neg hselected, hmeasures] at h
        exact h
      · intro h
        by_cases hselected : (r.ranking.getD first).aliasName ∈
            (first :: rest).map (·.aliasName)
        · rw [if_pos hselected]
          exact fun q hq => absurd hq List.not_mem_nil
        · rw [if_neg hselected, hmeasures]
          exact h n first rest rfl rfl hselected

theorem fulfils_iff (stage : Stage) :
    (∀ q ∈ r.requirementsAt s stage, q.holds = true) ↔ r.Fulfils s stage := by
  have hfinds : ∀ table? raw,
      (∀ q ∈ (r.scope (some s)).columnRequirements s table? raw, q.holds = true) ↔
        s.Finds r.tableKeys table? raw := fun table? raw =>
    Snapshot.finds_iff.trans (Snapshot.finds_congr (fun _ => mem_scope_iff) table? raw)
  have hmeasures : ∀ m : Metric,
      (∀ q ∈ m.requirements (r.scope (some s)) s, q.holds = true) ↔
        s.Measures r.tableKeys m := by
    intro m
    rw [Snapshot.measures_iff, Snapshot.Measures, Snapshot.Measures,
      Snapshot.finds_congr fun _ => mem_scope_iff]
  cases stage with
  | validation =>
    have hdecided := ((decides_validate r).mapError Error.validation).eq_ok_iff
    rw [requirementsAt, ← hdecided, Fulfils]
    simp only [mapError_eq_ok]
    exact ⟨fun ⟨(), h⟩ => h, fun h => ⟨(), h⟩⟩
  | root => rw [requirementsAt, List.forall_mem_singleton, Fulfils]
  | joins =>
    have htables : ∀ t, t ∈ (⟨r.root, [], some s⟩ : Scope).tables ↔ t ∈ [r.root] := fun t => Iff.rfl
    rw [requirementsAt, JoinPlan.joinsAll_iff htables, Fulfils]
    rfl
  | date =>
    rw [requirementsAt, Fulfils]
    cases r.granularity with
    | asIs => simp [Granularity.grain?]
    | _ =>
      cases r.date? with
      | none => simp
      | some column => simp only [Granularity.grain?, hfinds]; simp
  | dimensions =>
    rw [requirementsAt, Fulfils, List.forall_mem_flatMap]
    simp only [hfinds]
  | metrics =>
    rw [requirementsAt, Fulfils, List.forall_mem_flatMap]
    simp only [hmeasures]
  | filters =>
    rw [requirementsAt, Fulfils, List.forall_mem_flatMap]
    refine forall₂_congr fun f _ => ?_
    cases f.isBlank with
    | true => simp
    | false => simp [hfinds]
  | ranking => exact ranking_iff hmeasures

theorem fulfils_of_compile {st : Statement} (h : r.compile (some s) = .ok st) (stage : Stage) :
    r.Fulfils s stage := by
  have hall := (compile_decided r s).eq_ok_iff.1 ⟨st, h⟩
  rw [requirements, List.forall_mem_flatMap] at hall
  exact (fulfils_iff stage).1 (hall stage (Stage.mem_all stage))

/-- A request compiles exactly if it fulfils every stage, and else fails with the error of the first
stage that it does not fulfil.  Values of filters are no concern of any stage but the validation:
a finished filter that has passed it makes a clause wherever its column is found. -/
theorem compiles_iff (r : Request) (s : Snapshot) :
    ((∃ st, r.compile (some s) = .ok st) ↔ ∀ stage, r.Fulfils s stage) ∧
    (∀ e, r.compile (some s) = .error e ↔ ∃ before stage after,
      Stage.all = before ++ stage :: after ∧ (∀ earlier ∈ before, r.Fulfils s earlier) ∧
      ¬ r.Fulfils s stage ∧ Requirement.firstUnmet (r.requirementsAt s stage) = some e) ∧
    ∀ f : Filter, f.validate = .ok () → f.isBlank = false → ∀ bound,
      (∃ clause, f.clause (r.scope (some s)) bound = .ok clause) ↔
        s.Finds r.tableKeys none f.columnText := by
  have hdecided := compile_decided r s
  have hnone : ∀ stage, Requirement.firstUnmet (r.requirementsAt s stage) = none ↔
      r.Fulfils s stage := fun stage =>
    Requirement.firstUnmet_eq_none_iff.trans (fulfils_iff stage)
  refine ⟨?_, fun e => ?_, fun f hvalid hblank bound => ?_⟩
  · rw [hdecided.eq_ok_iff, requirements, List.forall_mem_flatMap]
    simp only [fulfils_iff]
    exact ⟨fun h stage => h stage (Stage.mem_all stage), fun h stage _ => h stage⟩
  · rw [hdecided.eq_error_iff, requirements, Requirement.firstUnmet_flatMap_iff]
    simp only [hnone]
    refine exists_congr fun before => exists_congr fun stage => exists_congr fun after => ?_
    refine and_congr_right fun _ => and_congr_right fun _ => (and_iff_right_of_imp fun h => ?_).symm
    rw [← hnone, h]
    exact Option.some_ne_none e
  · have hmet := f.decides_validate.eq_ok_iff.1 ⟨(), hvalid⟩
    have hfits : (f.isBlank || f.valueFits) = true := hmet f.requirement List.mem_cons_self
    rw [hblank, Bool.false_or] at hfits
    rw [(f.decides_clause (r.snapshot?_scope (some s)) hfits bound).eq_ok_iff, Snapshot.finds_iff,
      Snapshot.finds_congr fun _ => mem_scope_iff]

/-- The order with its customer fulfils every stage, and its filter makes a clause. -/
theorem orderWithCustomer_fulfils :
    (∀ stage, orderWithCustomer.Fulfils shopCatalog stage) ∧
    ∀ f ∈ orderWithCustomer.filters,
      ∃ clause, f.clause (orderWithCustomer.scope (some shopCatalog)) 0 = .ok clause := by
  obtain ⟨hcompiles, _, hclauses⟩ := compiles_iff orderWithCustomer shopCatalog
  obtain ⟨st, hst, _⟩ := bareColumns_orderWithCustomer
  have hall := hcompiles.1 ⟨st, hst⟩
  refine ⟨hall, List.forall_mem_singleton.2 ?_⟩
  exact (hclauses _ (by decide) (by decide) 0).2 (hall .filters _ List.mem_cons_self (by decide))

/-- Orders beside all customers; the two columns that are to agree are in no table. -/
def ordersBesideCustomers : Request where
  table := "orders"
  dimensions := ["name"]
  joins := [{ table := "customers", kind := .cross, on := some ⟨"nope.x", "y"⟩ }]

/-- A cross join has no condition, so nobody looks at columns that are to agree. -/
theorem on_of_cross_unread :
    ¬ ∀ (r : Request) (s : Snapshot), (∃ st, r.compile (some s) = .ok st) →
      ∀ before j after on, r.joins = before ++ j :: after → j.on = some on →
        s.Finds (r.root :: before.map (·.key) ++ [j.key]) none on.left ∧
        s.Finds (r.root :: before.map (·.key) ++ [j.key]) (some j.key) on.right := by
  intro hall
  have hok : (ordersBesideCustomers.compile (some shopCatalog)).toOption.isSome = true := by
    decide +kernel
  obtain ⟨st, hst⟩ := Option.isSome_iff_exists.1 hok
  obtain ⟨⟨ref, hparse, hfinds⟩, _⟩ := hall ordersBesideCustomers shopCatalog
    ⟨st, toOption_eq_some.1 hst⟩ [] _ [] ⟨"nope.x", "y"⟩ rfl rfl
  have hread : ColumnRef.parse "nope.x" = .ok ⟨some "nope", "x"⟩ := by decide +kernel
  rw [hread] at hparse
  obtain rfl := Except.ok.inj hparse
  have hnone : "nope" ∉ [ordersBesideCustomers.root, "customers"] := by decide +kernel
  exact hnone hfinds.1

end Request
end Granary
