import Granary.Proofs.Compile.Reference
import Granary.Proofs.Text.Part
import Mathlib.Data.List.Forall2

/-!
# The letter case of names

A request may write the names of tables and columns in any letter case.  Two requests whose names
have the same parts in lower case compile to the same statement, or fail with the same error but for
the words that a refusal quotes.

The two compilations are run side by side.  A name comes in as the request writes it in three
places only: where it is checked for being blank, where it is put in lower case, and where a refusal
quotes it.  So one lemma a stage says that the stage does the same up to what it quotes.
-/

namespace Granary

open Outcome
open Text (lowercase trim allBlank parts)

/-! ## What refusals quote -/

/-- A refusal without the column that it quotes as the request writes it. -/
def Refusal.unquoted : Refusal → Refusal
  | .betweenWantsTwo _ => .betweenWantsTwo ""
  | .betweenWantsPair _ => .betweenWantsPair ""
  | .wantsSingleValue _ => .wantsSingleValue ""
  | .badColumnReference _ => .badColumnReference ""
  | refusal => refusal

/-- An error without the words of the request that it quotes.  Errors other than refusals name
tables and columns in lower case and stay as they are. -/
def Error.unquoted : Error → Error
  | .validation refusal => .validation refusal.unquoted
  | error => error

theorem unquoted_validation {α : Type} {x y : Except Refusal α}
    (h : x.mapError Refusal.unquoted = y.mapError Refusal.unquoted) :
    (x.mapError Error.validation).mapError Error.unquoted =
      (y.mapError Error.validation).mapError Error.unquoted := by
  have hswap : ∀ z : Except Refusal α, (z.mapError Error.validation).mapError Error.unquoted =
      (z.mapError Refusal.unquoted).mapError Error.validation := fun z => by
    rw [mapError_mapError, mapError_mapError]
    rfl
  rw [hswap, hswap, h]

/-! ## References -/

namespace ColumnRef

/-- The parts of a reference, which are separated by points, each as it is looked up. -/
def nameParts (raw : String) : List String :=
  (parts '.' raw.toList).map fun part => lowercase (trim (String.ofList part))

/-- The parts of a reference in lower case, with the blanks around them. -/
def lowerParts (raw : String) : List String :=
  (parts '.' raw.toList).map fun part => lowercase (String.ofList part)

theorem nameParts_eq (raw : String) : nameParts raw =
    ((parts '.' raw.toList).map Text.trimChars).map fun part => lowercase (String.ofList part) := by
  rw [nameParts, List.map_map]
  refine List.map_congr_left fun part _ => ?_
  rw [trim, String.toList_ofList, Function.comp_apply]

theorem nameParts_trim (raw : String) : nameParts (trim raw) = nameParts raw := by
  rw [nameParts_eq, nameParts_eq, trim, String.toList_ofList, Text.map_trimChars_parts (by decide)]

/-- Parts that are equal in lower case are looked up alike. -/
theorem nameParts_congr {raw raw' : String} (h : lowerParts raw = lowerParts raw') :
    nameParts raw = nameParts raw' := by
  have htrim : ∀ raw, nameParts raw = (lowerParts raw).map trim := by
    intro raw
    rw [nameParts, lowerParts, List.map_map]
    exact List.map_congr_left fun part _ => Text.lowercase_trim _
  rw [htrim, htrim, h]

/-- A text with no point has one part. -/
theorem nameParts_of_not_mem {raw : String} (h : '.' ∉ raw.toList) :
    nameParts raw = [lowercase (trim raw)] := by
  rw [nameParts, Text.parts_of_not_mem h, List.map_singleton, String.ofList_toList]

/-- A text with a point has more than one part. -/
theorem exists_nameParts_of_mem {raw : String} (h : '.' ∈ raw.toList) :
    ∃ first second others, nameParts raw = first :: second :: others := by
  cases hcut : Text.cutAt ['.'] raw.toList with
  | none => exact absurd h (Text.cutAt_singleton_eq_none_iff.1 hcut)
  | some cut =>
    obtain ⟨second, others, hothers⟩ := List.exists_cons_of_ne_nil (Text.parts_ne_nil '.' cut.2)
    rw [nameParts, Text.parts_of_cutAt hcut, hothers]
    exact ⟨_, _, _, rfl⟩

theorem allBlank_iff_nameParts {raw : String} : allBlank raw = true ↔ nameParts raw = [""] := by
  constructor
  · intro h
    have hfree : '.' ∉ raw.toList := fun hmem => by
      have hpoint := List.all_eq_true.1 h _ hmem
      exact absurd hpoint (by decide)
    rw [nameParts_of_not_mem hfree, Text.allBlank_iff.1 h]
    rfl
  · intro h
    by_cases hmem : '.' ∈ raw.toList
    · obtain ⟨first, second, others, hparts⟩ := exists_nameParts_of_mem hmem
      rw [hparts] at h
      cases h
    · rw [nameParts_of_not_mem hmem, List.cons.injEq, Text.lowercase_eq_empty_iff] at h
      exact Text.allBlank_iff.2 h.1

/-- The reference with the given parts. -/
def ofParts : List String → Option ColumnRef
  | [column] => if column = "" then none else some ⟨none, column⟩
  | [table, column] => if table = "" ∨ column = "" then none else some ⟨some table, column⟩
  | _ => none

theorem lowercase_isEmpty (s : String) : s.isEmpty = decide (lowercase s = "") := by
  rw [Bool.eq_iff_iff, String.isEmpty_iff, decide_eq_true_eq, Text.lowercase_eq_empty_iff]

/-- A reference is read from its parts. -/
theorem parse_eq (raw : String) : parse raw = match ofParts (nameParts raw) with
    | some ref => .ok ref
    | none => .error (.badColumnReference (trim raw)) := by
  rw [← nameParts_trim, parse]
  have htrim : trim (trim raw) = trim raw := Text.trim_trim raw
  generalize trim raw = name at htrim
  have hpoint : ".".toList = ['.'] := rfl
  simp only [Text.cut, hpoint]
  cases hcut : Text.cutAt ['.'] name.toList with
  | none =>
    rw [nameParts_of_not_mem (Text.cutAt_singleton_eq_none_iff.1 hcut), htrim]
    by_cases hempty : lowercase name = ""
    · simp [ofParts, lowercase_isEmpty, hempty]
    · simp [ofParts, lowercase_isEmpty, hempty]
  | some cut =>
    obtain ⟨table, column⟩ := cut
    have hparts : nameParts name = lowercase (trim (String.ofList table)) ::
        nameParts (String.ofList column) := by
      rw [nameParts, Text.parts_of_cutAt hcut, List.map_cons, nameParts, String.toList_ofList]
    rw [hparts, ← nameParts_trim]
    have hcolumn : trim (trim (String.ofList column)) = trim (String.ofList column) :=
      Text.trim_trim _
    simp only [Option.map_some]
    generalize trim (String.ofList table) = tableName
    generalize trim (String.ofList column) = columnName at hcolumn
    by_cases hmem : '.' ∈ columnName.toList
    · obtain ⟨first, second, others, hothers⟩ := exists_nameParts_of_mem hmem
      simp [ofParts, hothers, hmem]
    · rw [nameParts_of_not_mem hmem, hcolumn]
      by_cases htableEmpty : lowercase tableName = ""
      · simp [ofParts, lowercase_isEmpty, htableEmpty]
      · by_cases hcolumnEmpty : lowercase columnName = ""
        · simp [ofParts, lowercase_isEmpty, hcolumnEmpty]
        · simp [ofParts, lowercase_isEmpty, hmem, htableEmpty, hcolumnEmpty]

/-- Both are refused, or both are read alike. -/
theorem parse_congr {raw raw' : String} (h : nameParts raw = nameParts raw') :
    (parse raw).mapError Refusal.unquoted = (parse raw').mapError Refusal.unquoted := by
  rw [parse_eq, parse_eq, h]
  cases ofParts (nameParts raw') with
  | none => rfl
  | some ref => rfl

end ColumnRef

/-- Two references to one column, in any letter case. -/
def SameReference (raw raw' : String) : Prop := ColumnRef.nameParts raw = ColumnRef.nameParts raw'

instance (raw raw' : String) : Decidable (SameReference raw raw') :=
  inferInstanceAs (Decidable (_ = _))

theorem SameReference.allBlank {raw raw' : String} (h : SameReference raw raw') :
    allBlank raw = allBlank raw' := by
  rw [Bool.eq_iff_iff, ColumnRef.allBlank_iff_nameParts, ColumnRef.allBlank_iff_nameParts, h]

namespace Scope

variable {raw raw' : String}

theorem resolve_congr (h : SameReference raw raw') (s : Scope) :
    (s.resolve raw).mapError Error.unquoted = (s.resolve raw').mapError Error.unquoted :=
  mapError_bind_congr (unquoted_validation (ColumnRef.parse_congr h)) fun _ => rfl

theorem resolveOn_congr (h : SameReference raw raw') (s : Scope) (table : String) :
    (s.resolveOn table raw).mapError Error.unquoted =
      (s.resolveOn table raw').mapError Error.unquoted :=
  mapError_bind_congr (unquoted_validation (ColumnRef.parse_congr h)) fun _ => rfl

end Scope

/-! ## Joins -/

/-- Two names of one table, in any letter case. -/
abbrev SameTable (name name' : String) : Prop := lowercase (trim name) = lowercase (trim name')

theorem rel_mono {α : Type} {related related' : α → α → Prop}
    (h : ∀ a b, related a b → related' a b) {x y : Option α} (hxy : Option.Rel related x y) :
    Option.Rel related' x y := by
  cases hxy with
  | none => exact .none
  | some hab => exact .some (h _ _ hab)

namespace Requested

/-- Two conditions that differ at most in their references, which are related. -/
structure JoinOn.Renamed (reference : String → String → Prop) (on on' : JoinOn) : Prop where
  left : reference on.left on'.left
  right : reference on.right on'.right

/-- Two joins that differ at most in their names, which are related. -/
structure Join.Renamed (named reference : String → String → Prop) (join join' : Join) : Prop where
  table : named join.table join'.table
  kind : join.kind = join'.kind
  on : Option.Rel (JoinOn.Renamed reference) join.on join'.on

theorem Join.Renamed.mono {named named' reference reference' : String → String → Prop}
    (hnamed : ∀ a b, named a b → named' a b) (hreference : ∀ a b, reference a b → reference' a b)
    {join join' : Join} (h : join.Renamed named reference join') :
    join.Renamed named' reference' join' where
  table := hnamed _ _ h.table
  kind := h.kind
  on := rel_mono (fun _ _ hon => ⟨hreference _ _ hon.left, hreference _ _ hon.right⟩) h.on

/-- Two joins that differ at most in the letter case of names. -/
abbrev Join.Recased : Join → Join → Prop := Join.Renamed SameTable SameReference

end Requested

theorem allBlank_iff_lowercase {name : String} :
    allBlank name = true ↔ lowercase (trim name) = "" := by
  rw [Text.lowercase_eq_empty_iff, Text.allBlank_iff]

theorem allBlank_congr {name name' : String} (h : lowercase (trim name) = lowercase (trim name')) :
    allBlank name = allBlank name' := by
  rw [Bool.eq_iff_iff, allBlank_iff_lowercase, allBlank_iff_lowercase, h]

/-- Names that are equal in lower case are looked up alike. -/
theorem lowercase_trim_congr {name name' : String} (h : lowercase name = lowercase name') :
    SameTable name name' := by
  rw [SameTable, Text.lowercase_trim, h, Text.lowercase_trim]

namespace JoinPlan

theorem conditions_congr {join join' : Requested.Join} (h : join.Recased join') (plan : JoinPlan)
    (table : String) : (plan.conditions join table).mapError Error.unquoted =
      (plan.conditions join' table).mapError Error.unquoted := by
  unfold conditions
  rw [← h.kind]
  have hon := h.on
  generalize join.kind = kind, join.on = on, join'.on = on' at hon
  cases hon with
  | none => rfl
  | some hsides =>
    cases kind with
    | cross => rfl
    | _ =>
      refine mapError_bind_congr (Scope.resolve_congr hsides.left _) fun left => ?_
      exact mapError_bind_congr (Scope.resolveOn_congr hsides.right _ table) fun right => rfl

theorem add_congr {join join' : Requested.Join} (h : join.Recased join') (plan : JoinPlan) :
    (plan.add join).mapError Error.unquoted = (plan.add join').mapError Error.unquoted := by
  unfold add
  rw [h.table, h.kind]
  refine mapError_bind_same fun _ => ?_
  exact mapError_bind_congr (conditions_congr h plan _) fun _ => rfl

theorem ofRequested_congr {joins joins' : List Requested.Join}
    (h : List.Forall₂ Requested.Join.Recased joins joins') (scope : Scope) :
    (ofRequested scope joins).mapError Error.unquoted =
      (ofRequested scope joins').mapError Error.unquoted := by
  unfold ofRequested
  refine mapError_foldlM_congr (fun plan join join' hjoin => ?_) h _
  exact add_congr hjoin plan

end JoinPlan

/-! ## Filters -/

namespace Filter

/-- Two filters that differ at most in the column, where they have related ones. -/
structure Renamed (reference : String → String → Prop) (f g : Filter) : Prop where
  column : Option.Rel reference f.column g.column
  operator : f.operator = g.operator
  value : f.value = g.value
  logic : f.logic = g.logic
  mode : f.mode = g.mode

theorem Renamed.mono {reference reference' : String → String → Prop}
    (hreference : ∀ a b, reference a b → reference' a b) {f g : Filter}
    (h : f.Renamed reference g) : f.Renamed reference' g :=
  { h with column := rel_mono hreference h.column }

/-- Two filters that differ at most in the letter case of the column. -/
abbrev Recased : Filter → Filter → Prop := Renamed SameReference

variable {f g : Filter}

theorem Recased.columnText (h : f.Recased g) : SameReference f.columnText g.columnText := by
  have hcolumn := h.column
  unfold Filter.columnText
  generalize f.column = column, g.column = column' at hcolumn
  cases hcolumn with
  | none => rfl
  | some hsame => exact hsame

theorem Recased.isBlank (h : f.Recased g) : f.isBlank = g.isBlank := by
  have hcolumn := h.column
  unfold Filter.isBlank
  rw [h.value]
  generalize f.column = column, g.column = column' at hcolumn
  cases hcolumn with
  | none => rfl
  | some hsame => rw [Option.map_some, Option.map_some, hsame.allBlank]

theorem Recased.validate (h : f.Recased g) :
    f.validate.mapError Refusal.unquoted = g.validate.mapError Refusal.unquoted := by
  unfold Filter.validate
  rw [h.isBlank, h.operator, h.value]
  split
  · rfl
  · split
    · split
      · rfl
      · rfl
    · rfl
    · split
      · rfl
      · rfl

theorem Recased.range (h : f.Recased g) :
    f.range.mapError Refusal.unquoted = g.range.mapError Refusal.unquoted := by
  unfold Filter.range
  rw [h.value]
  split
  · split
    · rfl
    · rfl
  · rfl

theorem Recased.clause (h : f.Recased g) (scope : Scope) (bound : Nat) :
    (f.clause scope bound).mapError Error.unquoted =
      (g.clause scope bound).mapError Error.unquoted := by
  unfold Filter.clause
  rw [h.operator, h.value, h.mode]
  refine mapError_bind_congr (scope.resolve_congr h.columnText) fun column => ?_
  split
  · exact mapError_bind_congr (unquoted_validation h.range) fun _ => rfl
  · split
    · rfl
    · rfl

end Filter

namespace Predicate

theorem add_congr {f g : Filter} (h : f.Recased g) (scope : Scope) (p : Predicate) :
    (p.add scope f).mapError Error.unquoted = (p.add scope g).mapError Error.unquoted := by
  unfold add
  rw [h.isBlank, h.logic]
  split
  · rfl
  · exact mapError_bind_congr (h.clause scope _) fun _ => rfl

theorem ofFilters_congr {fs gs : List Filter} (h : List.Forall₂ Filter.Recased fs gs)
    (scope : Scope) : (ofFilters scope fs).mapError Error.unquoted =
      (ofFilters scope gs).mapError Error.unquoted := by
  unfold ofFilters
  refine mapError_foldlM_congr (fun p f g hfg => ?_) h _
  exact add_congr hfg scope p

end Predicate

/-! ## Requests -/

namespace Request

/-- Two requests that differ at most in the names of tables and columns, which are related.  Metrics
are the same to the letter, since results are named after them. -/
structure Renamed (named reference : String → String → Prop) (r r' : Request) : Prop where
  table : named r.table r'.table
  dimensions : List.Forall₂ reference r.dimensions r'.dimensions
  metrics : r.metrics = r'.metrics
  joins : List.Forall₂ (Requested.Join.Renamed named reference) r.joins r'.joins
  filters : List.Forall₂ (Filter.Renamed reference) r.filters r'.filters
  granularity : r.granularity = r'.granularity
  dateColumn : Option.Rel reference r.dateColumn r'.dateColumn
  dateFilter : Option.Rel (Option.Rel reference) r.dateFilter r'.dateFilter
  top : r.top = r'.top
  ranking : r.ranking = r'.ranking
  display : r.display = r'.display

/-- Two requests that differ at most in the letter case of the names of tables and columns. -/
abbrev Recased : Request → Request → Prop := Renamed SameTable SameReference

variable {r r' : Request}

theorem Renamed.mono {named named' reference reference' : String → String → Prop}
    (hnamed : ∀ a b, named a b → named' a b) (hreference : ∀ a b, reference a b → reference' a b)
    (h : r.Renamed named reference r') : r.Renamed named' reference' r' :=
  { h with
    table := hnamed _ _ h.table
    dimensions := h.dimensions.imp hreference
    joins := h.joins.imp fun _ _ hjoin => hjoin.mono hnamed hreference
    filters := h.filters.imp fun _ _ hfilter => hfilter.mono hreference
    dateColumn := rel_mono hreference h.dateColumn
    dateFilter := rel_mono (fun _ _ => rel_mono hreference) h.dateFilter }

/-- Names whose parts are equal in lower case differ at most in letter case. -/
theorem recased_of_lowercase (h : r.Renamed (fun name name' => lowercase name = lowercase name')
    (fun raw raw' => ColumnRef.lowerParts raw = ColumnRef.lowerParts raw') r') : r.Recased r' :=
  h.mono (fun _ _ => lowercase_trim_congr) fun _ _ => ColumnRef.nameParts_congr

theorem Recased.root (h : r.Recased r') : r.root = r'.root := h.table

theorem Recased.date? (h : r.Recased r') : Option.Rel SameReference r.date? r'.date? := by
  have hcolumn := h.dateColumn
  have hfilter := h.dateFilter
  have hnamed : Option.Rel SameReference (r.dateColumn.or (r.dateFilter.bind id))
      (r'.dateColumn.or (r'.dateFilter.bind id)) := by
    generalize r.dateColumn = column, r'.dateColumn = column' at hcolumn
    generalize r.dateFilter = filter, r'.dateFilter = filter' at hfilter
    cases hcolumn with
    | some hsame => exact .some hsame
    | none =>
      cases hfilter with
      | none => exact .none
      | some hinner => exact hinner
  unfold Request.date?
  generalize r.dateColumn.or (r.dateFilter.bind id) = named,
    r'.dateColumn.or (r'.dateFilter.bind id) = named' at hnamed
  cases hnamed with
  | none => exact .none
  | some hsame =>
    rw [Option.filter_some, Option.filter_some, hsame.allBlank]
    split
    · exact .some hsame
    · exact .none

theorem Recased.validate (h : r.Recased r') :
    r.validate.mapError Refusal.unquoted = r'.validate.mapError Refusal.unquoted := by
  have hjoins : ∀ join join' : Requested.Join, join.Recased join' →
      allBlank join.table = allBlank join'.table := fun _ _ hjoin => allBlank_congr hjoin.table
  unfold Request.validate
  rw [allBlank_congr h.table]
  split
  · rfl
  · refine mapError_bind_congr ?_ fun _ => ?_
    · refine mapError_forM_congr (fun join join' hjoin => ?_) h.joins
      rw [hjoins join join' hjoin]
    · refine mapError_forM_congr (fun f g hfg => ?_) h.filters
      exact Filter.Recased.validate hfg

theorem Recased.bucket? (h : r.Recased r') (scope : Scope) :
    (r.bucket? scope).mapError Error.unquoted = (r'.bucket? scope).mapError Error.unquoted := by
  have hdate := h.date?
  unfold Request.bucket?
  rw [h.granularity, h.display]
  generalize r.date? = date, r'.date? = date' at hdate
  cases hdate with
  | none => rfl
  | some hsame =>
    cases r'.granularity.grain? with
    | none => rfl
    | some grain =>
      refine mapError_bind_congr ?_ fun date => rfl
      exact Scope.resolveOn_congr hsame scope scope.root

theorem addDimension_congr {raw raw' : String} (h : SameReference raw raw') (scope : Scope)
    (date : Option Resolved) (dims : List Resolved) :
    (addDimension scope date dims raw).mapError Error.unquoted =
      (addDimension scope date dims raw').mapError Error.unquoted :=
  mapError_bind_congr (Scope.resolve_congr h scope) fun _ => rfl

theorem Recased.rankedOrder (h : r.Recased r') : r.rankedOrder = r'.rankedOrder := by
  funext scope selected order
  unfold Request.rankedOrder
  rw [h.top, h.metrics, h.ranking]

/-- Letter case does not matter: both requests compile to the same statement, or both fail with the
same error but for the words that it quotes. -/
theorem compile_recased (h : r.Recased r') (snapshot? : Option Snapshot) :
    (r.compile snapshot?).mapError Error.unquoted =
      (r'.compile snapshot?).mapError Error.unquoted := by
  unfold compile
  rw [h.root, h.metrics, h.rankedOrder]
  refine mapError_bind_congr (unquoted_validation h.validate) fun _ => ?_
  refine mapError_bind_same fun _ => ?_
  refine mapError_bind_congr (JoinPlan.ofRequested_congr h.joins _) fun plan => ?_
  refine mapError_bind_congr (h.bucket? plan.scope) fun dated => ?_
  refine mapError_bind_congr ?_ fun dims => ?_
  · refine mapError_foldlM_congr (fun dims raw raw' hsame => ?_) h.dimensions []
    exact addDimension_congr hsame plan.scope _ dims
  refine mapError_bind_same fun metrics => ?_
  exact mapError_bind_congr (Predicate.ofFilters_congr h.filters plan.scope) fun _ => rfl

/-- Orders by month and customer, in small letters. -/
def quietReport : Request where
  table := "orders"
  dimensions := ["customers.name", "id"]
  metrics := [{ column := "Orders.Id", aggregation := .count }]
  joins := [{ table := "customers", on := some ⟨"orders.customer_id", "id"⟩ }]
  filters := [{ column := some "orders.id", operator := .gt, value := Json.nat 7 }]
  granularity := .monthly
  dateColumn := some "customer_id"

/-- The same with the names in capital letters, and blanks around some of them. -/
def loudReport : Request where
  table := "ORDERS"
  dimensions := ["CUSTOMERS.NAME", " Id"]
  metrics := [{ column := "Orders.Id", aggregation := .count }]
  joins := [{ table := "Customers ", on := some ⟨"Orders.Customer_ID", "ID"⟩ }]
  filters := [{ column := some "ORDERS . ID", operator := .gt, value := Json.nat 7 }]
  granularity := .monthly
  dateColumn := some "CUSTOMER_ID"

theorem compile_loudReport : quietReport.Recased loudReport ∧
    (quietReport.compile (some shopCatalog)).toOption.isSome = true ∧
    (quietReport.compile (some shopCatalog)).mapError Error.unquoted =
      (loudReport.compile (some shopCatalog)).mapError Error.unquoted := by
  have hjoin : quietReport.joins[0].Recased loudReport.joins[0] :=
    ⟨by decide +kernel, rfl, .some ⟨by decide +kernel, by decide +kernel⟩⟩
  have hfilter : quietReport.filters[0].Recased loudReport.filters[0] :=
    ⟨.some (by decide +kernel), rfl, rfl, rfl, rfl⟩
  have h : quietReport.Recased loudReport := {
    table := by decide +kernel
    dimensions := .cons (by decide +kernel) (.cons (by decide +kernel) .nil)
    metrics := rfl
    joins := .cons hjoin .nil
    filters := .cons hfilter .nil
    granularity := rfl
    dateColumn := .some (by decide +kernel)
    dateFilter := .none
    top := rfl
    ranking := rfl
    display := rfl }
  exact ⟨h, by decide +kernel, compile_recased h _⟩

/-- What is refused is quoted as it is written. -/
example : ColumnRef.parse "Orders..ID" = .error (.badColumnReference "Orders..ID") ∧
    SameReference "Orders..ID" "orders..id" := by
  decide +kernel

end Request
end Granary
