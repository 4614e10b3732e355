import Granary.Proofs.Schema.Joinable

/-!
# What the parts of a snapshot know of one another

Of a table a snapshot keeps its columns, the spelling of each and the types that are known, and all
that it is built from goes through the same few steps.  A declaration starts the columns of a table
anew, but the spellings and types that the table had before stay.  So the columns are those that the
steps mention from the last declaration on, while the spellings and types are of all that they ever
mention: `Reflects`, which every step keeps.

`coherent_build` says what follows: what is listed is always spelled, and once only, and a type or a
spelling is of a column that is listed exactly if no declaration has left out a column for good.
-/

namespace Granary

open Schema (Table)
open Text (lowercase)

namespace Snapshot

/-! ## Steps -/

/-- A step in which a snapshot is built up. -/
inductive Step where
  | declare (table : String) (columns : List String)
  | addTyped (table : String) (columns : List (String × String))
  | addColumn (table column : String) (type? : Option String)
  | setPrimaryKey (table : String) (columns : List String)
  | addForeignKey (referencingTable referencingColumn referencedTable referencedColumn : String)

/-- A column as a step mentions it. -/
structure Mention where
  name : String
  type? : Option String := none

/-- What the column is looked up by. -/
def Mention.key (m : Mention) : String := lowercase m.name

namespace Step

/-- The table whose columns a step is about. -/
def table? : Step → Option String
  | .declare table _ | .addTyped table _ | .addColumn table _ _ => some table
  | .setPrimaryKey _ _ | .addForeignKey _ _ _ _ => none

def mentions : Step → List Mention
  | .declare _ columns => columns.map fun c => ⟨c, none⟩
  | .addTyped _ columns => columns.map fun c => ⟨c.1, some c.2⟩
  | .addColumn _ column type? => [⟨column, type?⟩]
  | .setPrimaryKey _ _ | .addForeignKey _ _ _ _ => []

/-- A declaration has all columns of its table, whatever columns it had before. -/
def restarts : Step → Bool
  | .declare _ _ => true
  | _ => false

/-- Whether a step is about the columns of the table of a key. -/
def isAbout (key : String) (step : Step) : Bool := step.table?.map lowercase == some key

end Step

def perform (s : Snapshot) : Step → Snapshot
  | .declare table columns => s.declare table columns
  | .addTyped table columns => s.addTyped table columns
  | .addColumn table column type? => s.addColumn table column type?
  | .setPrimaryKey table columns => s.setPrimaryKey table columns
  | .addForeignKey referencingTable referencingColumn referencedTable referencedColumn =>
    s.addForeignKey referencingTable referencingColumn referencedTable referencedColumn

/-- What steps build from nothing. -/
def build (steps : List Step) : Snapshot := steps.foldl perform {}

/-- All that steps ever mention of the table of a key. -/
def mentioned (steps : List Step) (key : String) : List Mention :=
  (steps.filter (Step.isAbout key)).flatMap Step.mentions

/-- What steps mention of the table of a key from its last declaration on. -/
def current (steps : List Step) (key : String) : List Mention :=
  (steps.filter (Step.isAbout key)).foldl
    (fun before step => (if step.restarts then [] else before) ++ step.mentions) []

theorem build_concat (steps : List Step) (step : Step) :
    build (steps ++ [step]) = (build steps).perform step := by
  rw [build, List.foldl_append]
  rfl

theorem Built.perform {s : Snapshot} (h : s.Built) (step : Step) : (s.perform step).Built := by
  cases step with
  | declare table columns => exact h.declare table columns
  | addTyped table columns => exact h.addTyped table columns
  | addColumn table column type? => exact h.addColumn table column type?
  | setPrimaryKey table columns => exact h.setPrimaryKey table columns
  | addForeignKey => exact h.addForeignKey ..

theorem built_build (steps : List Step) : (build steps).Built :=
  built_foldl (fun _ step h => h.perform step) steps .empty

/-! ## One table -/

/-- The table has the columns that are mentioned last, in the order of their first mention, and the
spellings and types of all that is mentioned. -/
structure Reflects (t : Table) (current mentioned : List Mention) : Prop where
  columns : t.columns = firsts (current.map Mention.key)
  spellings : ∀ key, (t.spellings.get? key).isSome ↔ key ∈ mentioned.map Mention.key
  types : ∀ key, (t.types.get? key).isSome ↔ ∃ m ∈ mentioned, m.key = key ∧ m.type?.isSome

section

variable {t : Table} {current mentioned : List Mention}

theorem reflects_blank (name : String) : Reflects (blank name) [] [] where
  columns := rfl
  spellings _ := by simp [blank]
  types _ := by simp [blank]

theorem isSome_get?_addColumn_types (t : Table) (m : Mention) (key : String) :
    ((t.addColumn m.name m.type?).types.get? key).isSome ↔
      (t.types.get? key).isSome ∨ m.key = key ∧ m.type?.isSome := by
  obtain ⟨name, type?⟩ := m
  cases type? with
  | none => simp [Table.addColumn]
  | some type =>
    show ((t.types.set (lowercase name) type).get? key).isSome ↔ _
    rw [Named.get?_set]
    by_cases hsame : lowercase name = key <;> simp [Mention.key, hsame]

theorem Reflects.addColumn (h : Reflects t current mentioned) (m : Mention) :
    Reflects (t.addColumn m.name m.type?) (current ++ [m]) (mentioned ++ [m]) where
  columns := by
    show (if t.columns.contains m.key then t.columns else t.columns ++ [m.key]) = _
    rw [List.map_append, List.map_singleton, firsts_concat, ← h.columns]
    simp only [List.contains_iff_mem]
  spellings key := by
    show ((t.spellings.setNew m.key m.name).get? key).isSome ↔ _
    rw [Named.get?_setNew, List.map_append, List.mem_append, ← h.spellings, List.map_singleton,
      List.mem_singleton, Option.isSome_or, Bool.or_eq_true]
    by_cases hsame : m.key = key
    · simp [hsame]
    · simp [hsame, Ne.symm hsame]
  types key := by
    rw [isSome_get?_addColumn_types, h.types]
    simp only [List.mem_append, List.mem_singleton, or_and_right, exists_or, exists_eq_left]

theorem Reflects.addColumns (h : Reflects t current mentioned) (ms : List Mention) :
    Reflects (ms.foldl (fun t m => t.addColumn m.name m.type?) t) (current ++ ms)
      (mentioned ++ ms) := by
  induction ms generalizing t current mentioned with
  | nil => simpa using h
  | cons m rest ih => simpa using ih (h.addColumn m)

/-- Columns that are forgotten leave their spellings and types behind. -/
theorem Reflects.restart (h : Reflects t current mentioned) :
    Reflects { t with columns := [] } [] mentioned :=
  ⟨rfl, h.spellings, h.types⟩

end

namespace Step

/-- What a step makes of the table that it is about. -/
def onTable (step : Step) (t : Table) : Table :=
  step.mentions.foldl (fun t m => t.addColumn m.name m.type?)
    (if step.restarts then { t with columns := [] } else t)

theorem key_onTable (step : Step) (t : Table) : (step.onTable t).key = t.key := by
  rw [onTable, key_foldl_addColumn Mention.name Mention.type?]
  split <;> rfl

theorem reflects_onTable {t : Table} {current mentioned : List Mention}
    (h : Reflects t current mentioned) (step : Step) :
    Reflects (step.onTable t) ((if step.restarts then [] else current) ++ step.mentions)
      (mentioned ++ step.mentions) := by
  rw [onTable]
  split
  · exact h.restart.addColumns step.mentions
  · exact h.addColumns step.mentions

end Step

/-! ## All tables -/

theorem perform_eq_update {s : Snapshot} {step : Step} {table : String}
    (h : step.table? = some table) : s.perform step = s.update table step.onTable := by
  cases step with
  | declare name columns =>
    cases h
    refine congrArg (s.update table) (funext fun t => ?_)
    simp only [Step.onTable, Step.mentions, List.foldl_map]
    rfl
  | addTyped name columns =>
    cases h
    refine congrArg (s.update table) (funext fun t => ?_)
    simp only [Step.onTable, Step.mentions, List.foldl_map]
    rfl
  | addColumn name column type? =>
    cases h
    rfl
  | setPrimaryKey => cases h
  | addForeignKey => cases h

theorem tables_perform_of_none {s : Snapshot} {step : Step} (h : step.table? = none) :
    (s.perform step).tables = s.tables := by
  cases step with
  | declare => cases h
  | addTyped => cases h
  | addColumn => cases h
  | setPrimaryKey => rfl
  | addForeignKey => rfl

/-- A step changes the table that it is about and no other. -/
theorem table?_perform {s : Snapshot} (h : s.Ordered) (step : Step) (name : String) :
    (s.perform step).table? name =
      if step.isAbout (lowercase name) then
        some (step.onTable ((s.table? name).getD (blank (step.table?.getD ""))))
      else s.table? name := by
  cases htable : step.table? with
  | none =>
    rw [Step.isAbout, htable, table?_of_tables (tables_perform_of_none htable)]
    rfl
  | some table =>
    rw [Step.isAbout, htable, perform_eq_update htable]
    simp only [Option.map_some, beq_iff_eq, Option.some.injEq, Option.getD_some]
    exact find?_updateIn step.key_onTable h (lowercase name)

/-- What is known of a table, if anything is, is what the steps mention of it. -/
theorem reflects_build (steps : List Step) (name fallback : String) :
    Reflects (((build steps).table? name).getD (blank fallback)) (current steps (lowercase name))
      (mentioned steps (lowercase name)) := by
  induction steps using List.reverseRecOn generalizing fallback with
  | nil => exact reflects_blank fallback
  | append_singleton steps step ih =>
    rw [build_concat, table?_perform (built_build steps).ordered, current, mentioned,
      List.filter_append, List.foldl_append, List.flatMap_append]
    by_cases habout : step.isAbout (lowercase name) = true
    · rw [if_pos habout, Option.getD_some, List.filter_cons_of_pos habout, List.filter_nil,
        List.foldl_cons, List.foldl_nil, List.flatMap_singleton]
      exact step.reflects_onTable (ih _)
    · rw [if_neg habout, List.filter_cons_of_neg habout, List.filter_nil, List.foldl_nil,
        List.flatMap_nil, List.append_nil]
      exact ih fallback

theorem hasColumn_iff (s : Snapshot) (table column : String) : s.hasColumn table column = true ↔
    lowercase column ∈ ((s.table? table).getD (blank table)).columns := by
  rw [hasColumn, List.contains_iff_mem, columns?]
  cases s.table? table with
  | none => exact Iff.rfl
  | some t => exact Iff.rfl

/-- A column is there if it is mentioned from the last declaration of its table on. -/
theorem hasColumn_build {steps : List Step} {table column : String} :
    (build steps).hasColumn table column = true ↔
      lowercase column ∈ (current steps (lowercase table)).map Mention.key := by
  rw [hasColumn_iff, (reflects_build steps table table).columns, mem_firsts]

/-- A type is known if one was ever mentioned. -/
theorem isSome_columnType?_build {steps : List Step} {table column : String} :
    ((build steps).columnType? table column).isSome ↔
      ∃ m ∈ mentioned steps (lowercase table), m.key = lowercase column ∧ m.type?.isSome := by
  rw [← (reflects_build steps table table).types, columnType?]
  cases (build steps).table? table with
  | none => exact Iff.rfl
  | some t => exact Iff.rfl

/-- The spelling that is kept of a column. -/
def keptSpelling? (s : Snapshot) (table column : String) : Option String :=
  (s.table? table).bind fun t => t.spellings.get? (lowercase column)

theorem isSome_keptSpelling?_build {steps : List Step} {table column : String} :
    ((build steps).keptSpelling? table column).isSome ↔
      lowercase column ∈ (mentioned steps (lowercase table)).map Mention.key := by
  rw [← (reflects_build steps table table).spellings, keptSpelling?]
  cases (build steps).table? table with
  | none => exact Iff.rfl
  | some t => exact Iff.rfl

/-! ## Coherence -/

/-- What is mentioned from the last declaration on is mentioned. -/
theorem mem_mentioned_of_mem_current {steps : List Step} {key : String} {m : Mention}
    (h : m ∈ current steps key) : m ∈ mentioned steps key := by
  rw [current] at h
  rw [mentioned]
  generalize steps.filter (Step.isAbout key) = own at h ⊢
  induction own using List.reverseRecOn with
  | nil => cases h
  | append_singleton own step ih =>
    rw [List.foldl_append, List.foldl_cons, List.foldl_nil, List.mem_append] at h
    rw [List.flatMap_append, List.flatMap_singleton, List.mem_append]
    refine h.imp_left fun hbefore => ih ?_
    split at hbefore
    · cases hbefore
    · exact hbefore

/-- What is listed of a table is spelled, its name and each column in lower case as it is looked up,
and each column is listed once, at the place of its first mention. -/
structure Listed (steps : List Step) (t : Table) : Prop where
  name : lowercase t.spelling = t.key
  spelled : ∀ key ∈ t.columns, ∃ spelling,
    t.spellings.get? key = some spelling ∧ lowercase spelling = key
  nodup : t.columns.Nodup
  ordered : t.columns = firsts ((current steps t.key).map Mention.key)

theorem listed_of_mem {steps : List Step} {t : Table} (h : t ∈ (build steps).tables) :
    Listed steps t := by
  have hbuilt := built_build steps
  have hname : lowercase t.spelling = t.key := hbuilt.isSpelled t h
  have hkey : lowercase t.key = t.key := by rw [← hname, Text.lowercase_lowercase]
  have htable : (build steps).table? t.key = some t := by
    rw [table?, hkey]
    exact Named.find?_of_nodup (hbuilt.ordered.imp fun hlt => hlt.ne) h
  have hreflects := reflects_build steps t.key t.key
  rw [htable, hkey, Option.getD_some] at hreflects
  refine ⟨hname, fun key hmem => ?_, ?_, hreflects.columns⟩
  · rw [hreflects.columns, mem_firsts] at hmem
    obtain ⟨m, hm, hmkey⟩ := List.mem_map.1 hmem
    have hmentioned : key ∈ (mentioned steps t.key).map Mention.key :=
      List.mem_map.2 ⟨m, mem_mentioned_of_mem_current hm, hmkey⟩
    obtain ⟨spelling, hget⟩ := Option.isSome_iff_exists.1 ((hreflects.spellings key).2 hmentioned)
    exact ⟨spelling, hget, hbuilt.spellsColumns t h key spelling hget⟩
  · rw [hreflects.columns]
    exact nodup_firsts _

/-- Whatever the steps are, what is listed of the tables is spelled, and listed once and in order.
A type is known only of columns that are there exactly if no declaration has left out for good a
column that was given a type, and a spelling is kept only of columns that are there exactly if none
has left out any column for good. -/
theorem coherent_build (steps : List Step) :
    (∀ t ∈ (build steps).tables, Listed steps t) ∧
    ((∀ table column, ((build steps).columnType? table column).isSome →
        (build steps).hasColumn table column = true) ↔
      ∀ table, ∀ m ∈ mentioned steps (lowercase table), m.type?.isSome →
        m.key ∈ (current steps (lowercase table)).map Mention.key) ∧
    ((∀ table column, ((build steps).keptSpelling? table column).isSome →
        (build steps).hasColumn table column = true) ↔
      ∀ table, ∀ m ∈ mentioned steps (lowercase table),
        m.key ∈ (current steps (lowercase table)).map Mention.key) := by
  refine ⟨fun t => listed_of_mem, ?_, ?_⟩
  · simp only [isSome_columnType?_build, hasColumn_build]
    constructor
    · exact fun h table m hm htype => h table m.name ⟨m, hm, rfl, htype⟩
    · rintro h table column ⟨m, hm, hkey, htype⟩
      exact hkey ▸ h table m hm htype
  · simp only [isSome_keptSpelling?_build, hasColumn_build]
    constructor
    · exact fun h table m hm => h table m.name (List.mem_map_of_mem hm)
    · intro h table column hmem
      obtain ⟨m, hm, hkey⟩ := List.mem_map.1 hmem
      exact hkey ▸ h table m hm

/-- A table that is declared once more, now without one of its columns. -/
def declaredAgain : List Step :=
  [.addTyped "Orders" [("Total", "numeric")], .declare "orders" ["id"]]

/-- The column that is no more has a type and a spelling all the same. -/
theorem not_coherent_declaredAgain :
    (build declaredAgain).columnType? "orders" "total" = some "numeric" ∧
    (build declaredAgain).keptSpelling? "orders" "total" = some "Total" ∧
    (build declaredAgain).hasColumn "orders" "total" = false := by
  decide +kernel

end Snapshot
end Granary
