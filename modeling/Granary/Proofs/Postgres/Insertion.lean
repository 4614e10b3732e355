import Granary.Postgres.Warehouse
import Granary.Proofs.Journal
import Granary.Proofs.Postgres.Command
import Granary.Proofs.Postgres.Server
import Mathlib.Algebra.Order.BigOperators.Group.List

/-!
# Rows and their parameters

An insertion numbers its parameters row by row and passes the cells of the rows in one list.  Both
agree if all rows are as wide as the table.  What is compared before the statement is executed is
only how many cells there are in all, so rows of other widths that make up for each other are
executed with their cells shifted.
-/

namespace Granary.Postgres

open Program (Journal Leads Noting leads_ask runs_ask)
open Replica (Column Row)

/-! ## Cells in one list -/

section

variable {α : Type} {width : Nat} {rows : List (List α)}

theorem getElem?_flatten_of_width (h : ∀ row ∈ rows, row.length = width) {r i : Nat} {row : List α}
    (hr : rows[r]? = some row) (hi : i < width) : rows.flatten[r * width + i]? = row[i]? := by
  induction rows generalizing r with
  | nil => cases hr
  | cons first rest ih =>
    obtain ⟨hfirst, hrest⟩ := List.forall_mem_cons.1 h
    rw [List.flatten_cons]
    cases r with
    | zero =>
      obtain rfl : first = row := Option.some.inj hr
      rw [Nat.zero_mul, Nat.zero_add, List.getElem?_append_left (by omega)]
    | succ r =>
      have hpast : (r + 1) * width + i = first.length + (r * width + i) := by
        rw [hfirst, Nat.succ_mul]
        omega
      rw [hpast, List.getElem?_append_right (Nat.le_add_right _ _), Nat.add_sub_cancel_left]
      exact ih hrest hr

theorem le_length_flatten (h : ∀ row ∈ rows, width ≤ row.length) :
    rows.length * width ≤ rows.flatten.length := by
  have hsum := (rows.map List.length).card_nsmul_le_sum width (by simpa using h)
  rwa [List.length_map, smul_eq_mul, ← List.length_flatten] at hsum

/-- Rows that are wide enough and have no cell too many in all have one width. -/
theorem width_of_length_flatten (h : ∀ row ∈ rows, width ≤ row.length)
    (hcells : rows.flatten.length = rows.length * width) : ∀ row ∈ rows, row.length = width := by
  induction rows with
  | nil => exact fun row hrow => absurd hrow List.not_mem_nil
  | cons first rest ih =>
    obtain ⟨hfirst, hrest⟩ := List.forall_mem_cons.1 h
    have hle := le_length_flatten hrest
    rw [List.flatten_cons, List.length_append, List.length_cons, Nat.succ_mul] at hcells
    exact List.forall_mem_cons.2 ⟨by omega, ih hrest (by omega)⟩

end

/-! ## Insertions -/

variable {π γ : Type}

/-- A text is prepared as it is, with the parameters that are in it, unless that fails. -/
def Prepares (_ : Journal (@Answer π γ)) : (c : Call π γ) → Answer c → Prop
  | .prepareOnce _ sql, .ok statement => statement = ⟨sql, Statement.parameters sql⟩
  | _, _ => True

/-- The statements that have been executed, with their clients and parameters. -/
def executions (h : Journal (@Answer π γ)) : List (γ × Prepared × List Param) :=
  h.filterMap fun
    | ⟨.execute client statement params, _⟩ => some (client, statement, params)
    | _ => none

/-- Every cell of some rows is the parameter that stands in its place, as a value of its column. -/
structure Placed (columns : List Column) (rows : List Row) (params : List Param)
    (tuples : List (List Value)) : Prop where
  count : tuples.length = rows.length
  width : ∀ tuple ∈ tuples, tuple.length = columns.length
  cell : ∀ (r i : Nat) (row : Row) (c : Column), rows[r]? = some row → columns[i]? = some c →
    ∃ (k : Nat) (v : Param), tuples[r]?.bind (·[i]?) = some (.cast (.parameter (k + 1)) c.type) ∧
      params[k]? = some v ∧ row[i]? = some v

/-- Either nothing is executed and an error tells so, or one statement is, on the client of the
load, which inserts the rows with all cells in their places. -/
def Inserted (l : Loader γ) (rows : List Row) (outcome : Except Error Nat)
    (h : Journal (@Answer π γ)) : Prop :=
  (∃ e, outcome = .error e) ∧ executions h = [] ∨
    ∃ statement params tuples, executions h = [(l.client, statement, params)] ∧
      Command.read statement.sql =
        some (.insert l.table (l.columns.map (·.name)) tuples) ∧
      Placed l.columns rows params tuples

variable {columns : List Column} {rows : List Row} {l : Loader γ}

/-- Cells that are numbered row by row stand in their places if the rows are of one width. -/
theorem placed_flatten (h : ∀ row ∈ rows, row.length = columns.length) :
    Placed columns rows rows.flatten
      ((List.range rows.length).map fun r => Command.cells (r * columns.length) columns) where
  count := by rw [List.length_map, List.length_range]
  width := by
    intro tuple htuple
    obtain ⟨r, -, rfl⟩ := List.mem_map.1 htuple
    rw [Command.cells, List.length_map, List.length_zipIdx]
  cell := by
    intro r i row c hr hc
    obtain ⟨hrlt, hrow⟩ := List.getElem?_eq_some_iff.1 hr
    obtain ⟨hilt, -⟩ := List.getElem?_eq_some_iff.1 hc
    have hi : i < row.length := by
      rw [h row (List.mem_of_getElem? hr)]
      exact hilt
    refine ⟨r * columns.length + i, row[i], ?_, ?_, List.getElem?_eq_getElem hi⟩
    · rw [List.getElem?_map, List.getElem?_range hrlt, Option.map_some, Option.bind_some,
        Command.cells, List.getElem?_map, List.getElem?_zipIdx, hc]
      simp
    · rw [getElem?_flatten_of_width h hr hilt]
      exact List.getElem?_eq_getElem hi

theorem Placed.le_length {params : List Param} {tuples : List (List Value)}
    (h : Placed columns rows params tuples) {row : Row} (hrow : row ∈ rows) :
    columns.length ≤ row.length := by
  obtain ⟨r, hr⟩ := List.getElem?_of_mem hrow
  -- the last column has a cell in every row
  cases hlast : columns.length with
  | zero => exact Nat.zero_le _
  | succ i =>
    have hi : i < columns.length := by omega
    obtain ⟨_, _, _, _, hv⟩ := h.cell r i row columns[i] hr (List.getElem?_eq_getElem hi)
    obtain ⟨hlt, -⟩ := List.getElem?_eq_some_iff.1 hv
    exact hlt

/-- An insertion has as many parameters as cells. -/
theorem parameters_insert (table : String) (columns : List Column) (rows : Nat) :
    Statement.parameters (Statements.insert table columns rows) = rows * columns.length := by
  have hnames : (Statements.nameTokens columns).filterMap Sql.Token.placeholder? = [] := by
    refine List.filterMap_eq_nil_iff.2 (List.forall_mem_append.2
      ⟨Sql.forall_mem_commaTokens rfl fun ts hts => ?_, by decide⟩)
    obtain ⟨c, _, rfl⟩ := List.mem_map.1 hts
    exact List.forall_mem_singleton.2 rfl
  have hvalues : (Sql.Token.word "VALUES" :: Statements.valuesTokens columns rows).filterMap
      Sql.Token.placeholder? = List.range' 1 (rows * columns.length) :=
    Statements.holes_valuesTokens columns rows
  rw [Statement.parameters, Statements.lex_insert, Option.getD_some, List.filterMap_append,
    List.filterMap_append, hnames, hvalues]
  exact List.length_range'

/-- The insertion of some rows, prepared. -/
def insertion (l : Loader γ) (rows : List Row) : Prepared :=
  ⟨Statements.insert l.table l.columns rows.length, rows.length * l.columns.length⟩

theorem insertion_eq (l : Loader γ) (rows : List Row) :
    insertion l rows = ⟨Statements.insert l.table l.columns rows.length,
      Statement.parameters (Statements.insert l.table l.columns rows.length)⟩ := by
  rw [parameters_insert, insertion]

/-- Whatever the rows are, their cells are passed on as they follow each other, if they are as many
as the statement takes, and are not passed on otherwise. -/
theorem leads_insert (hrows : rows ≠ []) :
    (l.insert rows : Attempt π γ Nat).run.Leads (Noting Prepares) (fun outcome h =>
      (∃ e, outcome = .error e) ∧ executions h = [] ∨
        rows.flatten.length = rows.length * l.columns.length ∧
          executions h = [(l.client, insertion l rows, rows.flatten)]) [] := by
  unfold Loader.insert
  rw [if_neg (by simpa using hrows)]
  refine leads_ask ⟨.error .refused, trivial⟩ fun prepared hprepared => ?_
  cases prepared with
  | error fault => exact .inl ⟨⟨_, rfl⟩, rfl⟩
  | ok statement =>
    obtain rfl : statement = insertion l rows := hprepared.trans (insertion_eq l rows).symm
    by_cases hcells : rows.flatten.length = rows.length * l.columns.length
    · have hcount : (insertion l rows).parameters = rows.flatten.length := hcells.symm
      show Leads _ _ (ExceptT.run (if rows.flatten.length ≠ _ then _ else
        (Attempt.execute l.client _ (insertion l rows) rows.flatten >>=
          fun result => pure result.affected))) _
      rw [if_neg (not_not_intro hcells), Attempt.execute, if_neg (not_not_intro hcount)]
      refine leads_ask ⟨.error .refused, trivial⟩ fun result _ => ?_
      cases result with
      | error fault => exact .inr ⟨hcells, rfl⟩
      | ok result => exact .inr ⟨hcells, rfl⟩
    · show Leads _ _ (ExceptT.run (if rows.flatten.length ≠ _ then _ else _)) _
      rw [if_pos hcells]
      exact .inl ⟨⟨_, rfl⟩, rfl⟩

/-- If nothing fails, rows with as many cells as the statement takes are executed. -/
theorem runs_insert (hrows : rows ≠ [])
    (hcells : rows.flatten.length = rows.length * l.columns.length) :
    Program.Runs (Noting Prepares) (l.insert rows : Attempt π γ Nat).run [] (some (.ok 0))
      [⟨.prepareOnce l.client (insertion l rows).sql, .ok (insertion l rows)⟩,
        ⟨.execute l.client (insertion l rows) rows.flatten, .ok {}⟩] := by
  have hcount : (insertion l rows).parameters = rows.flatten.length := hcells.symm
  unfold Loader.insert
  rw [if_neg (by simpa using hrows)]
  refine runs_ask (.ok (insertion l rows)) (insertion_eq l rows) ?_
  show Program.Runs _ (ExceptT.run (if rows.flatten.length ≠ _ then _ else
    (Attempt.execute l.client _ (insertion l rows) rows.flatten >>=
      fun result => pure result.affected))) _ _ _
  rw [if_neg (not_not_intro hcells), Attempt.execute, if_neg (not_not_intro hcount)]
  exact runs_ask (.ok {}) trivial (.done _ _)

/-- An execution puts all cells in their places only if all rows are as wide as the table. -/
theorem width_of_inserted {n : Nat} {h : Journal (@Answer π γ)}
    (hcells : rows.flatten.length = rows.length * l.columns.length)
    (hinserted : Inserted l rows (.ok n) h) : ∀ row ∈ rows, row.length = l.columns.length := by
  rcases hinserted with ⟨⟨e, he⟩, -⟩ | ⟨_, _, tuples, -, -, hplaced⟩
  · cases he
  · exact width_of_length_flatten (fun row hrow => hplaced.le_length hrow) hcells

/-- A batch is refused or put in its place, whatever is answered, exactly if its rows are all as
wide as the table or have too many or too few cells in all. -/
theorem inserted_iff (hcolumns : l.columns ≠ []) (hrows : rows ≠ []) :
    (l.insert rows : Attempt π γ Nat).run.Leads (Noting Prepares) (Inserted l rows) [] ↔
      (∀ row ∈ rows, row.length = l.columns.length) ∨
        rows.flatten.length ≠ rows.length * l.columns.length := by
  constructor
  · intro hleads
    by_cases hcells : rows.flatten.length = rows.length * l.columns.length
    · exact .inl (width_of_inserted hcells (hleads.result (runs_insert hrows hcells)))
    · exact .inr hcells
  · intro hbatch
    refine (leads_insert hrows).mono fun outcome h hend => ?_
    rcases hend with hrefused | ⟨hcells, hexecuted⟩
    · exact .inl hrefused
    · have hwidth := hbatch.resolve_right (not_not_intro hcells)
      exact .inr ⟨_, _, _, hexecuted,
        Command.read_insert l.table hcolumns (List.length_pos_iff.2 hrows).ne',
        placed_flatten hwidth⟩

/-- The load of a table of notes with two columns. -/
def noteLoad : Loader Unit :=
  ⟨(), "shop__note", [⟨"id", .integer, false, false⟩, ⟨"text", .text, true, false⟩], .create⟩

theorem inserted_of_evenNotes :
    noteLoad.columns ≠ [] ∧ ([[some "1", some "a"], [some "2", none]] : List Row) ≠ [] ∧
      (noteLoad.insert [[some "1", some "a"], [some "2", none]] : Attempt Unit Unit Nat).run.Leads
        (Noting Prepares) (Inserted noteLoad [[some "1", some "a"], [some "2", none]]) [] :=
  ⟨by decide, by decide, (inserted_iff (by decide) (by decide)).2 (.inl (by decide))⟩

/-- A row that is too short and one that is too long are not refused together; the first cell of the
second row becomes the text of the first. -/
theorem not_inserted_of_shifted :
    ¬ (noteLoad.insert [[some "1"], [some "2", some "3", some "4"]] :
      Attempt Unit Unit Nat).run.Leads (Noting Prepares)
        (Inserted noteLoad [[some "1"], [some "2", some "3", some "4"]]) [] := by
  intro hleads
  have hwidth := width_of_inserted rfl (hleads.result (runs_insert (by decide) rfl))
  exact absurd (hwidth [some "1"] List.mem_cons_self) (by decide)

end Granary.Postgres
