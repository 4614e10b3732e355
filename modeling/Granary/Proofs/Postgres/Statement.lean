import Granary.Postgres.Statements
import Granary.Proofs.Sql.Token

/-!
# What the statements of a load say

The texts that are sent to PostgreSQL while a table is loaded, read back: first as tokens, then as
the statements between the semicolons.  Names stand between double quotes and types are made of
words and numbers, so no semicolon and no keyword comes from a name, and what a text says does not
depend on what the names are made of.
-/

namespace Granary

open Sql (Token commaTokens lex lex_append_of_endsApart lex_append_of_startsApart lex_commas
  lex_commas_map lex_link lex_number lex_placeholder lex_quoteIdent)

namespace Replica

def ColumnType.tokens : ColumnType → List Token
  | .numeric precision scale =>
    [.word "numeric", .symbol '(', .number (toString precision), .symbol ',',
      .number (toString scale), .symbol ')']
  | .varchar length => [.word "varchar", .symbol '(', .number (toString length), .symbol ')']
  | .char length => [.word "char", .symbol '(', .number (toString length), .symbol ')']
  | .doublePrecision => [.word "double", .word "precision"]
  | type => [.word type.ddl]

theorem ColumnType.lex_ddl (type : ColumnType) : lex type.ddl = some type.tokens := by
  cases type with
  | numeric precision scale =>
    have hopen := lex_append_of_endsApart
      (by decide : lex "numeric(" = some [.word "numeric", .symbol '(']) (lex_number precision)
      (by decide)
    have hpair := lex_link (by decide) hopen (by decide : lex "," = some [.symbol ','])
      (lex_number scale)
    exact lex_append_of_startsApart hpair (by decide : lex ")" = some [.symbol ')']) (by decide)
  | varchar length =>
    have hopen := lex_append_of_endsApart
      (by decide : lex "varchar(" = some [.word "varchar", .symbol '(']) (lex_number length)
      (by decide)
    exact lex_append_of_startsApart hopen (by decide : lex ")" = some [.symbol ')']) (by decide)
  | char length =>
    have hopen := lex_append_of_endsApart
      (by decide : lex "char(" = some [.word "char", .symbol '(']) (lex_number length) (by decide)
    exact lex_append_of_startsApart hopen (by decide : lex ")" = some [.symbol ')']) (by decide)
  | _ => decide

end Replica

namespace Postgres

open Replica (Column ColumnType)
open Sql (commas quoteIdent)

namespace Statements

/-! ## Tokens -/

def castTokens (expr : List Token) (type : ColumnType) : List Token :=
  [Token.word "CAST", .symbol '('] ++ expr ++ [Token.word "AS"] ++ type.tokens ++ [Token.symbol ')']

theorem lex_castAs {expr : String} {ts : List Token} (h : lex expr = some ts) (type : ColumnType) :
    lex (castAs expr type) = some (castTokens ts type) := by
  have hopen := lex_append_of_endsApart
    (by decide : lex "CAST(" = some [.word "CAST", .symbol '(']) h (by decide)
  have htype := lex_link (by decide) hopen (by decide : lex " AS " = some [.word "AS"]) type.lex_ddl
  exact lex_append_of_startsApart htype (by decide : lex ")" = some [.symbol ')']) (by decide)

def columnTokens (c : Column) : List Token :=
  [Token.name c.name] ++ c.type.tokens ++
    if c.nullable then [] else [Token.word "NOT", .word "NULL"]

theorem lex_columnDefinition (c : Column) : lex (columnDefinition c) = some (columnTokens c) := by
  have htype := lex_link (by decide) (lex_quoteIdent c.name) (by decide : lex " " = some [])
    c.type.lex_ddl
  unfold columnDefinition columnTokens
  cases c.nullable with
  | true => exact lex_append_of_startsApart htype (by decide : lex "" = some []) (by decide)
  | false =>
    exact lex_append_of_startsApart htype
      (by decide : lex " NOT NULL" = some [.word "NOT", .word "NULL"]) (by decide)

def auditTokens (name : String) : List Token :=
  [Token.name name] ++ [Token.word "timestamp", .word "DEFAULT", .word "CURRENT_TIMESTAMP"]

theorem lex_auditDefinition (name : String) :
    lex (auditDefinition name) = some (auditTokens name) :=
  lex_append_of_startsApart (lex_quoteIdent name)
    (by decide : lex " timestamp DEFAULT CURRENT_TIMESTAMP" =
      some [.word "timestamp", .word "DEFAULT", .word "CURRENT_TIMESTAMP"]) (by decide)

/-- The definitions of a new table, with the bracket behind them. -/
def definitionTokens (columns : List Column) : List Token :=
  commaTokens (columns.map columnTokens ++ Replica.auditColumns.map auditTokens) ++
    [Token.symbol ')']

theorem lex_createTable (table : String) (columns : List Column) :
    lex (createTable table columns) =
      some ([Token.word "CREATE", .word "TABLE", .name table, .symbol '('] ++
        definitionTokens columns) := by
  have hdefinitions : List.Forall₂ (fun s ts => lex s = some ts)
      (columns.map columnDefinition ++ Replica.auditColumns.map auditDefinition)
      (columns.map columnTokens ++ Replica.auditColumns.map auditTokens) := by
    refine List.rel_append ?_ ?_
    · rw [List.forall₂_map_left_iff, List.forall₂_map_right_iff, List.forall₂_same]
      exact fun c _ => lex_columnDefinition c
    · rw [List.forall₂_map_left_iff, List.forall₂_map_right_iff, List.forall₂_same]
      exact fun name _ => lex_auditDefinition name
  have htable := lex_append_of_endsApart
    (by decide : lex "CREATE TABLE " = some [.word "CREATE", .word "TABLE"]) (lex_quoteIdent table)
    (by decide)
  have hopen := lex_link (by decide) htable (by decide : lex " (" = some [.symbol '('])
    (lex_commas hdefinitions)
  have hclosed := lex_append_of_startsApart hopen (by decide : lex ")" = some [.symbol ')'])
    (by decide)
  rw [definitionTokens, ← List.append_assoc]
  exact hclosed

/-- The values of a row, in brackets; as many parameters as are `passed` belong to other rows. -/
def tupleTokens (passed : Nat) (columns : List Column) : List Token :=
  [Token.symbol '('] ++
    commaTokens (columns.zipIdx.map fun (c, i) =>
      castTokens [.placeholder (passed + i + 1)] c.type) ++
    [Token.symbol ')']

theorem lex_valueTuple (passed : Nat) (columns : List Column) :
    lex (valueTuple passed columns) = some (tupleTokens passed columns) := by
  have hcells := lex_commas_map columns.zipIdx
    fun ci _ => lex_castAs (lex_placeholder (passed + ci.2)) ci.1.type
  have hopen := lex_append_of_endsApart (by decide : lex "(" = some [.symbol '(']) hcells
    (by decide)
  exact lex_append_of_startsApart hopen (by decide : lex ")" = some [.symbol ')']) (by decide)

/-- The names of the columns that are written, with the bracket behind them. -/
def nameTokens (columns : List Column) : List Token :=
  commaTokens (columns.map fun c => [.name c.name]) ++ [Token.symbol ')']

def valuesTokens (columns : List Column) (rows : Nat) : List Token :=
  commaTokens ((List.range rows).map fun row => tupleTokens (row * columns.length) columns)

theorem lex_insert (table : String) (columns : List Column) (rows : Nat) :
    lex (insert table columns rows) =
      some ([Token.word "INSERT", .word "INTO", .name table, .symbol '('] ++
        (nameTokens columns ++ .word "VALUES" :: valuesTokens columns rows)) := by
  have htable := lex_append_of_endsApart
    (by decide : lex "INSERT INTO " = some [.word "INSERT", .word "INTO"]) (lex_quoteIdent table)
    (by decide)
  have hnames := lex_link (by decide) htable (by decide : lex " (" = some [.symbol '('])
    (lex_commas_map columns fun c _ => lex_quoteIdent c.name)
  have hvalues := lex_link (by decide) hnames
    (by decide : lex ") VALUES " = some [.symbol ')', .word "VALUES"])
    (lex_commas_map (List.range rows)
      fun row _ => lex_valueTuple (row * columns.length) columns)
  rw [List.append_assoc] at hvalues
  rw [nameTokens, List.append_assoc, ← List.append_assoc]
  exact hvalues

/-- The query that reads a source table. -/
def selectTokens (schema table : String) (columns : List Column) : List Token :=
  [Token.word "SELECT"] ++
    commaTokens (columns.map fun c =>
      [Token.word "CAST", .symbol '('] ++ castTokens [.name c.name] c.type ++
        [Token.word "AS", .word "text", .symbol ')']) ++
    [Token.word "FROM", .name schema, .symbol '.', .name table]

theorem lex_select (schema table : String) (columns : List Column) :
    lex (select schema table columns) = some (selectTokens schema table columns) := by
  have hcell : ∀ c ∈ columns, lex ("CAST(" ++ castAs (quoteIdent c.name) c.type ++ " AS text)") =
      some ([Token.word "CAST", .symbol '('] ++ castTokens [.name c.name] c.type ++
        [Token.word "AS", .word "text", .symbol ')']) := by
    intro c _
    have hopen := lex_append_of_endsApart
      (by decide : lex "CAST(" = some [.word "CAST", .symbol '('])
      (lex_castAs (lex_quoteIdent c.name) c.type) (by decide)
    exact lex_append_of_startsApart hopen
      (by decide : lex " AS text)" = some [.word "AS", .word "text", .symbol ')']) (by decide)
  have hcells := lex_append_of_endsApart (by decide : lex "SELECT " = some [.word "SELECT"])
    (lex_commas_map columns hcell) (by decide)
  have hschema := lex_link (by decide) hcells (by decide : lex " FROM " = some [.word "FROM"])
    (lex_quoteIdent schema)
  have htable := lex_link (by decide) hschema (by decide : lex "." = some [.symbol '.'])
    (lex_quoteIdent table)
  rw [List.append_assoc, List.append_assoc, List.append_assoc] at htable
  exact htable

theorem lex_fetch (rows : Nat) :
    lex (fetch rows) = some [.word "FETCH", .word "FORWARD", .number (toString rows), .word "FROM",
      .word cursorName] := by
  have hcount := lex_append_of_endsApart
    (by decide : lex "FETCH FORWARD " = some [.word "FETCH", .word "FORWARD"]) (lex_number rows)
    (by decide)
  exact lex_link (by decide) hcount (by decide : lex " FROM " = some [.word "FROM"])
    (by decide : lex cursorName = some [.word cursorName])

end Statements

/-! ## Statements -/

/-- What a statement does to a table. -/
inductive Edit where
  /-- Creates it with a definition, whose tokens are kept as they are. -/
  | create (definition : List Token)
  | setTriggers (enabled : Bool)
  | truncate
  /-- Inserts rows of these columns; the cells are parameters, row by row. -/
  | insert (names : List String) (holes : List Nat)
  deriving DecidableEq, Repr

inductive Statement where
  | begin (readOnly : Bool)
  | commit
  | rollback
  | declare (cursor : String) (query : List Token)
  | close (cursor : String)
  | fetch (count : Nat) (cursor : String)
  | edit (table : String) (what : Edit)
  deriving DecidableEq, Repr

/-- The name that a token is. -/
def name? : Token → Option String
  | .name value => some value
  | _ => none

namespace Statement

/-- Reads what stands behind the opening bracket of an insertion. -/
def readInsert? (table : String) (ts : List Token) : Option Statement :=
  let names := (ts.takeWhile (· != .word "VALUES")).filterMap name?
  let holes := (ts.dropWhile (· != .word "VALUES")).filterMap Token.placeholder?
  if names.isEmpty then none else some (.edit table (.insert names holes))

/-- Reads one statement. -/
def read? : List Token → Option Statement
  | [.word "BEGIN"] => some (.begin false)
  | [.word "BEGIN", .word "READ", .word "ONLY"] => some (.begin true)
  | [.word "COMMIT"] => some .commit
  | [.word "ROLLBACK"] => some .rollback
  | .word "DECLARE" :: .word cursor :: .word "NO" :: .word "SCROLL" :: .word "CURSOR" ::
      .word "FOR" :: query => some (.declare cursor query)
  | [.word "CLOSE", .word cursor] => some (.close cursor)
  | [.word "FETCH", .word "FORWARD", .number count, .word "FROM", .word cursor] =>
    some (.fetch (Nat.ofDigitChars 10 count.toList 0) cursor)
  | .word "CREATE" :: .word "TABLE" :: .name table :: .symbol '(' :: definition =>
    some (.edit table (.create definition))
  | [.word "ALTER", .word "TABLE", .name table, .word "DISABLE", .word "TRIGGER", .word "USER"] =>
    some (.edit table (.setTriggers false))
  | [.word "ALTER", .word "TABLE", .name table, .word "ENABLE", .word "TRIGGER", .word "USER"] =>
    some (.edit table (.setTriggers true))
  | [.word "TRUNCATE", .word "TABLE", .name table] => some (.edit table .truncate)
  | .word "INSERT" :: .word "INTO" :: .name table :: .symbol '(' :: rest => readInsert? table rest
  | _ => none

/-- Reads the statements between semicolons. -/
def readTokens? (ts : List Token) : Option (List Statement) :=
  (ts.splitOnP (· == .symbol ';')).mapM read?

/-- Reads the statements of a text. -/
def readAll? (sql : String) : Option (List Statement) := (lex sql).bind readTokens?

/-- How many parameters a text has. -/
def parameters (sql : String) : Nat :=
  (((lex sql).getD []).filterMap Token.placeholder?).length

/-- Tokens within one statement. -/
def Unbroken (ts : List Token) : Prop := ∀ t ∈ ts, t ≠ .symbol ';'

instance : DecidablePred Unbroken :=
  fun ts => inferInstanceAs (Decidable (∀ t ∈ ts, t ≠ .symbol ';'))

theorem readTokens?_of_unbroken {ts : List Token} (h : Unbroken ts) :
    readTokens? ts = (read? ts).map ([·]) := by
  have hone : ts.splitOnP (· == .symbol ';') = [ts] :=
    List.splitOnP_eq_singleton fun t ht => beq_eq_false_iff_ne.2 (h t ht)
  rw [readTokens?, hone, List.mapM_cons, List.mapM_nil]
  cases read? ts <;> rfl

theorem readTokens?_append (ts : List Token) {rest : List Token} {st : Statement}
    {sts : List Statement} (h : Unbroken ts) (hst : read? ts = some st)
    (hrest : readTokens? rest = some sts) :
    readTokens? (ts ++ .symbol ';' :: rest) = some (st :: sts) := by
  have hcut : (ts ++ .symbol ';' :: rest).splitOnP (· == .symbol ';') =
      ts :: rest.splitOnP (· == .symbol ';') :=
    List.splitOnP_append_cons_of_forall_mem (fun t ht => beq_eq_false_iff_ne.2 (h t ht)) _ rfl _
  rw [readTokens?] at hrest ⊢
  rw [hcut, List.mapM_cons, hst, hrest]
  rfl

namespace Unbroken

variable {a b : List Token}

theorem append (ha : Unbroken a) (hb : Unbroken b) : Unbroken (a ++ b) :=
  List.forall_mem_append.2 ⟨ha, hb⟩

theorem commaTokens {parts : List (List Token)} (h : ∀ ts ∈ parts, Unbroken ts) :
    Unbroken (commaTokens parts) :=
  Sql.forall_mem_commaTokens (by decide) h

theorem type (type : ColumnType) : Unbroken type.tokens := by
  cases type <;> simp [Unbroken, ColumnType.tokens]

theorem castTokens (ha : Unbroken a) (t : ColumnType) : Unbroken (Statements.castTokens a t) := by
  have hopen : Unbroken [.word "CAST", .symbol '('] := by decide
  exact (((hopen.append ha).append (by decide)).append (type t)).append (by decide)

theorem definitions (columns : List Column) : Unbroken (Statements.definitionTokens columns) := by
  refine append (commaTokens fun ts hts => ?_) (by decide)
  rw [List.mem_append, List.mem_map, List.mem_map] at hts
  rcases hts with ⟨c, _, rfl⟩ | ⟨name, _, rfl⟩
  · have hname : Unbroken [.name c.name] := by simp [Unbroken]
    refine append (append hname (type c.type)) ?_
    cases c.nullable <;> decide
  · simp [Unbroken, Statements.auditTokens]

theorem select (schema table : String) (columns : List Column) :
    Unbroken (Statements.selectTokens schema table columns) := by
  refine append (append (by decide) (commaTokens fun ts hts => ?_)) (by simp [Unbroken])
  obtain ⟨c, _, rfl⟩ := List.mem_map.1 hts
  have hname : Unbroken [.name c.name] := by simp [Unbroken]
  exact append (append (by decide) (castTokens hname c.type)) (by decide)

theorem names (columns : List Column) : Unbroken (Statements.nameTokens columns) := by
  refine append (commaTokens fun ts hts => ?_) (by decide)
  obtain ⟨c, _, rfl⟩ := List.mem_map.1 hts
  simp [Unbroken]

theorem values (columns : List Column) (rows : Nat) :
    Unbroken (Statements.valuesTokens columns rows) := by
  refine commaTokens fun ts hts => ?_
  obtain ⟨row, _, rfl⟩ := List.mem_map.1 hts
  refine append (append (by decide) (commaTokens fun ts hts => ?_)) (by decide)
  obtain ⟨ci, _, rfl⟩ := List.mem_map.1 hts
  exact castTokens (by simp [Unbroken]) ci.1.type

end Unbroken

end Statement

/-! ## Texts -/

namespace Statements

open Statement (Unbroken read? readAll? readTokens? readTokens?_append readTokens?_of_unbroken)

variable (table : String) (columns : List Column)

theorem readAll?_commit : readAll? commit = some [.commit] := by decide +kernel

theorem readAll?_rollback : readAll? rollback = some [.rollback] := by decide +kernel

theorem readAll?_closeCursor : readAll? closeCursor = some [.close cursorName, .commit] := by
  decide +kernel

theorem readAll?_beginCreate : readAll? (beginCreate table columns) =
    some [.begin false, .edit table (.create (definitionTokens columns))] := by
  have htext := lex_append_of_endsApart
    (by decide : lex "BEGIN; " = some [.word "BEGIN", .symbol ';'])
    (lex_createTable table columns) (by decide)
  have hlex : lex (beginCreate table columns) = some ([Token.word "BEGIN"] ++ .symbol ';' ::
      ([Token.word "CREATE", .word "TABLE", .name table, .symbol '('] ++
        definitionTokens columns)) := htext
  have hcreate : Unbroken ([Token.word "CREATE", .word "TABLE", .name table, .symbol '('] ++
      definitionTokens columns) :=
    Unbroken.append (by simp [Unbroken]) (Unbroken.definitions columns)
  have hread : read? ([Token.word "CREATE", .word "TABLE", .name table, .symbol '('] ++
      definitionTokens columns) = some (.edit table (.create (definitionTokens columns))) := rfl
  rw [readAll?, hlex, Option.bind_some]
  refine readTokens?_append [.word "BEGIN"] (by decide) rfl ?_
  rw [readTokens?_of_unbroken hcreate, hread, Option.map_some]

/-- The tokens that turn the triggers of a table off or on. -/
def triggerTokens (table switch : String) : List Token :=
  [.word "ALTER", .word "TABLE", .name table, .word switch, .word "TRIGGER", .word "USER"]

theorem readAll?_beginReplace : readAll? (beginReplace table) =
    some [.begin false, .edit table (.setTriggers false), .edit table .truncate] := by
  have htable := lex_append_of_endsApart
    (by decide +kernel : lex "BEGIN; ALTER TABLE " =
      some [.word "BEGIN", .symbol ';', .word "ALTER", .word "TABLE"]) (lex_quoteIdent table)
    (by decide)
  have htext := lex_link (by decide) htable
    (by decide +kernel : lex " DISABLE TRIGGER USER; TRUNCATE TABLE " = some [.word "DISABLE",
      .word "TRIGGER", .word "USER", .symbol ';', .word "TRUNCATE", .word "TABLE"])
    (lex_quoteIdent table)
  have hlex : lex (beginReplace table) = some ([Token.word "BEGIN"] ++ .symbol ';' ::
      (triggerTokens table "DISABLE" ++ Token.symbol ';' ::
        [Token.word "TRUNCATE", .word "TABLE", .name table])) := htext
  have hdisable : read? (triggerTokens table "DISABLE") =
      some (.edit table (.setTriggers false)) := rfl
  have htruncate : read? [.word "TRUNCATE", .word "TABLE", .name table] =
      some (.edit table .truncate) := rfl
  rw [readAll?, hlex, Option.bind_some]
  refine readTokens?_append [.word "BEGIN"] (by decide) rfl ?_
  refine readTokens?_append _ (by simp [Unbroken, triggerTokens]) hdisable ?_
  rw [readTokens?_of_unbroken (by simp [Unbroken]), htruncate, Option.map_some]

theorem readAll?_commitReplace : readAll? (commitReplace table) =
    some [.edit table (.setTriggers true), .commit] := by
  have htable := lex_append_of_endsApart
    (by decide : lex "ALTER TABLE " = some [.word "ALTER", .word "TABLE"]) (lex_quoteIdent table)
    (by decide)
  have htext := lex_append_of_startsApart htable
    (by decide +kernel : lex " ENABLE TRIGGER USER; COMMIT" = some [.word "ENABLE",
      .word "TRIGGER", .word "USER", .symbol ';', .word "COMMIT"]) (by decide)
  have hlex : lex (commitReplace table) =
      some (triggerTokens table "ENABLE" ++ Token.symbol ';' :: [Token.word "COMMIT"]) := htext
  have henable : read? (triggerTokens table "ENABLE") =
      some (.edit table (.setTriggers true)) := rfl
  rw [readAll?, hlex, Option.bind_some]
  refine readTokens?_append _ (by simp [Unbroken, triggerTokens]) henable ?_
  rw [readTokens?_of_unbroken (by decide)]
  rfl

/-- The tokens before the query of a cursor. -/
def declareTokens : List Token :=
  [.word "DECLARE", .word cursorName, .word "NO", .word "SCROLL", .word "CURSOR", .word "FOR"]

theorem readAll?_openCursor (schema : String) : readAll? (openCursor schema table columns) =
    some [.begin true, .declare cursorName (selectTokens schema table columns)] := by
  have htext := lex_append_of_endsApart
    (by decide +kernel :
      lex ("BEGIN READ ONLY; DECLARE " ++ cursorName ++ " NO SCROLL CURSOR FOR ") =
        some ([Token.word "BEGIN", .word "READ", .word "ONLY"] ++ .symbol ';' :: declareTokens))
    (lex_select schema table columns) (by decide +kernel)
  rw [List.append_assoc] at htext
  have hdeclare : Unbroken (declareTokens ++ selectTokens schema table columns) :=
    Unbroken.append (by decide) (Unbroken.select schema table columns)
  have hread : read? (declareTokens ++ selectTokens schema table columns) =
      some (.declare cursorName (selectTokens schema table columns)) := rfl
  have hone : readTokens? (declareTokens ++ selectTokens schema table columns) =
      some [.declare cursorName (selectTokens schema table columns)] := by
    rw [readTokens?_of_unbroken hdeclare, hread, Option.map_some]
  refine (congrArg (·.bind readTokens?) htext).trans ?_
  exact readTokens?_append [.word "BEGIN", .word "READ", .word "ONLY"] (by decide) rfl hone

theorem readAll?_fetch (count : Nat) :
    readAll? (fetch count) = some [.fetch count cursorName] := by
  have hcount : Nat.ofDigitChars 10 (toString count).toList 0 = count := by
    rw [Nat.toString_eq_repr, Nat.toList_repr, Nat.ofDigitChars_ten_toDigits]
  have hread : read? [.word "FETCH", .word "FORWARD", .number (toString count), .word "FROM",
      .word cursorName] = some (.fetch count cursorName) :=
    congrArg (fun n => some (Statement.fetch n cursorName)) hcount
  rw [readAll?, lex_fetch, Option.bind_some, readTokens?_of_unbroken (by simp [Unbroken]), hread]
  rfl

/-! ## Insertions -/

theorem filterMap_commaTokens {α : Type} {f : Token → Option α} (hf : f (.symbol ',') = none)
    (parts : List (List Token)) :
    (commaTokens parts).filterMap f = parts.flatMap (·.filterMap f) := by
  induction parts with
  | nil => rfl
  | cons ts rest ih =>
    cases rest with
    | nil => simp [commaTokens]
    | cons _ _ =>
      rw [commaTokens] at ih
      rw [commaTokens, List.intercalate_cons_cons, List.filterMap_append, List.filterMap_append, ih]
      simp [hf]

theorem names_nameTokens : (nameTokens columns).filterMap name? = columns.map (·.name) := by
  have hbracket : [Token.symbol ')'].filterMap name? = [] := rfl
  have hname : ∀ c : Column, [Token.name c.name].filterMap name? = [c.name] := fun _ => rfl
  rw [nameTokens, List.filterMap_append, filterMap_commaTokens rfl, List.flatMap_map, hbracket,
    List.append_nil]
  simp only [hname]
  exact List.map_eq_flatMap.symm

theorem holes_castTokens (k : Nat) (type : ColumnType) :
    (castTokens [.placeholder k] type).filterMap Token.placeholder? = [k] := by
  cases type <;> rfl

theorem holes_tupleTokens (passed : Nat) :
    (tupleTokens passed columns).filterMap Token.placeholder? =
      List.range' (passed + 1) columns.length := by
  have hbefore : [Token.symbol '('].filterMap Token.placeholder? = [] := rfl
  have hbehind : [Token.symbol ')'].filterMap Token.placeholder? = [] := rfl
  have hnumbers : columns.zipIdx.map (fun ci => passed + ci.2 + 1) =
      (columns.zipIdx.map Prod.snd).map (passed + 1 + ·) := by
    rw [List.map_map]
    refine List.map_congr_left fun ci _ => ?_
    show passed + ci.2 + 1 = passed + 1 + ci.2
    omega
  rw [tupleTokens, List.filterMap_append, List.filterMap_append, filterMap_commaTokens rfl,
    List.flatMap_map, hbefore, hbehind, List.append_nil, List.nil_append]
  simp only [holes_castTokens]
  rw [← List.map_eq_flatMap, hnumbers, List.zipIdx_map_snd, ← List.range_eq_range',
    ← List.range'_eq_map_range]

/-- The parameters of an insertion are numbered row by row. -/
theorem holes_valuesTokens (rows : Nat) :
    (valuesTokens columns rows).filterMap Token.placeholder? =
      List.range' 1 (rows * columns.length) := by
  rw [valuesTokens, filterMap_commaTokens rfl, List.flatMap_map]
  simp only [holes_tupleTokens]
  induction rows with
  | zero => simp
  | succ rows ih =>
    rw [List.range_succ, List.flatMap_append, ih, List.flatMap_singleton, Nat.succ_mul,
      Nat.add_comm (rows * columns.length) 1, List.range'_append_1]

/-- An insertion into no columns cannot be read. -/
theorem readAll?_insert (rows : Nat) : readAll? (insert table columns rows) =
    if columns.isEmpty then none
    else some [.edit table (.insert (columns.map (·.name))
      (List.range' 1 (rows * columns.length)))] := by
  have hword : ∀ t ∈ nameTokens columns, (t != .word "VALUES") = true := by
    refine List.forall_mem_append.2 ⟨Sql.forall_mem_commaTokens rfl fun ts hts => ?_, by decide⟩
    obtain ⟨c, _, rfl⟩ := List.mem_map.1 hts
    exact List.forall_mem_singleton.2 rfl
  have hunbroken : Unbroken ([Token.word "INSERT", .word "INTO", .name table, .symbol '('] ++
      (nameTokens columns ++ .word "VALUES" :: valuesTokens columns rows)) := by
    refine Unbroken.append (by simp [Unbroken]) (Unbroken.append (Unbroken.names columns) ?_)
    exact Unbroken.append (a := [.word "VALUES"]) (by decide) (Unbroken.values columns rows)
  have hread : read? ([Token.word "INSERT", .word "INTO", .name table, .symbol '('] ++
      (nameTokens columns ++ .word "VALUES" :: valuesTokens columns rows)) =
        Statement.readInsert? table
          (nameTokens columns ++ .word "VALUES" :: valuesTokens columns rows) := rfl
  have hholes : (Token.word "VALUES" :: valuesTokens columns rows).filterMap Token.placeholder? =
      List.range' 1 (rows * columns.length) := holes_valuesTokens columns rows
  rw [readAll?, lex_insert, Option.bind_some, readTokens?_of_unbroken hunbroken, hread,
    Statement.readInsert?, List.takeWhile_append_of_pos hword, List.dropWhile_append_of_pos hword,
    List.takeWhile_cons_of_neg (by decide), List.dropWhile_cons_of_neg (by decide),
    List.append_nil, names_nameTokens, hholes]
  simp only [List.isEmpty_map]
  cases columns.isEmpty <;> rfl

end Statements

end Postgres
end Granary
