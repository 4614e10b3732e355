import Granary.Proofs.Postgres.Statement
import Granary.Proofs.Sql.Condition

/-!
# Commands read back

The statements that create a table, read it, fill it and give it its primary key, read from their
texts as a database reads them: the names between the quotes, the types behind the names, the values
inside their casts.  The reader knows nothing of what wrote a text.  What is read is told by tokens
alone, so that a name may have any characters in it.

`Legible` is that the four texts of a table agree: whatever the names are, each of them says the
same columns in the same order, with the same types.
-/

namespace Granary

open Sql (Reading Token commaTokens lex lex_append_of_endsApart lex_append_of_startsApart
  lex_commas_map lex_link lex_quoteIdent)

namespace Sql.Reading

variable {α β : Type}

/-- Something between parentheses. -/
def parenthesized (inner : Reading α) : Reading α
  | .symbol '(' :: rest =>
    match inner rest with
    | some (a, .symbol ')' :: rest) => some (a, rest)
    | _ => none
  | _ => none

/-- Items with commas between them, one at least and `n` at most. -/
def items (item : Reading α) : Nat → Reading (List α)
  | 0, _ => none
  | n + 1, ts =>
    (item ts).bind fun (a, rest) =>
      if rest.head? = some (.symbol ',') then
        (items item n rest.tail).map fun (as, rest) => (a :: as, rest)
      else some ([a], rest)

/-- Items with commas between them; there cannot be more than there are tokens. -/
def separated (item : Reading α) : Reading (List α) := fun ts => items item (ts.length + 1) ts

/-- Something with nothing behind it. -/
def whole (item : Reading α) (ts : List Token) : Option α :=
  match item ts with
  | some (a, []) => some a
  | _ => none

def quoted : Reading String
  | .name value :: rest => some (value, rest)
  | _ => none

theorem whole_eq {item : Reading α} {a : α} {ts : List Token} (h : item ts = some (a, [])) :
    whole item ts = some a := by
  simp only [whole, h]

theorem parenthesized_append {inner : Reading α} {a : α} {ts rest : List Token}
    (h : inner (ts ++ .symbol ')' :: rest) = some (a, .symbol ')' :: rest)) :
    parenthesized inner (.symbol '(' :: (ts ++ .symbol ')' :: rest)) = some (a, rest) := by
  simp only [parenthesized, h]

/-- Whether tokens are read as an item wherever one may stand in a list that `rest` follows. -/
def Reads (item : Reading α) (rest ts : List Token) (a : α) : Prop :=
  ∀ more, more = rest ∨ more.head? = some (.symbol ',') → item (ts ++ more) = some (a, more)

variable {item : Reading α} {rest : List Token}

theorem items_append (hrest : rest.head? ≠ some (.symbol ',')) {parts : List (List Token)}
    {as : List α} (h : List.Forall₂ (Reads item rest) parts as) (hne : parts ≠ []) {n : Nat}
    (hn : parts.length ≤ n) : items item n (commaTokens parts ++ rest) = some (as, rest) := by
  induction h generalizing n with
  | nil => exact absurd rfl hne
  | @cons ts a parts as hts hparts ih =>
    obtain ⟨n, rfl⟩ : ∃ m, n = m + 1 := ⟨n - 1, by rw [List.length_cons] at hn; omega⟩
    cases hparts with
    | nil =>
      rw [commaTokens, List.intercalate_singleton, items, hts rest (.inl rfl)]
      exact if_neg hrest
    | cons =>
      have htail := ih (List.cons_ne_nil _ _) (Nat.le_of_succ_le_succ hn)
      rw [commaTokens] at htail
      rw [commaTokens, List.intercalate_cons_cons, List.append_assoc, List.append_assoc,
        List.singleton_append, items, hts _ (.inr rfl), Option.bind_some]
      refine (if_pos rfl).trans ?_
      rw [List.tail_cons, htail]
      rfl

theorem length_le_commaTokens (parts : List (List Token)) :
    parts.length ≤ (commaTokens parts).length + 1 := by
  induction parts with
  | nil => exact Nat.zero_le _
  | cons ts rest ih =>
    cases rest with
    | nil => exact Nat.succ_le_succ (Nat.zero_le _)
    | cons _ _ =>
      rw [commaTokens] at ih
      rw [commaTokens, List.intercalate_cons_cons, List.length_append, List.length_append,
        List.length_cons, List.length_singleton]
      omega

theorem separated_append (hrest : rest.head? ≠ some (.symbol ',')) {parts : List (List Token)}
    {as : List α} (h : List.Forall₂ (Reads item rest) parts as) (hne : parts ≠ []) :
    separated item (commaTokens parts ++ rest) = some (as, rest) := by
  refine items_append hrest h hne ?_
  have hlength := length_le_commaTokens parts
  rw [List.length_append]
  omega

theorem separated_map (hrest : rest.head? ≠ some (.symbol ',')) {parts : List β}
    {tokens : β → List Token} {read : β → α}
    (h : ∀ b ∈ parts, ∀ more, item (tokens b ++ more) = some (read b, more)) (hne : parts ≠ []) :
    separated item (commaTokens (parts.map tokens) ++ rest) = some (parts.map read, rest) := by
  refine separated_append hrest ?_ (by simpa using hne)
  rw [List.forall₂_map_left_iff, List.forall₂_map_right_iff, List.forall₂_same]
  exact fun b hb more _ => h b hb more

end Sql.Reading

namespace Postgres

open Replica (Column ColumnType)

/-! ## The reader -/

inductive Value where
  | column (name : String)
  /-- The parameter of the given number, counted from one. -/
  | parameter (number : Nat)
  | cast (inner : Value) (type : ColumnType)
  deriving DecidableEq, Repr

/-- A column of a new table, with the word that its values default to. -/
structure Definition where
  name : String
  type : ColumnType
  notNull : Bool
  byDefault : Option String
  deriving DecidableEq, Repr

inductive Command where
  | createTable (table : String) (columns : List Definition)
  | select (values : List Value) (schema table : String)
  | insert (table : String) (names : List String) (rows : List (List Value))
  | addPrimaryKey (table : String) (key : List String)
  deriving DecidableEq, Repr

namespace Command

open Sql.Reading (Reads parenthesized parenthesized_append quoted separated separated_append
  separated_map whole whole_eq)

/-- The types that are one word. -/
def plainTypes : List (String × ColumnType) := [
  ("smallint", .smallInt), ("integer", .integer), ("bigint", .bigInt), ("real", .real),
  ("date", .date), ("time", .time), ("timetz", .timeTz), ("timestamp", .timestamp),
  ("timestamptz", .timestampTz), ("boolean", .boolean), ("json", .json), ("jsonb", .jsonb),
  ("uuid", .uuid), ("inet", .inet), ("text", .text)]

def natural (digits : String) : Nat := Nat.ofDigitChars 10 digits.toList 0

def type : Reading ColumnType
  | .word "numeric" :: .symbol '(' :: .number precision :: .symbol ',' :: .number scale ::
      .symbol ')' :: rest => some (.numeric (natural precision) (natural scale), rest)
  | .word "varchar" :: .symbol '(' :: .number length :: .symbol ')' :: rest =>
    some (.varchar (natural length), rest)
  | .word "char" :: .symbol '(' :: .number length :: .symbol ')' :: rest =>
    some (.char (natural length), rest)
  | .word "double" :: .word "precision" :: rest => some (.doublePrecision, rest)
  | .word chars :: rest => (plainTypes.lookup chars).map (·, rest)
  | _ => none

def value : Reading Value
  | .name column :: rest => some (.column column, rest)
  | .placeholder number :: rest => some (.parameter number, rest)
  | .word "CAST" :: .symbol '(' :: rest =>
    match value rest with
    | some (inner, .word "AS" :: rest) =>
      match type rest with
      | some (t, .symbol ')' :: rest) => some (.cast inner t, rest)
      | _ => none
    | _ => none
  | _ => none

/-- What may stand behind the type of a column. -/
def constraints : Reading (Bool × Option String)
  | .word "NOT" :: .word "NULL" :: .word "DEFAULT" :: .word chars :: rest =>
    some ((true, some chars), rest)
  | .word "NOT" :: .word "NULL" :: rest => some ((true, none), rest)
  | .word "DEFAULT" :: .word chars :: rest => some ((false, some chars), rest)
  | rest => some ((false, none), rest)

def definition : Reading Definition
  | .name column :: rest =>
    (type rest).bind fun (t, rest) =>
      (constraints rest).map fun ((notNull, byDefault), rest) =>
        (⟨column, t, notNull, byDefault⟩, rest)
  | _ => none

def names : Reading (List String) := parenthesized (separated quoted)

def tuple : Reading (List Value) := parenthesized (separated value)

/-- The command that some tokens are, if they are one and nothing else. -/
def ofTokens : List Token → Option Command
  | .word "CREATE" :: .word "TABLE" :: .name table :: rest =>
    (whole (parenthesized (separated definition)) rest).map (.createTable table)
  | .word "SELECT" :: rest =>
    (separated value rest).bind fun
      | (values, [.word "FROM", .name schema, .symbol '.', .name table]) =>
        some (.select values schema table)
      | _ => none
  | .word "INSERT" :: .word "INTO" :: .name table :: rest =>
    (names rest).bind fun
      | (columns, .word "VALUES" :: rest) =>
        (whole (separated tuple) rest).map (.insert table columns)
      | _ => none
  | .word "ALTER" :: .word "TABLE" :: .name table :: .word "ADD" :: .word "PRIMARY" ::
      .word "KEY" :: rest => (whole names rest).map (.addPrimaryKey table)
  | _ => none

def read (sql : String) : Option Command := (lex sql).bind ofTokens

/-- Casts may stand in each other, and a parenthesis in a name is part of the name. -/
example : read "SELECT CAST(CAST(\"a)\"\"\" AS numeric(7, 2)) AS text), $3 FROM \"s\".\"t\"" =
    some (.select [.cast (.cast (.column "a)\"") (.numeric 7 2)) .text, .parameter 3] "s" "t") := by
  decide +kernel

/-! ## What the reader makes of tokens -/

theorem natural_toString (n : Nat) : natural (toString n) = n := by
  rw [natural, Nat.toString_eq_repr, Nat.toList_repr, Nat.ofDigitChars_ten_toDigits]

theorem type_append (t : ColumnType) (rest : List Token) :
    type (t.tokens ++ rest) = some (t, rest) := by
  cases t with
  | numeric precision scale =>
    show some (ColumnType.numeric (natural _) (natural _), rest) = _
    rw [natural_toString, natural_toString]
  | varchar length =>
    show some (ColumnType.varchar (natural _), rest) = _
    rw [natural_toString]
  | char length =>
    show some (ColumnType.char (natural _), rest) = _
    rw [natural_toString]
  | _ => rfl

theorem value_castTokens {inner : Value} {ts : List Token}
    (h : ∀ rest, value (ts ++ rest) = some (inner, rest)) (t : ColumnType) (rest : List Token) :
    value (Statements.castTokens ts t ++ rest) = some (.cast inner t, rest) := by
  have hcast : Statements.castTokens ts t ++ rest = .word "CAST" :: .symbol '(' ::
      (ts ++ .word "AS" :: (t.tokens ++ .symbol ')' :: rest)) := by
    simp [Statements.castTokens]
  rw [hcast, value]
  simp only [h, type_append]

theorem names_append {α : Type} {items : List α} (hne : items ≠ []) (name : α → String)
    (rest : List Token) :
    names (.symbol '(' :: (commaTokens (items.map fun a => [.name (name a)]) ++
      .symbol ')' :: rest)) = some (items.map name, rest) :=
  parenthesized_append (separated_map (by simp) (fun _ _ _ => rfl) hne)

/-- The values of a row whose parameters follow as many others. -/
def cells (passed : Nat) (columns : List Column) : List Value :=
  columns.zipIdx.map fun (c, i) => .cast (.parameter (passed + i + 1)) c.type

theorem tuple_append (passed : Nat) {columns : List Column} (hne : columns ≠ [])
    (rest : List Token) :
    tuple (Statements.tupleTokens passed columns ++ rest) = some (cells passed columns, rest) := by
  rw [Statements.tupleTokens, List.append_assoc, List.append_assoc]
  refine parenthesized_append (separated_map (by simp) (fun ci _ more => ?_) (by simpa using hne))
  exact value_castTokens (fun _ => rfl) ci.1.type more

/-- What is written of a column. -/
def defined (c : Column) : Definition := ⟨c.name, c.type, !c.nullable, none⟩

def audited (name : String) : Definition := ⟨name, .timestamp, false, some "CURRENT_TIMESTAMP"⟩

theorem reads_columnTokens (c : Column) (rest : List Token) :
    Reads definition (.symbol ')' :: rest) (Statements.columnTokens c) (defined c) := by
  intro more hmore
  -- neither a comma nor a parenthesis is taken for a constraint
  have hplain : constraints more = some ((false, none), more) := by
    rcases hmore with rfl | hmore
    · rfl
    · obtain ⟨more, rfl⟩ := List.head?_eq_some_iff.1 hmore
      rfl
  have hnotNull : constraints (.word "NOT" :: .word "NULL" :: more) =
      some ((true, none), more) := by
    rcases hmore with rfl | hmore
    · rfl
    · obtain ⟨more, rfl⟩ := List.head?_eq_some_iff.1 hmore
      rfl
  rw [Statements.columnTokens, defined, List.append_assoc, List.append_assoc,
    List.singleton_append, definition, type_append, Option.bind_some]
  cases c.nullable with
  | true => exact congrArg (Option.map _) hplain
  | false => exact congrArg (Option.map _) hnotNull

theorem reads_auditTokens (name : String) (rest : List Token) :
    Reads definition rest (Statements.auditTokens name) (audited name) :=
  fun _ _ => rfl

/-! ## What the reader makes of texts -/

variable (schema table : String) {columns : List Column}

theorem read_createTable (columns : List Column) :
    read (Statements.createTable table columns) =
      some (.createTable table (columns.map defined ++ Replica.auditColumns.map audited)) := by
  have hdefinitions : List.Forall₂ (Reads definition [.symbol ')'])
      (columns.map Statements.columnTokens ++ Replica.auditColumns.map Statements.auditTokens)
      (columns.map defined ++ Replica.auditColumns.map audited) := by
    refine List.rel_append ?_ ?_
    · rw [List.forall₂_map_left_iff, List.forall₂_map_right_iff, List.forall₂_same]
      exact fun c _ => reads_columnTokens c []
    · rw [List.forall₂_map_left_iff, List.forall₂_map_right_iff, List.forall₂_same]
      exact fun name _ => reads_auditTokens name _
  have hlist := parenthesized_append
    (separated_append (by simp) hdefinitions (by simp [Replica.auditColumns]))
  rw [read, Statements.lex_createTable, Option.bind_some, Statements.definitionTokens]
  exact congrArg (Option.map (Command.createTable table)) (whole_eq hlist)

theorem read_select (hne : columns ≠ []) :
    read (Statements.select schema table columns) =
      some (.select (columns.map fun c => .cast (.cast (.column c.name) c.type) .text)
        schema table) := by
  have hcell : ∀ c ∈ columns, ∀ more, value ([Token.word "CAST", .symbol '('] ++
      Statements.castTokens [.name c.name] c.type ++ [Token.word "AS", .word "text", .symbol ')'] ++
        more) = some (.cast (.cast (.column c.name) c.type) .text, more) := by
    intro c _ more
    have hinner : ∀ rest, value (Statements.castTokens [.name c.name] c.type ++ rest) =
        some (.cast (.column c.name) c.type, rest) := value_castTokens (fun _ => rfl) c.type
    have houter := value_castTokens hinner .text more
    rwa [Statements.castTokens, List.append_assoc _ [Token.word "AS"],
      List.append_assoc _ ([Token.word "AS"] ++ _)] at houter
  rw [read, Statements.lex_select, Option.bind_some, Statements.selectTokens, List.append_assoc,
    List.singleton_append, ofTokens, separated_map (by simp) hcell hne]
  rfl

theorem read_insert (hne : columns ≠ []) {rows : Nat} (hrows : rows ≠ 0) :
    read (Statements.insert table columns rows) =
      some (.insert table (columns.map (·.name))
        ((List.range rows).map fun row => cells (row * columns.length) columns)) := by
  have hnames := names_append hne (·.name) (.word "VALUES" :: Statements.valuesTokens columns rows)
  have htuples : separated tuple (Statements.valuesTokens columns rows) =
      some ((List.range rows).map fun row => cells (row * columns.length) columns, []) := by
    rw [← List.append_nil (Statements.valuesTokens columns rows)]
    exact separated_map (by simp) (fun row _ more => tuple_append (row * columns.length) hne more)
      (by simpa using hrows)
  rw [read, Statements.lex_insert, Option.bind_some, Statements.nameTokens, List.append_assoc _
    [Token.symbol ')'], List.singleton_append]
  refine (congrArg (Option.bind · _) hnames).trans ?_
  exact congrArg (Option.map _) (whole_eq htuples)

theorem lex_addPrimaryKey {key : List String} (hne : key ≠ []) :
    ∃ sql, Statements.addPrimaryKey table key = some sql ∧
      lex sql = some ([Token.word "ALTER", .word "TABLE", .name table, .word "ADD", .word "PRIMARY",
        .word "KEY", .symbol '('] ++
        (commaTokens (key.map ([.name ·])) ++ [Token.symbol ')'])) := by
  refine ⟨_, if_neg (by simpa using hne), ?_⟩
  have htable := lex_append_of_endsApart
    (by decide : lex "ALTER TABLE " = some [.word "ALTER", .word "TABLE"]) (lex_quoteIdent table)
    (by decide)
  have hkey := lex_link (by decide) htable
    (by decide +kernel : lex " ADD PRIMARY KEY (" = some [.word "ADD", .word "PRIMARY",
      .word "KEY", .symbol '(']) (lex_commas_map key fun name _ => lex_quoteIdent name)
  have hclosed := lex_append_of_startsApart hkey (by decide : lex ")" = some [.symbol ')'])
    (by decide)
  rw [← List.append_assoc]
  exact hclosed

theorem read_addPrimaryKey {key : List String} (hne : key ≠ []) :
    ∃ sql, Statements.addPrimaryKey table key = some sql ∧
      read sql = some (.addPrimaryKey table key) := by
  obtain ⟨sql, hsql, hlex⟩ := lex_addPrimaryKey table hne
  refine ⟨sql, hsql, ?_⟩
  have hnames := names_append hne id []
  rw [List.map_id] at hnames
  rw [read, hlex, Option.bind_some]
  exact congrArg (Option.map (Command.addPrimaryKey table)) (whole_eq hnames)

/-- What the statements of a table say.  They are of one mind on the columns: the same names in the
same order, and the same type wherever the name or a value of a column stands. -/
structure Legible (columns : List Column) (rows : Nat) : Prop where
  created : read (Statements.createTable table columns) = some (.createTable table
    (columns.map defined ++ Replica.auditColumns.map audited))
  selected : read (Statements.select schema table columns) = some (.select
    (columns.map fun c => .cast (.cast (.column c.name) c.type) .text) schema table)
  inserted : read (Statements.insert table columns rows) = some (.insert table
    (columns.map (·.name)) ((List.range rows).map fun row => cells (row * columns.length) columns))
  keyed : ∀ key, key ≠ [] → ∃ sql, Statements.addPrimaryKey table key = some sql ∧
    read sql = some (.addPrimaryKey table key)

theorem legible_of_columns (hcolumns : columns ≠ []) {rows : Nat} (hrows : 0 < rows) :
    Legible schema table columns rows where
  created := read_createTable table columns
  selected := read_select schema table hcolumns
  inserted := read_insert table hcolumns (Nat.ne_of_gt hrows)
  keyed _ hkey := read_addPrimaryKey table hkey

/-- Two columns whose names would end their identifiers and go on as SQL, if they could. -/
def hostile : List Column :=
  [⟨"a\", \"b", .numeric 10 2, false, false⟩,
    ⟨") VALUES ($1); DROP TABLE \"t\" --", .doublePrecision, true, false⟩]

theorem legible_of_hostile :
    hostile ≠ [] ∧ 0 < 2 ∧ Legible "s\".\"" "t\" (\"x\" text" hostile 2 :=
  ⟨by decide, by decide, legible_of_columns _ _ (by decide) (by decide)⟩

end Command
end Postgres
end Granary
