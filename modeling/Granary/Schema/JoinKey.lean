import Granary.Json.Value
import Granary.Schema.Snapshot
import Granary.Sql.Expr
import Granary.Text.Split

/-!
# How tables belong together

Two tables can be joined where one refers to the other: by a declared foreign key, or else because
the leading column of one table's primary key is also a column of the other.
-/

namespace Granary

open Text (lowercase sameAscii)

/-- How a join was found. -/
inductive JoinSource where
  | foreignKey | keyName
  deriving DecidableEq, Repr, Inhabited

def JoinSource.name : JoinSource → String
  | .foreignKey => "foreign_key"
  | .keyName => "primary_key_name"

/-- Two columns whose equality joins their tables. -/
structure JoinKey where
  referencingTable : String
  referencingColumn : String
  referencedTable : String
  referencedColumn : String
  source : JoinSource
  deriving DecidableEq, Repr, Inhabited

namespace JoinKey

/-- The equality, spelled as the catalog spells the names. -/
def condition (k : JoinKey) (s : Snapshot) : Sql.Expr :=
  let side (table column : String) : Sql.Expr :=
    .column (some (s.tableSpelling table)) (s.columnSpelling table column)
  .binary .eq (side k.referencingTable k.referencingColumn)
    (side k.referencedTable k.referencedColumn)

def toJson (k : JoinKey) : Json :=
  Json.ofFields [("referencing_table", .string k.referencingTable),
    ("referencing_column", .string k.referencingColumn),
    ("referenced_table", .string k.referencedTable),
    ("referenced_column", .string k.referencedColumn), ("source", .string k.source.name)]

end JoinKey

namespace Snapshot

/-- The leading key column of `owner` is a column of `other`, which is taken to refer by it. -/
def keyByName (s : Snapshot) (owner other : String) : Option JoinKey :=
  (s.leadingKey? owner).bind fun pk =>
    if s.hasColumn other pk then some ⟨other, pk, owner, pk, .keyName⟩ else none

/-- Whether a foreign key links two tables, in either direction. -/
def links (a b : String) (fk : Schema.ForeignKey) : Bool :=
  (fk.referencingTable == a && fk.referencedTable == b) ||
    (fk.referencingTable == b && fk.referencedTable == a)

/-- How two tables belong together.  A foreign key comes first, then the key of `a`, then the key
of `b`. -/
def joinKey? (s : Snapshot) (a b : String) : Option JoinKey :=
  let a := lowercase a
  let b := lowercase b
  match s.foreignKeys.find? (links a b) with
  | some fk => some ⟨fk.referencingTable, fk.referencingColumn, fk.referencedTable,
      fk.referencedColumn, .foreignKey⟩
  | none => (s.keyByName a b).or (s.keyByName b a)

end Snapshot

/-- The first appearance of each text. -/
def firsts (xs : List String) : List String :=
  xs.foldl (fun seen x => if seen.contains x then seen else seen ++ [x]) []

/-- What a table name has before its first double underscore, which is the connection that a
replicated table came from. -/
def connectionPart (table : String) : String := ((Text.cut "__" table).map (·.1)).getD table

/-- Whether `x` is offered before `y`: the last pick comes last, tables of its connection come
first, and otherwise lower case decides. -/
def offeredBefore (last : String) (x y : String) : Bool :=
  if x == last then false
  else if y == last then true
  else
    match connectionPart x == connectionPart last, connectionPart y == connectionPart last with
    | true, false => true
    | false, true => false
    | _, _ => lowercase x < lowercase y

/-- Puts `x` before the first entry that does not come before it and is not level with it. -/
def offer (last x : String) : List String → List String
  | [] => [x]
  | y :: rest => if offeredBefore last x y then x :: y :: rest else y :: offer last x rest

namespace Snapshot

/-- What can be picked next: every table at first, then the tables picked and those that belong
together with the last one. -/
def joinable (s : Snapshot) (existing : List String) : List String :=
  let picked := firsts existing
  match picked.getLast? with
  | none => s.tables.map fun t => s.tableSpelling t.key
  | some last =>
    let offered := s.tableKeys.foldl
      (fun list candidate =>
        if !sameAscii candidate last && (s.joinKey? last candidate).isSome &&
            !list.any (sameAscii · candidate)
        then list ++ [s.tableSpelling candidate] else list)
      picked
    offered.foldl (fun sorted x => offer last x sorted) []

end Snapshot

end Granary
