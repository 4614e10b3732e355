import Granary.Json.Typed
import Granary.Schema.Catalog

/-!
# Schemas written down

A schema may be described in a JSON text, where no database is at hand.
-/

namespace Granary.Schema

/-- A schema: the columns of its tables with their types, its primary keys and its foreign keys. -/
structure Description where
  tables : Named (List (String × String)) := []
  primaryKeys : Named (List String) := []
  foreignKeys : List ReferenceRecord := []
  deriving Repr, Inhabited

namespace Description

open Json Typed

/-- A column and its type. -/
def column : Reading (String × String) :=
  exactly (.tuple 2)
    [fun c cs => (text cs).map fun (name, cs) => ((name, c.2), cs),
      fun c cs => (text cs).map fun (type, cs) => ((c.1, type), cs)]
    ("", "")

/-- A table and a column of it, twice: first what refers, then what is referred to. -/
def reference : Reading ReferenceRecord :=
  exactly (.array 4)
    [fun r cs => (text cs).map fun (t, cs) => ({ r with referencingTable := t }, cs),
      fun r cs => (text cs).map fun (t, cs) => ({ r with referencingColumn := t }, cs),
      fun r cs => (text cs).map fun (t, cs) => ({ r with referencedTable := t }, cs),
      fun r cs => (text cs).map fun (t, cs) => ({ r with referencedColumn := t }, cs)]
    default

def reading : Reading Description :=
  record "SchemaFile"
    [("tables", fun d cs => (namedOf (listOf column) cs).map fun (x, cs) =>
        ({ d with tables := x }, cs)),
      ("primary_keys", fun d cs => (namedOf (listOf text) cs).map fun (x, cs) =>
        ({ d with primaryKeys := x }, cs)),
      ("foreign_keys", fun d cs => (listOf reference cs).map fun (x, cs) =>
        ({ d with foreignKeys := x }, cs))]
    {}

/-- The description that a text holds. -/
def read (s : String) : Except Mistake Description := Typed.read reading s

/-- What is described.  Tables are met in the order of their names. -/
def snapshot (d : Description) : Snapshot :=
  let s := d.tables.sorted.foldl (fun s t => s.addTyped t.1 t.2) ({} : Snapshot)
  let s := d.primaryKeys.sorted.foldl (fun s k => s.setPrimaryKey k.1 k.2) s
  d.foreignKeys.foldl
    (fun s r => s.addForeignKey r.referencingTable r.referencingColumn r.referencedTable
      r.referencedColumn) s

end Description

end Granary.Schema
