import Granary.Datasource.Record
import Granary.Named

/-!
# Stores of datasources

Records by their ids; a later record replaces an earlier one of the same id.
-/

namespace Granary

structure Store where
  records : Named Datasource := []
  defaultSchema : String := "public"
  deriving Repr, Inhabited

namespace Store

def insert (s : Store) (d : Datasource) : Store := { s with records := s.records.set d.id d }

def size (s : Store) : Nat := s.records.length

/-- How to connect to the datasource of an id. -/
def resolve (s : Store) (id : String) : Except Error Profile :=
  match s.records.get? id with
  | some d => d.profile s.defaultSchema
  | none => .error (.unknownDatasource id)

end Store

end Granary
