import Granary.Digest.Sha256
import Granary.Error
import Granary.Text.Split

/-!
# Names in the warehouse

A replicated table is named after its connection and its source table, with two underscores in
between.  Names of connections are restricted so that the name of a warehouse table tells where it
came from.
-/

namespace Granary.Replica

def separator : String := "__"

/-- The greatest length of a connection name in bytes. -/
def longestName : Nat := 48

/-- What the names of all tables of a connection begin with. -/
def stem (connection : String) : String := connection ++ separator

/-- The warehouse table of a source table. -/
def tableName (connection table : String) : String := stem connection ++ table

def isNameChar (c : Char) : Bool := c.isAlphanum || c == '-' || c == '_'

/-- A connection name is not empty and not too long, consists of ASCII letters, digits, hyphens and
single underscores, and does not end in an underscore. -/
def isName (name : String) : Bool :=
  !name.isEmpty && name.utf8ByteSize ≤ longestName && name.toList.all isNameChar &&
    !Text.occursIn separator name && name.toList.getLast? != some '_'

def checkName (name : String) : Except Error Unit :=
  if isName name then .ok () else .error (.invalidConnectionName name)

/-- The greatest length of an identifier in bytes. -/
def longestIdentifier : Nat := 63

/-- The longest part at the front of some characters that has at most `bytes` bytes. -/
def keep : Nat → List Char → List Char
  | _, [] => []
  | bytes, c :: rest => if c.utf8Size ≤ bytes then c :: keep (bytes - c.utf8Size) rest else []

/-- Eight digits that tell a name from others that begin alike. -/
def tag (name : String) : String :=
  String.ofList ((Digest.hex (Digest.sha256 name.toUTF8.toList)).toList.take 8)

/-- A name that fits an identifier: a longer one is cut and tagged. -/
def fitted (name : String) : String :=
  if name.utf8ByteSize ≤ longestIdentifier then name
  else String.ofList (keep (longestIdentifier - 9) name.toList) ++ "_" ++ tag name

/-- The index of a column, with a word for the kind of column. -/
def indexName (table column kind : String) : String :=
  fitted ("idx_" ++ table ++ "_" ++ column ++ "_" ++ kind)

end Granary.Replica
