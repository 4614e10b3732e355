import Granary.CommandLine
import Granary.Compile.Bucket
import Granary.Compile.JoinPlan
import Granary.Compile.Measure
import Granary.Compile.Predicate
import Granary.Compile.Scope
import Granary.Compile.Statement
import Granary.Data.Decoder
import Granary.Data.Fault
import Granary.Datasource.Folder
import Granary.Datasource.Profile
import Granary.Datasource.Record
import Granary.Datasource.Store
import Granary.Decimal.Binary
import Granary.Decimal.Reading
import Granary.Decimal.Shortest
import Granary.Digest.Sha256
import Granary.Error
import Granary.Files.Pattern
import Granary.Files.Tree
import Granary.Json.Form
import Granary.Json.Reader
import Granary.Json.Text
import Granary.Json.Typed
import Granary.Json.Value
import Granary.Main
import Granary.Named
import Granary.Postgres.Address
import Granary.Postgres.Calendar
import Granary.Postgres.Call
import Granary.Postgres.Catalog
import Granary.Postgres.Decode
import Granary.Postgres.Deployment
import Granary.Postgres.Numeric
import Granary.Postgres.Source
import Granary.Postgres.Statements
import Granary.Postgres.Warehouse
import Granary.Postgres.Wire
import Granary.Power
import Granary.Program
import Granary.Proofs.Compile.Binding
import Granary.Proofs.Compile.Catalog
import Granary.Proofs.Compile.FilterChain
import Granary.Proofs.Compile.Gathering
import Granary.Proofs.Compile.Grouping
import Granary.Proofs.Compile.JoinClause
import Granary.Proofs.Compile.LetterCase
import Granary.Proofs.Compile.OutputName
import Granary.Proofs.Compile.Pattern
import Granary.Proofs.Compile.Ranking
import Granary.Proofs.Compile.Reference
import Granary.Proofs.Compile.Requirement
import Granary.Proofs.Compile.RootTable
import Granary.Proofs.Compile.Stages
import Granary.Proofs.Compile.TableName
import Granary.Proofs.Compile.Unbound
import Granary.Proofs.Compile.ValueShape
import Granary.Proofs.Compile.WithoutCatalog
import Granary.Proofs.Custody
import Granary.Proofs.Data.Record
import Granary.Proofs.Datasource.Folder
import Granary.Proofs.Decimal.Truncation
import Granary.Proofs.Files.Acceptance
import Granary.Proofs.Files.Decoy
import Granary.Proofs.Files.Matching
import Granary.Proofs.Fleet
import Granary.Proofs.Journal
import Granary.Proofs.Json.Object
import Granary.Proofs.Outcome
import Granary.Proofs.Postgres.Atomicity
import Granary.Proofs.Postgres.Command
import Granary.Proofs.Postgres.Insertion
import Granary.Proofs.Postgres.Load
import Granary.Proofs.Postgres.Server
import Granary.Proofs.Postgres.Statement
import Granary.Proofs.Rehearsal.Databases
import Granary.Proofs.Rehearsal.IndexLength
import Granary.Proofs.Rehearsal.IndexNames
import Granary.Proofs.Rehearsal.Indexes
import Granary.Proofs.Replica.Asking
import Granary.Proofs.Replica.Attending
import Granary.Proofs.Replica.Batching
import Granary.Proofs.Replica.Capacity
import Granary.Proofs.Replica.Clearing
import Granary.Proofs.Replica.Confinement
import Granary.Proofs.Replica.Containing
import Granary.Proofs.Replica.Copying
import Granary.Proofs.Replica.Creating
import Granary.Proofs.Replica.Exclusion
import Granary.Proofs.Replica.Failing
import Granary.Proofs.Replica.Filling
import Granary.Proofs.Replica.Independence
import Granary.Proofs.Replica.Journal
import Granary.Proofs.Replica.Leftover
import Granary.Proofs.Replica.Loading
import Granary.Proofs.Replica.Machine
import Granary.Proofs.Replica.Naming
import Granary.Proofs.Replica.Opening
import Granary.Proofs.Replica.Refilling
import Granary.Proofs.Replica.Relisting
import Granary.Proofs.Replica.Reloading
import Granary.Proofs.Replica.Sequential
import Granary.Proofs.Replica.Serial
import Granary.Proofs.Replica.Settling
import Granary.Proofs.Replica.Share
import Granary.Proofs.Replica.Stats
import Granary.Proofs.Replica.Tally
import Granary.Proofs.Replica.Tenure
import Granary.Proofs.Replica.Transaction
import Granary.Proofs.Replica.Truncation
import Granary.Proofs.Replica.Unlisted
import Granary.Proofs.Replica.Verdict
import Granary.Proofs.Request.RoundTrip
import Granary.Proofs.Request.TopCount
import Granary.Proofs.Runs
import Granary.Proofs.Schedule
import Granary.Proofs.Schema.Built
import Granary.Proofs.Schema.Coherence
import Granary.Proofs.Schema.Fidelity
import Granary.Proofs.Schema.JoinKey
import Granary.Proofs.Schema.Joinable
import Granary.Proofs.Schema.Listing
import Granary.Proofs.Schema.Reinsertion
import Granary.Proofs.Schema.Retention
import Granary.Proofs.Schema.Spelling
import Granary.Proofs.Service.Invalidation
import Granary.Proofs.Service.Provenance
import Granary.Proofs.Service.Transparency
import Granary.Proofs.Sql.Condition
import Granary.Proofs.Sql.Inline
import Granary.Proofs.Sql.Name
import Granary.Proofs.Sql.Parameter
import Granary.Proofs.Sql.Token
import Granary.Proofs.Text.AsciiCase
import Granary.Proofs.Text.Casing
import Granary.Proofs.Text.Part
import Granary.Refusal
import Granary.Rehearsal.Backends
import Granary.Rehearsal.Cells
import Granary.Rehearsal.Databases
import Granary.Rehearsal.Description
import Granary.Rehearsal.Failure
import Granary.Rehearsal.Identifiers
import Granary.Rehearsal.Indexes
import Granary.Rehearsal.Replication
import Granary.Rehearsal.Servers
import Granary.Replica.Call
import Granary.Replica.ColumnType
import Granary.Replica.Copy
import Granary.Replica.Lease
import Granary.Replica.Lifecycle
import Granary.Replica.Name
import Granary.Replica.Report
import Granary.Replica.Request
import Granary.Replica.Stats
import Granary.Request
import Granary.Request.Filter
import Granary.Request.Join
import Granary.Request.Metric
import Granary.Request.Period
import Granary.Schema.Cache
import Granary.Schema.Catalog
import Granary.Schema.Description
import Granary.Schema.JoinKey
import Granary.Schema.Snapshot
import Granary.Service
import Granary.Service.Call
import Granary.Settings
import Granary.Settings.File
import Granary.Sorting
import Granary.Sql.Dialect
import Granary.Sql.Expr
import Granary.Sql.Render
import Granary.Text.Blank
import Granary.Text.CaseTable
import Granary.Text.Casing
import Granary.Text.Digit
import Granary.Text.HiddenTable
import Granary.Text.Quoted
import Granary.Text.Split
import Granary.Toml.Reader
import Granary.Toml.Scalar
import Granary.Toml.Table
import Granary.Toml.Value
import Granary.Yaml.Place
import Granary.Yaml.Reader
import Granary.Yaml.Scalar
import Granary.Yaml.Token
import Granary.Yaml.Value
