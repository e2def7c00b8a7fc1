import Relational.Main
import Relational.Service
import Relational.Proofs.Ascending
import Relational.Proofs.Fallible
import Relational.Proofs.Index
import Relational.Proofs.Schema
import Relational.Proofs.Table.Sound
import Relational.Proofs.Value.Key
import Relational.Proofs.Table.Operation
import Relational.Proofs.Table.Rollback
import Relational.Proofs.Table.Run
import Relational.Proofs.Statement.Typing
import Relational.Proofs.Expr.Exchange
import Relational.Proofs.Expr.Condition
import Relational.Proofs.Query.Plan
import Relational.Proofs.Table.WellTyped
import Relational.Proofs.Snapshot
import Relational.Proofs.Grammar
import Relational.Proofs.Database.Sound
import Relational.Proofs.Database.Contents
import Relational.Proofs.Database.Atomicity
import Relational.Proofs.Database.Query
import Relational.Proofs.Decimal
import Relational.Proofs.Json.Number
import Relational.Proofs.Json.Reading
import Relational.Proofs.Snapshot.Document
import Relational.Proofs.Snapshot.Reload
import Relational.Proofs.Database.Reload
import Relational.Proofs.Catalog.Step
import Relational.Proofs.Catalog.Orderly
import Relational.Proofs.Catalog.Durability
import Relational.Proofs.Catalog.Reopening
import Relational.Proofs.Binary64
import Relational.Proofs.Value.Comparison
import Relational.Proofs.Expr.Coercion
import Relational.Proofs.Database.Partition
import Relational.Proofs.Expr.Height
import Relational.Proofs.Grammar.Reading
import Relational.Proofs.Grammar.Spelling
import Relational.Proofs.Grammar.Expression
import Relational.Proofs.Grammar.Statement
import Relational.Proofs.Token.Scanning
import Relational.Proofs.Grammar.Nesting
import Relational.Proofs.Expr.Resolution
import Relational.Proofs.Query.Resolution
import Relational.Proofs.Database.Resolution
import Relational.Proofs.Table.Renaming
import Relational.Proofs.Query.Renaming
import Relational.Proofs.Database.Renaming
import Relational.Proofs.Binary64.Rounding
import Relational.Proofs.Value.Equality
import Relational.Proofs.Database.Insertion
import Relational.Proofs.Catalog.Lifecycle
import Relational.Proofs.Catalog.Unreadable
import Relational.Proofs.Catalog.Isolation
import Relational.Proofs.Catalog.Volatile
import Relational.Proofs.Catalog.Outage
import Relational.Proofs.Service.Rejection
import Relational.Proofs.Pattern
import Relational.Proofs.Token.Cutting
import Relational.Proofs.Token.Separation
import Relational.Proofs.Token.Literal
import Relational.Proofs.Statement.Assignment
import Relational.Proofs.Database.Change
import Relational.Proofs.Grammar.Parts
import Relational.Proofs.Grammar.Closure
import Relational.Proofs.Grammar.Placement
import Relational.Proofs.Token.Context
import Relational.Proofs.Token.Respacing
import Relational.Proofs.Token.Line
import Relational.Proofs.Shell.Typing
import Relational.Proofs.Table.Undoing
import Relational.Proofs.Database.Application
import Relational.Proofs.Binary64.Nearest
import Relational.Proofs.Value.SortOrder
import Relational.Proofs.Query.Grouping
import Relational.Proofs.Query.Counting
import Relational.Proofs.Database.Grouping
import Relational.Proofs.Query.Sorting
import Relational.Proofs.Query.Answer
import Relational.Proofs.Database.Sorting
import Relational.Proofs.Query.Accumulation
import Relational.Proofs.Query.Extreme
import Relational.Proofs.Database.Extreme
import Relational.Proofs.Query.Permutation
import Relational.Proofs.Expr.Abbreviation
import Relational.Proofs.Grammar.Precedence
import Relational.Proofs.Value.Exactness
import Relational.Proofs.Grammar.Refusal
import Relational.Proofs.Grammar.Limit
import Relational.Proofs.Grammar.Prompt.Basic
import Relational.Proofs.Grammar.Prompt.Sequence
import Relational.Proofs.Grammar.Prompt.Ready
import Relational.Proofs.Grammar.Prompt.Operators
import Relational.Proofs.Grammar.Prompt.Call
import Relational.Proofs.Grammar.Prompt.Expression
import Relational.Proofs.Grammar.Prompt.Statement
import Relational.Proofs.Grammar.Prompt.Declaration
import Relational.Proofs.Grammar.Prompt.Table
import Relational.Proofs.Grammar.Viable
import Relational.Proofs.Token.Tiling
import Relational.Proofs.Grammar.Numeral
import Relational.Proofs.Calendar.Date
import Relational.Proofs.Calendar.Digits
import Relational.Proofs.Calendar.Iso
import Relational.Proofs.Expr.Failure
import Relational.Proofs.Query.Failure
import Relational.Proofs.Expr.WellFormed
import Relational.Proofs.Query.Guard
import Relational.Proofs.Statement.Guard
import Relational.Proofs.Database.Guard
import Relational.Proofs.Statement.Position
import Relational.Proofs.Database.Position
import Relational.Proofs.Grammar.Formation
import Relational.Proofs.Grammar.WellFormed
import Relational.Proofs.Value.Merging
