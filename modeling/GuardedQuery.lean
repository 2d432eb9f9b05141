import GuardedQuery.Allowlist.Basic
import GuardedQuery.Allowlist.Column
import GuardedQuery.Allowlist.Join
import GuardedQuery.Api.MediaType
import GuardedQuery.Api.Request
import GuardedQuery.Api.Response
import GuardedQuery.Api.Route
import GuardedQuery.Api.Service
import GuardedQuery.Batch.Limits
import GuardedQuery.Batch.Load
import GuardedQuery.Batch.Plan
import GuardedQuery.Batch.Recipe
import GuardedQuery.Condition.Predicate
import GuardedQuery.Condition.Tree
import GuardedQuery.Condition.Wire
import GuardedQuery.Database.Address
import GuardedQuery.Database.Connection
import GuardedQuery.Database.Driver
import GuardedQuery.Database.Error
import GuardedQuery.Database.Failure
import GuardedQuery.Database.Numeric
import GuardedQuery.Database.PoolOptions
import GuardedQuery.Database.Replay
import GuardedQuery.Database.Row
import GuardedQuery.Database.Transaction
import GuardedQuery.Database.Work
import GuardedQuery.Decode.Basic
import GuardedQuery.Decode.Error
import GuardedQuery.Decode.Shape
import GuardedQuery.Dialect
import GuardedQuery.Dialect.Wire
import GuardedQuery.Document.Basic
import GuardedQuery.Document.Reader
import GuardedQuery.Json.Basic
import GuardedQuery.Json.Text
import GuardedQuery.Keyed
import GuardedQuery.Literal
import GuardedQuery.Literal.Wire
import GuardedQuery.Main
import GuardedQuery.Number.Binary64
import GuardedQuery.Number.Layout
import GuardedQuery.Number.Rounding
import GuardedQuery.Number.Shortest
import GuardedQuery.Payload.Basic
import GuardedQuery.Payload.Entity
import GuardedQuery.Proofs.Allowlist.Accepts
import GuardedQuery.Proofs.Allowlist.Entry
import GuardedQuery.Proofs.Allowlist.Grammar
import GuardedQuery.Proofs.Allowlist.Join
import GuardedQuery.Proofs.Allowlist.Resolve
import GuardedQuery.Proofs.Allowlist.Sound
import GuardedQuery.Proofs.Allowlist.Wire
import GuardedQuery.Proofs.Api.Answer
import GuardedQuery.Proofs.Api.Columns
import GuardedQuery.Proofs.Api.Confined
import GuardedQuery.Proofs.Api.Discretion
import GuardedQuery.Proofs.Batch.Keys
import GuardedQuery.Proofs.Batch.Load
import GuardedQuery.Proofs.Batch.Merge
import GuardedQuery.Proofs.Batch.Plan
import GuardedQuery.Proofs.Batch.Readers
import GuardedQuery.Proofs.Batch.Usable
import GuardedQuery.Proofs.Condition.Dispatch
import GuardedQuery.Proofs.Condition.Meaning
import GuardedQuery.Proofs.Condition.Tree
import GuardedQuery.Proofs.Condition.Truth
import GuardedQuery.Proofs.Condition.Wire
import GuardedQuery.Proofs.Database.Blame
import GuardedQuery.Proofs.Database.Connection
import GuardedQuery.Proofs.Database.Keys
import GuardedQuery.Proofs.Database.Read
import GuardedQuery.Proofs.Database.Replay
import GuardedQuery.Proofs.Database.Row
import GuardedQuery.Proofs.Database.Trace
import GuardedQuery.Proofs.Database.Transaction
import GuardedQuery.Proofs.Database.Work
import GuardedQuery.Proofs.Decode.Basic
import GuardedQuery.Proofs.Decode.Fields
import GuardedQuery.Proofs.Decode.Record
import GuardedQuery.Proofs.Except
import GuardedQuery.Proofs.FirstSeen
import GuardedQuery.Proofs.Json.Sorted
import GuardedQuery.Proofs.Json.Text
import GuardedQuery.Proofs.Keyed
import GuardedQuery.Proofs.Number.Layout
import GuardedQuery.Proofs.Number.Range
import GuardedQuery.Proofs.Number.Shortest
import GuardedQuery.Proofs.Number.Value
import GuardedQuery.Proofs.Payload.Wire
import GuardedQuery.Proofs.Settings.Recipes
import GuardedQuery.Proofs.Sql.Formula
import GuardedQuery.Proofs.Sql.Phrase
import GuardedQuery.Proofs.Sql.Placeholder
import GuardedQuery.Proofs.Statement.Acceptance
import GuardedQuery.Proofs.Statement.Children
import GuardedQuery.Proofs.Statement.Dialects
import GuardedQuery.Proofs.Statement.Insertion
import GuardedQuery.Proofs.Statement.Items
import GuardedQuery.Proofs.Statement.Joins
import GuardedQuery.Proofs.Statement.Keys
import GuardedQuery.Proofs.Statement.Literals
import GuardedQuery.Proofs.Statement.Lookup
import GuardedQuery.Proofs.Statement.Names
import GuardedQuery.Proofs.Statement.Order
import GuardedQuery.Proofs.Statement.Override
import GuardedQuery.Proofs.Statement.Pagination
import GuardedQuery.Proofs.Statement.Permitted
import GuardedQuery.Proofs.Statement.Placeholders
import GuardedQuery.Proofs.Statement.Projection
import GuardedQuery.Proofs.Statement.Reading
import GuardedQuery.Proofs.Statement.Relation
import GuardedQuery.Proofs.Statement.Scope
import GuardedQuery.Proofs.Statement.Tests
import GuardedQuery.Proofs.Statement.Text
import GuardedQuery.Proofs.Statement.Vocabulary
import GuardedQuery.Proofs.Statement.Where
import GuardedQuery.Proofs.Statement.Words
import GuardedQuery.Proofs.Text.Lexeme
import GuardedQuery.Proofs.Text.Name
import GuardedQuery.Proofs.Text.Quotation
import GuardedQuery.PublicError
import GuardedQuery.Settings.Basic
import GuardedQuery.Settings.Layer
import GuardedQuery.Settings.Variable
import GuardedQuery.Sql.Template
import GuardedQuery.Sql.Window
import GuardedQuery.Statement.Aggregate
import GuardedQuery.Statement.Basic
import GuardedQuery.Statement.Error
import GuardedQuery.Statement.Insert
import GuardedQuery.Statement.Restriction
import GuardedQuery.Statement.Select
import GuardedQuery.Statement.Target
import GuardedQuery.Text.Blank
import GuardedQuery.Text.Identifier
import GuardedQuery.Text.Keyword
import GuardedQuery.Text.Quoted
import GuardedQuery.Text.Unseen
import GuardedQuery.Time.Calendar
import GuardedQuery.Uuid
