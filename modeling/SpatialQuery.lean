import SpatialQuery.Application
import SpatialQuery.Assoc
import SpatialQuery.Cache
import SpatialQuery.Chat.Assessment
import SpatialQuery.Chat.Intent
import SpatialQuery.Chat.ObjectText
import SpatialQuery.Chat.Phrase
import SpatialQuery.Chat.Prompt
import SpatialQuery.Checked
import SpatialQuery.Database.Engine
import SpatialQuery.Database.Loading
import SpatialQuery.Database.Session
import SpatialQuery.Decimal.Binary
import SpatialQuery.Decimal.Layout
import SpatialQuery.Decimal.Nearest
import SpatialQuery.Decimal.Shortest
import SpatialQuery.Decimal.Written
import SpatialQuery.Feature.Cell
import SpatialQuery.Feature.Collection
import SpatialQuery.Feature.Writing
import SpatialQuery.Fingerprint
import SpatialQuery.Http.Answer
import SpatialQuery.Http.Body
import SpatialQuery.Http.Message
import SpatialQuery.Http.Reading
import SpatialQuery.Http.Rejection
import SpatialQuery.Http.Route
import SpatialQuery.Issue
import SpatialQuery.Json.Basic
import SpatialQuery.Json.Printer
import SpatialQuery.Json.Reader
import SpatialQuery.Layer.Catalog
import SpatialQuery.Layer.Manifest
import SpatialQuery.Layer.Registry
import SpatialQuery.Model.Anthropic
import SpatialQuery.Model.Basic
import SpatialQuery.Model.Client
import SpatialQuery.Model.Ollama
import SpatialQuery.Number
import SpatialQuery.Proofs.Assoc
import SpatialQuery.Proofs.Cache
import SpatialQuery.Proofs.Cache.History
import SpatialQuery.Proofs.Cache.Recency
import SpatialQuery.Proofs.Cache.Turnover
import SpatialQuery.Proofs.Chat.Classified
import SpatialQuery.Proofs.Chat.Enclosed
import SpatialQuery.Proofs.Chat.Improved
import SpatialQuery.Proofs.Chat.ObjectText
import SpatialQuery.Proofs.Chat.Prompted
import SpatialQuery.Proofs.Chat.Reply
import SpatialQuery.Proofs.Database.Attempts
import SpatialQuery.Proofs.Database.Contract
import SpatialQuery.Proofs.Database.Record
import SpatialQuery.Proofs.Decimal.Bits
import SpatialQuery.Proofs.Decimal.Distinct
import SpatialQuery.Proofs.Decimal.Nearest
import SpatialQuery.Proofs.Decimal.Numeral
import SpatialQuery.Proofs.Decimal.Packed
import SpatialQuery.Proofs.Decimal.ReadBack
import SpatialQuery.Proofs.Decimal.Rounding
import SpatialQuery.Proofs.Decimal.Shortest
import SpatialQuery.Proofs.Decimal.Value
import SpatialQuery.Proofs.Feature.Body
import SpatialQuery.Proofs.Feature.Encoded
import SpatialQuery.Proofs.Feature.Facts
import SpatialQuery.Proofs.Feature.Meaning
import SpatialQuery.Proofs.Feature.Written
import SpatialQuery.Proofs.Json.Every
import SpatialQuery.Proofs.Json.Excess
import SpatialQuery.Proofs.Json.Grammar
import SpatialQuery.Proofs.Json.Nesting
import SpatialQuery.Proofs.Json.Numerals
import SpatialQuery.Proofs.Json.Outside
import SpatialQuery.Proofs.Json.Printed
import SpatialQuery.Proofs.Json.ReadBack
import SpatialQuery.Proofs.Json.Reading
import SpatialQuery.Proofs.Json.Rearranged
import SpatialQuery.Proofs.Json.Refused
import SpatialQuery.Proofs.Json.Settled
import SpatialQuery.Proofs.Json.Unambiguous
import SpatialQuery.Proofs.Json.Writing
import SpatialQuery.Proofs.Layer.Built
import SpatialQuery.Proofs.Layer.Entry
import SpatialQuery.Proofs.Layer.Fatal
import SpatialQuery.Proofs.Layer.Snapshot
import SpatialQuery.Proofs.Layer.Tables
import SpatialQuery.Proofs.Listing
import SpatialQuery.Proofs.Model.Contract
import SpatialQuery.Proofs.Number
import SpatialQuery.Proofs.Query.Admissible
import SpatialQuery.Proofs.Query.Answerable
import SpatialQuery.Proofs.Query.Bounded
import SpatialQuery.Proofs.Query.Grounded
import SpatialQuery.Proofs.Query.Judged
import SpatialQuery.Proofs.Query.Key
import SpatialQuery.Proofs.Query.Language
import SpatialQuery.Proofs.Query.Order
import SpatialQuery.Proofs.Query.Planned
import SpatialQuery.Proofs.Query.Replay
import SpatialQuery.Proofs.Query.Requirements
import SpatialQuery.Proofs.Query.Rewritten
import SpatialQuery.Proofs.Query.RoundTrip
import SpatialQuery.Proofs.Query.Snapshots
import SpatialQuery.Proofs.Query.Spelling
import SpatialQuery.Proofs.Query.Told
import SpatialQuery.Proofs.Query.Values
import SpatialQuery.Proofs.Query.Verdict
import SpatialQuery.Proofs.Query.WellFormed
import SpatialQuery.Proofs.Service.Accesses
import SpatialQuery.Proofs.Service.Courses
import SpatialQuery.Proofs.Service.Entrances
import SpatialQuery.Proofs.Service.Executions
import SpatialQuery.Proofs.Service.Footprint
import SpatialQuery.Proofs.Service.Interleaving
import SpatialQuery.Proofs.Service.Meaning
import SpatialQuery.Proofs.Service.Record
import SpatialQuery.Proofs.Service.Serving
import SpatialQuery.Proofs.Service.Splicing
import SpatialQuery.Proofs.Service.Step
import SpatialQuery.Proofs.Service.Transparent
import SpatialQuery.Proofs.Sql.Atoms
import SpatialQuery.Proofs.Sql.Calls
import SpatialQuery.Proofs.Sql.Clauses
import SpatialQuery.Proofs.Sql.Columns
import SpatialQuery.Proofs.Sql.Compiled
import SpatialQuery.Proofs.Sql.Condition
import SpatialQuery.Proofs.Sql.Contents
import SpatialQuery.Proofs.Sql.Counted
import SpatialQuery.Proofs.Sql.Distances
import SpatialQuery.Proofs.Sql.Filters
import SpatialQuery.Proofs.Sql.Form
import SpatialQuery.Proofs.Sql.Fragment
import SpatialQuery.Proofs.Sql.Grouped
import SpatialQuery.Proofs.Sql.Names
import SpatialQuery.Proofs.Sql.Outputs
import SpatialQuery.Proofs.Sql.Parameters
import SpatialQuery.Proofs.Sql.Reading
import SpatialQuery.Proofs.Sql.Scan
import SpatialQuery.Proofs.Sql.Select
import SpatialQuery.Proofs.Sql.Spacing
import SpatialQuery.Proofs.Sql.Statement
import SpatialQuery.Proofs.Sql.Tokens
import SpatialQuery.Proofs.Success
import SpatialQuery.Proofs.Template
import SpatialQuery.Proofs.Text.Order
import SpatialQuery.Proofs.Text.Pieces
import SpatialQuery.Proofs.Text.Units
import SpatialQuery.Query.Basic
import SpatialQuery.Query.Grounding
import SpatialQuery.Query.Key
import SpatialQuery.Query.Limit
import SpatialQuery.Query.Replacement
import SpatialQuery.Query.Shape
import SpatialQuery.Query.Wire
import SpatialQuery.Service.Basic
import SpatialQuery.Service.Failure
import SpatialQuery.Service.Plan
import SpatialQuery.Service.Stage
import SpatialQuery.Settings
import SpatialQuery.Sql.Compile
import SpatialQuery.Sql.Written
import SpatialQuery.Stack
import SpatialQuery.Template
import SpatialQuery.Text.Basic
import SpatialQuery.Text.Blank
import SpatialQuery.Text.Digit
import SpatialQuery.Text.Encoding
import SpatialQuery.Text.Hex
import SpatialQuery.Text.Integer
import SpatialQuery.Text.LetterCase
import SpatialQuery.Text.Path
import SpatialQuery.Text.Unit
import SpatialQuery.Text.WordChar
