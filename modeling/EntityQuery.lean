import EntityQuery.Attempt
import EntityQuery.Calendar.Date
import EntityQuery.Calendar.DateTime
import EntityQuery.Calendar.Parts
import EntityQuery.Calendar.Pattern
import EntityQuery.Calendar.Rfc3339
import EntityQuery.Calendar.Week
import EntityQuery.Derive.Attribute
import EntityQuery.Derive.Declaration
import EntityQuery.Derive.DeclarationPhrase
import EntityQuery.Derive.Expansion
import EntityQuery.Derive.ExpressionPhrase
import EntityQuery.Derive.Grammar
import EntityQuery.Derive.Heading
import EntityQuery.Derive.Literal
import EntityQuery.Derive.Path
import EntityQuery.Derive.PatternPhrase
import EntityQuery.Derive.Reader
import EntityQuery.Derive.SourceText
import EntityQuery.Derive.StatementPhrase
import EntityQuery.Derive.Token
import EntityQuery.Derive.TypeExpr
import EntityQuery.Derive.TypePhrase
import EntityQuery.Error
import EntityQuery.Json.Basic
import EntityQuery.Json.Outline
import EntityQuery.Json.Reading
import EntityQuery.Numeric.Binary32
import EntityQuery.Numeric.Binary64
import EntityQuery.Numeric.Reading
import EntityQuery.Numeric.Rounding
import EntityQuery.Numeric.Shortest
import EntityQuery.Numeric.Written
import EntityQuery.Path.Basic
import EntityQuery.Path.Cache
import EntityQuery.Proofs.Outcome
import EntityQuery.Proofs.Path.Pruning
import EntityQuery.Proofs.Path.Resolution
import EntityQuery.Proofs.Path.Writing
import EntityQuery.Proofs.Query.Condition
import EntityQuery.Proofs.Query.Construction
import EntityQuery.Proofs.Query.Joining
import EntityQuery.Proofs.Query.Ordering
import EntityQuery.Proofs.Query.Setters
import EntityQuery.Proofs.Query.Update
import EntityQuery.Proofs.Record.Conformance
import EntityQuery.Proofs.Record.Contents
import EntityQuery.Proofs.Record.Library
import EntityQuery.Proofs.Record.Relations
import EntityQuery.Proofs.Source.Fetch
import EntityQuery.Proofs.Source.Includes
import EntityQuery.Proofs.Source.Selection
import EntityQuery.Proofs.Source.Update
import EntityQuery.Proofs.Value.SortOrder
import EntityQuery.Query.Coercion
import EntityQuery.Query.Condition
import EntityQuery.Query.Config
import EntityQuery.Query.Node
import EntityQuery.Query.OrderKey
import EntityQuery.Query.Predicate
import EntityQuery.Query.Specification
import EntityQuery.Query.Token
import EntityQuery.Query.Update
import EntityQuery.Record.Basic
import EntityQuery.Record.Conformance
import EntityQuery.Record.Layout
import EntityQuery.Record.Storage
import EntityQuery.Schema.Basic
import EntityQuery.Schema.Comparison
import EntityQuery.Source.Memory
import EntityQuery.Source.Request
import EntityQuery.Text.Blank
import EntityQuery.Text.Cased
import EntityQuery.Text.CodePoints
import EntityQuery.Text.Identifier
import EntityQuery.Text.Lowercase
import EntityQuery.Text.Split
import EntityQuery.Value.Basic
import EntityQuery.Value.Number
import EntityQuery.Value.Order
import EntityQuery.Proofs.Numeric.Rounding
import EntityQuery.Proofs.Value.Transitivity
import EntityQuery.Proofs.Query.Building
import EntityQuery.Proofs.Query.NormalForm
import EntityQuery.Proofs.Query.Typing
import EntityQuery.Proofs.Text.Lowercase
import EntityQuery.Proofs.Text.Split
import EntityQuery.Proofs.Query.ListCondition
import EntityQuery.Proofs.Query.Range
import EntityQuery.Proofs.Query.Policies
import EntityQuery.Proofs.Query.Misfits
import EntityQuery.Proofs.Path.Reading
import EntityQuery.Proofs.Query.Models
import EntityQuery.Proofs.Query.Reachability
import EntityQuery.Proofs.Json.Leaves
import EntityQuery.Proofs.Query.Flattening
import EntityQuery.Proofs.Path.Cache
import EntityQuery.Proofs.Path.Interference
import EntityQuery.Proofs.Source.IncludeOrder
import EntityQuery.Proofs.Source.Roots
import EntityQuery.Proofs.Value.Conversion
import EntityQuery.Proofs.Path.Checking
import EntityQuery.Proofs.Path.PruningFrame
import EntityQuery.Proofs.Path.PruningLoss
import EntityQuery.Proofs.Numeric.Exactness
import EntityQuery.Proofs.Source.KeyLookup
import EntityQuery.Proofs.Path.ReadBack
import EntityQuery.Proofs.Path.Walking
import EntityQuery.Proofs.Path.Spelling
import EntityQuery.Proofs.Query.Fallback
import EntityQuery.Proofs.Query.IgnoringCase
import EntityQuery.Proofs.Query.WrittenList
import EntityQuery.Proofs.Query.SingleValue
import EntityQuery.Proofs.Calendar.Reading
import EntityQuery.Proofs.Query.Dates
import EntityQuery.Proofs.Numeric.Nearest
import EntityQuery.Proofs.Numeric.Single
import EntityQuery.Proofs.Query.StoredSetters
import EntityQuery.Proofs.Record.RoundTrip
import EntityQuery.Proofs.Source.SortKeys
import EntityQuery.Proofs.Query.Columns
import EntityQuery.Proofs.Derive.Containers
import EntityQuery.Proofs.Derive.Options
import EntityQuery.Proofs.Derive.Expansion
import EntityQuery.Proofs.Derive.Derivation
import EntityQuery.Proofs.Numeric.Digits
import EntityQuery.Proofs.Calendar.Fields
import EntityQuery.Proofs.Calendar.Display
import EntityQuery.Proofs.Query.Literals
import EntityQuery.Proofs.Query.Reversal
import EntityQuery.Proofs.Text.Pattern
import EntityQuery.Proofs.Text.Letters
import EntityQuery.Proofs.Query.Wording
import EntityQuery.Proofs.Derive.SeveralAttributes
import EntityQuery.Proofs.Derive.Constants
