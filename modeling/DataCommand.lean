import DataCommand.Backend.Basic
import DataCommand.Backend.Fresh
import DataCommand.Builder.Basic
import DataCommand.Builder.Chain
import DataCommand.Builder.Script
import DataCommand.CommandError
import DataCommand.CommandFile.Basic
import DataCommand.CommandFile.Fields
import DataCommand.CommandFile.Plan
import DataCommand.CommandFile.Reference
import DataCommand.CommandFile.Render
import DataCommand.CommandFile.Word
import DataCommand.CommandLine.Help
import DataCommand.CommandLine.Invocation
import DataCommand.CommandLine.Overview
import DataCommand.CommandLine.Run
import DataCommand.CommandLine.Template
import DataCommand.Condition.Basic
import DataCommand.Condition.Comparison
import DataCommand.Condition.Connective
import DataCommand.Dialect.Basic
import DataCommand.Dialect.Builtin
import DataCommand.Dialect.Conflict
import DataCommand.Dialect.Window
import DataCommand.Document
import DataCommand.DocumentCommand.Basic
import DataCommand.DocumentCommand.Filter
import DataCommand.DocumentCommand.Render
import DataCommand.Event
import DataCommand.Fragment
import DataCommand.Host.Basic
import DataCommand.Host.Directory
import DataCommand.Host.Path
import DataCommand.Host.Setting
import DataCommand.Json.Basic
import DataCommand.Json.Number
import DataCommand.Json.Printer
import DataCommand.Json.Reader
import DataCommand.Main
import DataCommand.Number.Binary64
import DataCommand.Number.Decimal
import DataCommand.Number.FloatText
import DataCommand.Number.Numeral
import DataCommand.Number.Ratio
import DataCommand.Number.Round
import DataCommand.Number.Shortest
import DataCommand.Number.Word
import DataCommand.Proofs.Agreement.Families
import DataCommand.Proofs.Agreement.Simulation
import DataCommand.Proofs.Alternatives
import DataCommand.Proofs.Appending
import DataCommand.Proofs.Chain
import DataCommand.Proofs.Chain.Direct
import DataCommand.Proofs.CommandFile.Expansion
import DataCommand.Proofs.CommandFile.Filling
import DataCommand.Proofs.CommandFile.Rendering
import DataCommand.Proofs.CommandFile.Replay
import DataCommand.Proofs.CommandFile.TargetName
import DataCommand.Proofs.CommandLine.BackendOption
import DataCommand.Proofs.Completeness.Document
import DataCommand.Proofs.Completeness.Stored
import DataCommand.Proofs.Criteria
import DataCommand.Proofs.DottedTarget
import DataCommand.Proofs.Failure
import DataCommand.Proofs.Filter.Content
import DataCommand.Proofs.Filter.Frame
import DataCommand.Proofs.Filter.Outline
import DataCommand.Proofs.Filter.Placement
import DataCommand.Proofs.Filter.Refinement
import DataCommand.Proofs.Filter.Rollback
import DataCommand.Proofs.Guard.Filter
import DataCommand.Proofs.Guard.Flag
import DataCommand.Proofs.Guard.Holds
import DataCommand.Proofs.Guard.Unfiltered
import DataCommand.Proofs.Identifier
import DataCommand.Proofs.Keys.Objects
import DataCommand.Proofs.Keys.Written
import DataCommand.Proofs.LongestBeginning
import DataCommand.Proofs.Mask.Basic
import DataCommand.Proofs.Mask.Content
import DataCommand.Proofs.Mask.Document
import DataCommand.Proofs.Mask.Relational
import DataCommand.Proofs.Mask.Run
import DataCommand.Proofs.Mask.Trace
import DataCommand.Proofs.Meaning.Criteria
import DataCommand.Proofs.Meaning.Ordering
import DataCommand.Proofs.Meaning.Pattern
import DataCommand.Proofs.Meaning.Relational
import DataCommand.Proofs.Meaning.Resolve
import DataCommand.Proofs.Meaning.Search
import DataCommand.Proofs.Meaning.Selection
import DataCommand.Proofs.Merge
import DataCommand.Proofs.Overwriting
import DataCommand.Proofs.Overwriting.Reading
import DataCommand.Proofs.Parts.Basic
import DataCommand.Proofs.Parts.Interleaving
import DataCommand.Proofs.Placeholder.Binding
import DataCommand.Proofs.Placeholder.Content
import DataCommand.Proofs.Placeholder.Criterion
import DataCommand.Proofs.Placeholder.Document
import DataCommand.Proofs.Placeholder.Fragment
import DataCommand.Proofs.Placeholder.Insert
import DataCommand.Proofs.Placeholder.Mark
import DataCommand.Proofs.Placeholder.Relational
import DataCommand.Proofs.Placeholder.Window
import DataCommand.Proofs.Placeholder.Woven
import DataCommand.Proofs.Projection
import DataCommand.Proofs.Reading.Document
import DataCommand.Proofs.Reading.Token
import DataCommand.Proofs.Rendering
import DataCommand.Proofs.RequestLine
import DataCommand.Proofs.Session
import DataCommand.Proofs.Spelling
import DataCommand.Proofs.Statement
import DataCommand.Proofs.SuppliedRow
import DataCommand.Proofs.TargetParts
import DataCommand.Proofs.Weakening
import DataCommand.Proofs.Window
import DataCommand.Proofs.Window.Rows
import DataCommand.SearchCommand.Basic
import DataCommand.SearchCommand.Endpoint
import DataCommand.SearchCommand.Query
import DataCommand.SqlCommand.Basic
import DataCommand.SqlCommand.Render
import DataCommand.Stage
import DataCommand.Statement
import DataCommand.Target
import DataCommand.Text.Blank
import DataCommand.Text.Box
import DataCommand.Text.Cut
import DataCommand.Text.Hidden
import DataCommand.Text.Join
import DataCommand.Text.Quoted
import DataCommand.Text.Split
import DataCommand.Text.Uppercase
import DataCommand.Toml.Basic
import DataCommand.Toml.Quoted
import DataCommand.Toml.Reader
import DataCommand.Toml.Scalar
import DataCommand.Toml.Table
import DataCommand.Value.Basic
import DataCommand.Value.Calendar
import DataCommand.Value.Uuid
import DataCommand.Vocabulary
import DataCommand.Proofs.Alternatives
import DataCommand.Proofs.LongestBeginning
