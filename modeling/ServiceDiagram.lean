import ServiceDiagram.Calendar.Date
import ServiceDiagram.Calendar.DateTime
import ServiceDiagram.Calendar.Iso
import ServiceDiagram.CommandLine.Arguments
import ServiceDiagram.CommandLine.Command
import ServiceDiagram.Complaint
import ServiceDiagram.Diagram.Class
import ServiceDiagram.Diagram.Config
import ServiceDiagram.Diagram.Dependents
import ServiceDiagram.Diagram.Descriptor
import ServiceDiagram.Diagram.Display
import ServiceDiagram.Diagram.Error
import ServiceDiagram.Diagram.Model
import ServiceDiagram.Diagram.Parameter
import ServiceDiagram.Diagram.Tag
import ServiceDiagram.Diagram.TypeRef
import ServiceDiagram.Event
import ServiceDiagram.Format.Email
import ServiceDiagram.Format.IpAddress
import ServiceDiagram.Format.Uri
import ServiceDiagram.Format.Uuid
import ServiceDiagram.Ingest.Error
import ServiceDiagram.Ingest.File
import ServiceDiagram.Ingest.Reader
import ServiceDiagram.Json.Error
import ServiceDiagram.Json.Printer
import ServiceDiagram.Json.Reader
import ServiceDiagram.Json.StringLiteral
import ServiceDiagram.Main
import ServiceDiagram.Number.Binary64
import ServiceDiagram.Number.FloatText
import ServiceDiagram.Number.IntText
import ServiceDiagram.Number.Number
import ServiceDiagram.Number.Shortest
import ServiceDiagram.Number.Sum
import ServiceDiagram.Pattern.Basic
import ServiceDiagram.Pattern.CaseFold
import ServiceDiagram.Pattern.Fault
import ServiceDiagram.Pattern.Matcher
import ServiceDiagram.Pattern.Reader
import ServiceDiagram.Pattern.Width
import ServiceDiagram.Proofs.Calendar.Iso
import ServiceDiagram.Proofs.CommandLine.Arguments
import ServiceDiagram.Proofs.CommandLine.Outcome
import ServiceDiagram.Proofs.Diagram.Targets
import ServiceDiagram.Proofs.Diagram.WellFormed
import ServiceDiagram.Proofs.Except
import ServiceDiagram.Proofs.FirstNames
import ServiceDiagram.Proofs.Format.Addresses
import ServiceDiagram.Proofs.Format.Email
import ServiceDiagram.Proofs.Format.Uuid
import ServiceDiagram.Proofs.Ingest.Edges
import ServiceDiagram.Proofs.Ingest.Encoding
import ServiceDiagram.Proofs.Ingest.Files
import ServiceDiagram.Proofs.Ingest.Steady
import ServiceDiagram.Proofs.Ingest.Validity
import ServiceDiagram.Proofs.Json.Atoms
import ServiceDiagram.Proofs.Json.Canonical
import ServiceDiagram.Proofs.Json.Overlong
import ServiceDiagram.Proofs.Json.Parts
import ServiceDiagram.Proofs.Json.Printable
import ServiceDiagram.Proofs.Json.StringLiteral
import ServiceDiagram.Proofs.Number.Decimal
import ServiceDiagram.Proofs.Number.Digits
import ServiceDiagram.Proofs.Number.Literal
import ServiceDiagram.Proofs.Number.Order
import ServiceDiagram.Proofs.Number.Rounding
import ServiceDiagram.Proofs.Number.Written
import ServiceDiagram.Proofs.Pattern.Flags
import ServiceDiagram.Proofs.Pattern.Matching
import ServiceDiagram.Proofs.Pattern.Rows
import ServiceDiagram.Proofs.Random.Outcomes
import ServiceDiagram.Proofs.Registry.Accounting
import ServiceDiagram.Proofs.Registry.Conflicts
import ServiceDiagram.Proofs.Registry.Criteria
import ServiceDiagram.Proofs.Registry.Fault
import ServiceDiagram.Proofs.Registry.Growth
import ServiceDiagram.Proofs.Registry.InPlace
import ServiceDiagram.Proofs.Registry.Log
import ServiceDiagram.Proofs.Registry.Merge
import ServiceDiagram.Proofs.Registry.Order
import ServiceDiagram.Proofs.Registry.Refinement
import ServiceDiagram.Proofs.Registry.Reserved
import ServiceDiagram.Proofs.Registry.Revision
import ServiceDiagram.Proofs.Registry.Scope
import ServiceDiagram.Proofs.Registry.Turns
import ServiceDiagram.Proofs.Report.Content
import ServiceDiagram.Proofs.Report.Repeat
import ServiceDiagram.Proofs.Report.Unresolved
import ServiceDiagram.Proofs.Rule.ArgumentList
import ServiceDiagram.Proofs.Rule.Arguments
import ServiceDiagram.Proofs.Rule.Formatting
import ServiceDiagram.Proofs.Rule.Grammar
import ServiceDiagram.Proofs.Rule.Meaning
import ServiceDiagram.Proofs.Rule.Quoting
import ServiceDiagram.Proofs.Rule.Reading
import ServiceDiagram.Proofs.Rule.Synthesis
import ServiceDiagram.Proofs.Rule.Tokens
import ServiceDiagram.Proofs.Rule.Unreadable
import ServiceDiagram.Proofs.Rule.Unsupported
import ServiceDiagram.Proofs.Table
import ServiceDiagram.Proofs.Text.Hex
import ServiceDiagram.Proofs.Text.Joined
import ServiceDiagram.Proofs.Text.Replace
import ServiceDiagram.Proofs.Text.Runs
import ServiceDiagram.Proofs.Text.Utf8
import ServiceDiagram.Proofs.Types.Builtin
import ServiceDiagram.Proofs.Types.Passing
import ServiceDiagram.Proofs.Types.Registration
import ServiceDiagram.Proofs.Types.Samples
import ServiceDiagram.Proofs.Types.Verdicts
import ServiceDiagram.Proofs.Value.Structure
import ServiceDiagram.Proofs.Views.Additions
import ServiceDiagram.Proofs.Views.Answers
import ServiceDiagram.Proofs.Views.Course
import ServiceDiagram.Proofs.Views.Evaluation
import ServiceDiagram.Proofs.Views.Faithful
import ServiceDiagram.Proofs.Views.Frame
import ServiceDiagram.Proofs.Views.Generation
import ServiceDiagram.Proofs.Views.History
import ServiceDiagram.Proofs.Views.Memo
import ServiceDiagram.Proofs.Views.Names
import ServiceDiagram.Proofs.Views.Navigation
import ServiceDiagram.Proofs.Views.Outcome
import ServiceDiagram.Proofs.Views.Registrations
import ServiceDiagram.Proofs.Views.Retained
import ServiceDiagram.Proofs.Views.Reuse
import ServiceDiagram.Proofs.Views.Rules
import ServiceDiagram.Proofs.Views.Services
import ServiceDiagram.Proofs.Views.Steps
import ServiceDiagram.Proofs.Views.Traversal
import ServiceDiagram.Proofs.Views.Verdicts
import ServiceDiagram.Random.Draw
import ServiceDiagram.Random.Sha512
import ServiceDiagram.Random.Twister
import ServiceDiagram.Registry.Basic
import ServiceDiagram.Registry.Builtin
import ServiceDiagram.Registry.Capability
import ServiceDiagram.Registry.Error
import ServiceDiagram.Registry.Filter
import ServiceDiagram.Registry.Node
import ServiceDiagram.Report.Content
import ServiceDiagram.Report.Render
import ServiceDiagram.Report.Style
import ServiceDiagram.Report.Table
import ServiceDiagram.Report.Wrap
import ServiceDiagram.Rule.Basic
import ServiceDiagram.Rule.Check
import ServiceDiagram.Rule.Reader
import ServiceDiagram.Rule.Synthesis
import ServiceDiagram.Table
import ServiceDiagram.Text.Blank
import ServiceDiagram.Text.Case
import ServiceDiagram.Text.CaseTable
import ServiceDiagram.Text.CellWidth
import ServiceDiagram.Text.CharacterName
import ServiceDiagram.Text.CharacterTable
import ServiceDiagram.Text.Cluster
import ServiceDiagram.Text.Digit
import ServiceDiagram.Text.Identifier
import ServiceDiagram.Text.Printable
import ServiceDiagram.Text.Quoted
import ServiceDiagram.Text.Ranges
import ServiceDiagram.Text.Replace
import ServiceDiagram.Text.Utf8
import ServiceDiagram.Text.Word
import ServiceDiagram.Types.Catalog
import ServiceDiagram.Types.Sampler
import ServiceDiagram.Types.TypeSystem
import ServiceDiagram.Value.Basic
import ServiceDiagram.Value.Display
import ServiceDiagram.Views.Attributes
import ServiceDiagram.Views.AugmentedModel
import ServiceDiagram.Views.Context
import ServiceDiagram.Views.Datum
import ServiceDiagram.Views.Definitions
import ServiceDiagram.Views.Failure
import ServiceDiagram.Views.Program
import ServiceDiagram.Views.Reading
import ServiceDiagram.Views.Workspace
