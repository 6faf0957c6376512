import Switchboard.Chain.Execute
import Switchboard.Chain.Run
import Switchboard.CommandLine.Arguments
import Switchboard.CommandLine.Start
import Switchboard.Config.Endpoint
import Switchboard.Config.Fault
import Switchboard.Config.Field
import Switchboard.Config.Graph
import Switchboard.Config.Load
import Switchboard.Config.Server
import Switchboard.Decimal.Binary
import Switchboard.Decimal.Shortest
import Switchboard.Decimal.Text
import Switchboard.Environment
import Switchboard.Example
import Switchboard.Failure
import Switchboard.Files.Disk
import Switchboard.Files.Path
import Switchboard.Functions.Access
import Switchboard.Functions.Arithmetic
import Switchboard.Functions.Library
import Switchboard.Functions.Samples
import Switchboard.Functions.Signature
import Switchboard.Handlers.Build
import Switchboard.Handlers.Leaf
import Switchboard.Http.App
import Switchboard.Http.Pattern
import Switchboard.Http.Request
import Switchboard.Http.Response
import Switchboard.Http.Route
import Switchboard.Json.Embedded
import Switchboard.Json.Reader
import Switchboard.Json.Writer
import Switchboard.Log
import Switchboard.Main
import Switchboard.Prompt.Agent
import Switchboard.Prompt.Document
import Switchboard.Prompt.Request
import Switchboard.Query
import Switchboard.Regex.Escape
import Switchboard.Regex.Fault
import Switchboard.Regex.Match
import Switchboard.Regex.Pattern
import Switchboard.Regex.Reader
import Switchboard.Regex.Scan
import Switchboard.Registry
import Switchboard.Schema
import Switchboard.Schema.Assertion
import Switchboard.Schema.Check
import Switchboard.Schema.Dialect
import Switchboard.Schema.Equality
import Switchboard.Schema.Finding
import Switchboard.Schema.Interruption
import Switchboard.Schema.Metaschema
import Switchboard.Schema.Metaschema.Yearly
import Switchboard.Schema.Metaschema.Numbered
import Switchboard.Schema.Metaschema.Parts
import Switchboard.Schema.Reference
import Switchboard.Schema.Resource
import Switchboard.Site
import Switchboard.Template.Context
import Switchboard.Template.Evaluate
import Switchboard.Template.Path
import Switchboard.Text.Base64
import Switchboard.Text.Blank
import Switchboard.Text.Case
import Switchboard.Text.CharName
import Switchboard.Text.CharName.Letters
import Switchboard.Text.CharName.Symbols
import Switchboard.Text.Identifier
import Switchboard.Text.Numeral
import Switchboard.Text.Percent
import Switchboard.Text.Printable
import Switchboard.Text.Quoted
import Switchboard.Text.Uri
import Switchboard.Text.Utf8
import Switchboard.Text.Wide
import Switchboard.Text.WordClass
import Switchboard.Tools.Catalog
import Switchboard.Tools.Echo
import Switchboard.Tools.Escape
import Switchboard.Tools.Filter
import Switchboard.Tools.Layout
import Switchboard.Tools.Octets
import Switchboard.Tools.Printf
import Switchboard.Tools.Quote
import Switchboard.Tools.Real
import Switchboard.Tools.Shell
import Switchboard.Tools.Shell.Arithmetic
import Switchboard.Tools.Shell.Builtin
import Switchboard.Tools.Shell.Condition
import Switchboard.Tools.Shell.Control
import Switchboard.Tools.Shell.Cursor
import Switchboard.Tools.Shell.Expansion
import Switchboard.Tools.Shell.Files
import Switchboard.Tools.Shell.Grammar
import Switchboard.Tools.Shell.Pattern
import Switchboard.Tools.Shell.Runner
import Switchboard.Tools.Shell.Script
import Switchboard.Tools.Shell.State
import Switchboard.Tools.Shell.Word
import Switchboard.Tools.Sleep
import Switchboard.Trouble
import Switchboard.Value
import Switchboard.Value.Literal
import Switchboard.Value.Moment
import Switchboard.Value.Number
import Switchboard.Value.Sorted
import Switchboard.Yaml.Cursor
import Switchboard.Yaml.Fault
import Switchboard.Yaml.Lexeme
import Switchboard.Yaml.Merge
import Switchboard.Yaml.Node
import Switchboard.Yaml.Reader
import Switchboard.Yaml.Scalar
import Switchboard.Yaml.Token
import Switchboard.Yaml.Writer
import Switchboard.Proofs.Config.CallGraph
import Switchboard.Proofs.Config.Search
import Switchboard.Proofs.Config.Verdict
import Switchboard.Proofs.Functions.Signature
import Switchboard.Proofs.Handlers.Binding
import Switchboard.Proofs.Handlers.Build
import Switchboard.Proofs.Chain.Step
import Switchboard.Proofs.Chain.Depth
import Switchboard.Proofs.Config.Accepted
import Switchboard.Proofs.Handlers.Termination
import Switchboard.Proofs.Chain.Run
import Switchboard.Proofs.Chain.Trace
import Switchboard.Proofs.Chain.Success
import Switchboard.Proofs.Chain.Enforcement
import Switchboard.Proofs.Http.Answer
import Switchboard.Proofs.Http.App
import Switchboard.Proofs.Http.Enforcement
import Switchboard.Proofs.Chain.Failing
import Switchboard.Proofs.Template.Digits
import Switchboard.Proofs.Chain.Closing
import Switchboard.Proofs.Chain.Lookup
import Switchboard.Proofs.Http.References
import Switchboard.Proofs.Template.Relabel
import Switchboard.Proofs.Chain.OneWay
import Switchboard.Proofs.Config.Read
import Switchboard.Proofs.Template.Pointwise
import Switchboard.Proofs.Handlers.Tower
import Switchboard.Proofs.Chain.PassThrough
import Switchboard.Proofs.Http.Payload
import Switchboard.Proofs.Json.Writer
import Switchboard.Proofs.Http.Verdict
import Switchboard.Proofs.Http.PassThrough
import Switchboard.Proofs.Template.Written
import Switchboard.Proofs.Http.Outcome
import Switchboard.Proofs.Http.Escape
import Switchboard.Proofs.CommandLine.Ending
import Switchboard.Proofs.Config.Circle
import Switchboard.Proofs.Http.Reach
import Switchboard.Proofs.Text.Blank
import Switchboard.Proofs.Members
import Switchboard.Proofs.Value.KeyOrder
import Switchboard.Proofs.Yaml.Writer
import Switchboard.Proofs.Config.Settled
import Switchboard.Proofs.Template.Whole
import Switchboard.Proofs.Template.Growth
import Switchboard.Proofs.Template.Names
import Switchboard.Proofs.Template.Braces
import Switchboard.Proofs.Template.Piece
import Switchboard.Proofs.Template.Grammar
import Switchboard.Proofs.Template.Overlong
import Switchboard.Proofs.Template.Location
import Switchboard.Proofs.Template.Respelling
import Switchboard.Proofs.Json.Lexeme
import Switchboard.Proofs.Json.Grammar
import Switchboard.Proofs.Json.Balance
import Switchboard.Proofs.Json.Embedded
import Switchboard.Proofs.Query
import Switchboard.Proofs.Files.Boundary
import Switchboard.Proofs.Prompt.Manner
import Switchboard.Proofs.Prompt.Override
import Switchboard.Proofs.Prompt.Request
import Switchboard.Proofs.Config.Ambiguity
import Switchboard.Proofs.Decimal
import Switchboard.Proofs.Yaml.Number
import Switchboard.Proofs.Yaml.Common
import Switchboard.Proofs.Yaml.Lexeme
import Switchboard.Proofs.Yaml.Token
import Switchboard.Proofs.Yaml.Node
import Switchboard.Proofs.Yaml.Reader
import Switchboard.Proofs.Config.Notation
