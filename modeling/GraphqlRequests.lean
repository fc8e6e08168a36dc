import GraphqlRequests.Command
import GraphqlRequests.Command.Run
import GraphqlRequests.Config
import GraphqlRequests.Decimal
import GraphqlRequests.Endpoint
import GraphqlRequests.Files
import GraphqlRequests.Filter
import GraphqlRequests.Fragment
import GraphqlRequests.Generate
import GraphqlRequests.Introspection
import GraphqlRequests.Json
import GraphqlRequests.Json.Reader
import GraphqlRequests.Json.Writer
import GraphqlRequests.Libraries.Address
import GraphqlRequests.Libraries.Arguments
import GraphqlRequests.Libraries.Configuration
import GraphqlRequests.Libraries.Host
import GraphqlRequests.Libraries.Introspection
import GraphqlRequests.Libraries.Sdl.Check
import GraphqlRequests.Libraries.Sdl.Introspect
import GraphqlRequests.Libraries.Sdl.Printer
import GraphqlRequests.Libraries.Sdl.Standard
import GraphqlRequests.Load
import GraphqlRequests.Main
import GraphqlRequests.Name
import GraphqlRequests.Naming
import GraphqlRequests.Plan
import GraphqlRequests.Proofs.Command.AllOrNothing
import GraphqlRequests.Proofs.Document.Lexing
import GraphqlRequests.Proofs.Document.Reading
import GraphqlRequests.Proofs.Document.Response
import GraphqlRequests.Proofs.Document.Syntax
import GraphqlRequests.Proofs.Endpoint.Fetch
import GraphqlRequests.Proofs.Executable.Lexing
import GraphqlRequests.Proofs.Executable.Reading
import GraphqlRequests.Proofs.Executable.Syntax
import GraphqlRequests.Proofs.Files.Paths
import GraphqlRequests.Proofs.Files.Write
import GraphqlRequests.Proofs.Filter.Invariant
import GraphqlRequests.Proofs.Filter.Kept
import GraphqlRequests.Proofs.Fragment.Closure
import GraphqlRequests.Proofs.Fragment.Spread
import GraphqlRequests.Proofs.Introspection.Encoding
import GraphqlRequests.Proofs.Introspection.Outcome
import GraphqlRequests.Proofs.Introspection.Reference
import GraphqlRequests.Proofs.Introspection.RoundTrip
import GraphqlRequests.Proofs.Json.Reading
import GraphqlRequests.Proofs.Naming.Distinct
import GraphqlRequests.Proofs.Naming.Identifiers
import GraphqlRequests.Proofs.Naming.Members
import GraphqlRequests.Proofs.Naming.Usable
import GraphqlRequests.Proofs.Naming.Words
import GraphqlRequests.Proofs.Outcome
import GraphqlRequests.Proofs.Plan.Arguments
import GraphqlRequests.Proofs.Plan.Closed
import GraphqlRequests.Proofs.Plan.Cycles
import GraphqlRequests.Proofs.Plan.Document
import GraphqlRequests.Proofs.Plan.Executable
import GraphqlRequests.Proofs.Plan.Failures
import GraphqlRequests.Proofs.Plan.Filtered
import GraphqlRequests.Proofs.Plan.Narrower
import GraphqlRequests.Proofs.Plan.Outcome
import GraphqlRequests.Proofs.Plan.References
import GraphqlRequests.Proofs.Plan.Reordered
import GraphqlRequests.Proofs.Plan.Table
import GraphqlRequests.Proofs.Plan.Unfolding
import GraphqlRequests.Proofs.Reach.Discovery
import GraphqlRequests.Proofs.Reach.Visits
import GraphqlRequests.Proofs.Reach.Walk
import GraphqlRequests.Proofs.Reach.Within
import GraphqlRequests.Proofs.RequestModule.Annotation
import GraphqlRequests.Proofs.RequestModule.Bindings
import GraphqlRequests.Proofs.RequestModule.Classes
import GraphqlRequests.Proofs.RequestModule.Closed
import GraphqlRequests.Proofs.RequestModule.Dropped
import GraphqlRequests.Proofs.RequestModule.Legal
import GraphqlRequests.Proofs.RequestModule.Lookups
import GraphqlRequests.Proofs.RequestModule.Members
import GraphqlRequests.Proofs.RequestModule.Names
import GraphqlRequests.Proofs.RequestModule.Renaming
import GraphqlRequests.Proofs.RequestModule.Required
import GraphqlRequests.Proofs.RequestModule.Shadowing
import GraphqlRequests.Proofs.RequestModule.Variables
import GraphqlRequests.Proofs.Scalar.Imports
import GraphqlRequests.Proofs.Scalar.Paths
import GraphqlRequests.Proofs.Schema.Built
import GraphqlRequests.Proofs.Schema.Lookup
import GraphqlRequests.Proofs.Schema.Proper
import GraphqlRequests.Proofs.Sdl.Reading
import GraphqlRequests.Proofs.Sdl.Types
import GraphqlRequests.Proofs.Selection.Fragment
import GraphqlRequests.Proofs.Selection.Outcome
import GraphqlRequests.Proofs.Selection.Request
import GraphqlRequests.Proofs.Selection.Spread
import GraphqlRequests.Proofs.Source.Value
import GraphqlRequests.Proofs.Text.Blank
import GraphqlRequests.Proofs.Text.Bytes
import GraphqlRequests.Proofs.Text.Comment
import GraphqlRequests.Proofs.Text.Lines
import GraphqlRequests.Proofs.Text.Split
import GraphqlRequests.Proofs.TypeRef.Inversion
import GraphqlRequests.Proofs.TypeRef.Notation
import GraphqlRequests.Reach
import GraphqlRequests.RequestModule
import GraphqlRequests.RequestModule.Layout
import GraphqlRequests.Scalar
import GraphqlRequests.Schema
import GraphqlRequests.Schema.Names
import GraphqlRequests.Sdl.Document
import GraphqlRequests.Sdl.Reader
import GraphqlRequests.Sdl.Token
import GraphqlRequests.Selection
import GraphqlRequests.Source.Expression
import GraphqlRequests.Source.Literal
import GraphqlRequests.Source.Number
import GraphqlRequests.Source.Pattern
import GraphqlRequests.Source.Shape
import GraphqlRequests.Source.Statement
import GraphqlRequests.Source.Token
import GraphqlRequests.Text.Bytes
import GraphqlRequests.Text.Case
import GraphqlRequests.Text.Class
import GraphqlRequests.Text.CodePoints
import GraphqlRequests.Text.Quoted
import GraphqlRequests.Text.Similar
import GraphqlRequests.Text.Split
import GraphqlRequests.Text.Table.Alphanumeric
import GraphqlRequests.Text.Table.Casing
import GraphqlRequests.Text.Table.HostLabel
import GraphqlRequests.Text.Table.Identifier
import GraphqlRequests.Text.Table.Names
import GraphqlRequests.Text.Table.Printable
import GraphqlRequests.TypeRef
import GraphqlRequests.TypeRef.Written
