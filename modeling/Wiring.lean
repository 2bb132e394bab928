import Wiring.Artifact.Batch
import Wiring.Artifact.Emit
import Wiring.Artifact.Load
import Wiring.Artifact.Manifest
import Wiring.Binding.Basic
import Wiring.Binding.Choice
import Wiring.Binding.Codec
import Wiring.Binding.Listing
import Wiring.Command.Arguments
import Wiring.Command.Basic
import Wiring.Command.Run
import Wiring.Compilation
import Wiring.Config.Basic
import Wiring.Config.Check
import Wiring.Config.Codec
import Wiring.Config.Environment
import Wiring.Config.Load
import Wiring.Config.VariableFile
import Wiring.Datum.Basic
import Wiring.Datum.Decode
import Wiring.Datum.Json.Reader
import Wiring.Datum.Json.Writer
import Wiring.Decimal.Nearest
import Wiring.Decimal.Format
import Wiring.Decimal.Reader
import Wiring.Decimal.Shortest
import Wiring.Descriptor.Annotation
import Wiring.Descriptor.Class
import Wiring.Descriptor.Literal
import Wiring.Descriptor.Parameter
import Wiring.Diagnostic
import Wiring.Digest.Sha256
import Wiring.Discovery.Attribute
import Wiring.Discovery.Index
import Wiring.Discovery.Default
import Wiring.Discovery.ParamType
import Wiring.Discovery.Project
import Wiring.Disk.Job
import Wiring.Disk.Path
import Wiring.Disk.Tree
import Wiring.Error
import Wiring.Http.Uri
import Wiring.Http.Verb
import Wiring.Main
import Wiring.Marker.Basic
import Wiring.Marker.Function
import Wiring.Marker.Route
import Wiring.Pattern.Basic
import Wiring.Pattern.Charset
import Wiring.Pattern.Encoding
import Wiring.Pattern.Named
import Wiring.Pattern.Reader
import Wiring.Pattern.Shape
import Wiring.Pattern.Size
import Wiring.Plan.Container
import Wiring.Plan.Listener
import Wiring.Plan.Listing
import Wiring.Plan.Middleware
import Wiring.Plan.Router
import Wiring.Route.Definition
import Wiring.Route.Path
import Wiring.Route.Search
import Wiring.Route.Table
import Wiring.Serve.Args
import Wiring.Serve.Container
import Wiring.Serve.Dispatcher
import Wiring.Serve.Error
import Wiring.Serve.Kernel
import Wiring.Serve.Pipeline
import Wiring.Serve.Registry
import Wiring.Serve.Response
import Wiring.Serve.Router
import Wiring.Serve.Value
import Wiring.Serve.World
import Wiring.Service.Codec
import Wiring.Service.Entry
import Wiring.Service.Graph
import Wiring.Service.Registration
import Wiring.Source.Grammar.Basic
import Wiring.Source.Grammar.Expr
import Wiring.Source.Grammar.Function
import Wiring.Source.Grammar.Item
import Wiring.Source.Grammar.Operand
import Wiring.Source.Grammar.Pattern
import Wiring.Source.Grammar.Statement
import Wiring.Source.Grammar.Type
import Wiring.Source.Lexer
import Wiring.Source.Literal
import Wiring.Source.Read
import Wiring.Source.Reader
import Wiring.Source.Syntax
import Wiring.Source.Token
import Wiring.Text.Age
import Wiring.Text.Property
import Wiring.Text.CaseFold
import Wiring.Text.Category
import Wiring.Text.Fields
import Wiring.Text.Quoted
import Wiring.Text.Ranges
import Wiring.Text.Script
import Wiring.Text.Segment
import Wiring.Toml.Number
import Wiring.Toml.Reader
import Wiring.Toml.Table
import Wiring.Toml.Text
import Wiring.Proofs.Result
import Wiring.Proofs.Lookup
import Wiring.Proofs.Text.Fields
import Wiring.Proofs.Datum.Decode
import Wiring.Proofs.Datum.Depth
import Wiring.Proofs.Datum.Json
import Wiring.Proofs.Descriptor.Codec
import Wiring.Proofs.Binding.Satisfiable
import Wiring.Proofs.Binding.Codec
import Wiring.Proofs.Plan.References
import Wiring.Proofs.Plan.Codec
import Wiring.Proofs.ServiceGraph.Constructible
import Wiring.Proofs.ServiceGraph.Lowering
import Wiring.Proofs.ServiceGraph.Visit
import Wiring.Proofs.ServiceGraph.Invariant
import Wiring.Proofs.ServiceGraph.Report
import Wiring.Proofs.ServiceGraph.Resolve
import Wiring.Proofs.ServiceGraph.Reference
import Wiring.Proofs.ServiceGraph.Acyclic
import Wiring.Proofs.ServiceGraph.Collapse
import Wiring.Proofs.Service.Registration
import Wiring.Proofs.Serve.Get
import Wiring.Proofs.Route.Codec
import Wiring.Proofs.Route.Path
import Wiring.Proofs.Route.Definition
import Wiring.Proofs.Route.Trie
import Wiring.Proofs.Route.Search
import Wiring.Proofs.Route.Enter
import Wiring.Proofs.Route.Compile
import Wiring.Proofs.Route.Depth
import Wiring.Proofs.Route.Terminals
import Wiring.Proofs.Route.Replace
import Wiring.Proofs.Plan.Closed
import Wiring.Proofs.Serve.Dispatch
import Wiring.Proofs.Disk.Path
import Wiring.Proofs.Disk.Tree
import Wiring.Proofs.Disk.Run
import Wiring.Proofs.Disk.Share
import Wiring.Proofs.Artifact.Batch
import Wiring.Proofs.Artifact.Emit
import Wiring.Proofs.Artifact.Load
import Wiring.Proofs.Artifact.Router
import Wiring.Proofs.Config.Codec
import Wiring.Proofs.Artifact.Content
import Wiring.Proofs.Artifact.Share
import Wiring.Proofs.Discovery.Project
import Wiring.Proofs.Command.History
import Wiring.Proofs.Artifact.Concurrent
import Wiring.Proofs.Serve.Arguments
import Wiring.Proofs.Config.Check
import Wiring.Proofs.Service.Declared
import Wiring.Proofs.Marker.Route
import Wiring.Proofs.Discovery.Sources
import Wiring.Proofs.Marker.Type
import Wiring.Proofs.ServiceGraph.Blame
import Wiring.Proofs.ServiceGraph.Cycle
import Wiring.Proofs.Binding.Choice
import Wiring.Proofs.Service.Precedence
import Wiring.Proofs.Route.Conserve
import Wiring.Proofs.Route.Strict
import Wiring.Proofs.Serve.Logged
import Wiring.Proofs.Serve.Session
import Wiring.Proofs.Pattern.Spans
import Wiring.Proofs.Pattern.Closing
import Wiring.Proofs.Pattern.Bracket
import Wiring.Proofs.Pattern.Group
import Wiring.Proofs.Pattern.Anchored
import Wiring.Proofs.Route.Requirement
import Wiring.Proofs.Discovery.Constructor
import Wiring.Proofs.Discovery.Closure
import Wiring.Proofs.Plan.Middleware
import Wiring.Proofs.Serve.Listeners
import Wiring.Proofs.Binding.Skip
import Wiring.Proofs.Route.Reject
import Wiring.Proofs.Marker.Template
import Wiring.Proofs.Discovery.Default
import Wiring.Proofs.Disk.Spelling
import Wiring.Proofs.Artifact.Names
import Wiring.Proofs.Discovery.ParamType
import Wiring.Proofs.Artifact.Failure
import Wiring.Proofs.Binding.Chain
import Wiring.Proofs.Route.Insert
import Wiring.Proofs.Decimal.Reader
