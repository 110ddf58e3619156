import RouteAtlas.Catalogue
import RouteAtlas.Code.Annotations
import RouteAtlas.Code.Brace
import RouteAtlas.Code.Call
import RouteAtlas.Code.ClassScope
import RouteAtlas.Code.Indented
import RouteAtlas.Code.Place
import RouteAtlas.CommandLine.Command
import RouteAtlas.CommandLine.Grammar
import RouteAtlas.Disk.ExcludesSetting
import RouteAtlas.Disk.Host
import RouteAtlas.Disk.IgnoreRules
import RouteAtlas.Disk.Tree
import RouteAtlas.Disk.Walk
import RouteAtlas.Endpoint
import RouteAtlas.Extract.Echo
import RouteAtlas.Extract.FastApi
import RouteAtlas.Extract.Flask
import RouteAtlas.Extract.JaxRs
import RouteAtlas.Extract.Spring
import RouteAtlas.Glob.Basic
import RouteAtlas.Glob.Error
import RouteAtlas.Glob.Expression
import RouteAtlas.Glob.Shape
import RouteAtlas.Glob.Token
import RouteAtlas.Index.Basic
import RouteAtlas.Index.Event
import RouteAtlas.Index.Scan
import RouteAtlas.Index.Signals
import RouteAtlas.Index.Snapshot
import RouteAtlas.Index.Source
import RouteAtlas.Main
import RouteAtlas.Path
import RouteAtlas.PathFilter
import RouteAtlas.Program
import RouteAtlas.Proofs.Catalogue.ClosedLists
import RouteAtlas.Proofs.Catalogue.Comments
import RouteAtlas.Proofs.Catalogue.LineBreaks
import RouteAtlas.Proofs.Catalogue.Remarks
import RouteAtlas.Proofs.Catalogue.WellFormed
import RouteAtlas.Proofs.Code.Annotations
import RouteAtlas.Proofs.Code.Balance
import RouteAtlas.Proofs.Code.Brace
import RouteAtlas.Proofs.Code.Call
import RouteAtlas.Proofs.Code.ClassBody
import RouteAtlas.Proofs.Code.ClassScope
import RouteAtlas.Proofs.Code.ClosedClass
import RouteAtlas.Proofs.Code.Headers
import RouteAtlas.Proofs.Code.Indented
import RouteAtlas.Proofs.Code.Keyword
import RouteAtlas.Proofs.Code.Lexeme
import RouteAtlas.Proofs.Code.Nesting
import RouteAtlas.Proofs.Code.Place
import RouteAtlas.Proofs.Code.Reader
import RouteAtlas.Proofs.Code.RouteLiteral
import RouteAtlas.Proofs.Code.Visibility
import RouteAtlas.Proofs.Disk.Discovery
import RouteAtlas.Proofs.Disk.Visibility
import RouteAtlas.Proofs.Echo.Blocks
import RouteAtlas.Proofs.Echo.Depth
import RouteAtlas.Proofs.Echo.Lines
import RouteAtlas.Proofs.Echo.OpenBlocks
import RouteAtlas.Proofs.Echo.Scoping
import RouteAtlas.Proofs.Echo.Statements
import RouteAtlas.Proofs.FastApi.Decorated
import RouteAtlas.Proofs.FastApi.QuickLook
import RouteAtlas.Proofs.Flask.ClassBodies
import RouteAtlas.Proofs.Flask.Registrations
import RouteAtlas.Proofs.Glob.Matching
import RouteAtlas.Proofs.Glob.Patterns
import RouteAtlas.Proofs.Glob.TestSources
import RouteAtlas.Proofs.Index.Callers
import RouteAtlas.Proofs.Index.Coherence
import RouteAtlas.Proofs.Index.Convergence
import RouteAtlas.Proofs.Index.EventOrder
import RouteAtlas.Proofs.Index.Execution
import RouteAtlas.Proofs.Index.Interleaving
import RouteAtlas.Proofs.Index.Lookup
import RouteAtlas.Proofs.Index.Outcome
import RouteAtlas.Proofs.Index.Partition
import RouteAtlas.Proofs.Index.Rebuild
import RouteAtlas.Proofs.Index.Supersession
import RouteAtlas.Proofs.Index.Surveys
import RouteAtlas.Proofs.Index.Wakeup
import RouteAtlas.Proofs.JaxRs.Locality
import RouteAtlas.Proofs.JaxRs.Resources
import RouteAtlas.Proofs.Numbered.Extract
import RouteAtlas.Proofs.Path
import RouteAtlas.Proofs.Path.Order
import RouteAtlas.Proofs.Report.Table
import RouteAtlas.Proofs.Route
import RouteAtlas.Proofs.Search
import RouteAtlas.Proofs.Settings.IgnoreList
import RouteAtlas.Proofs.Settings.Precedence
import RouteAtlas.Proofs.Spring.Controllers
import RouteAtlas.Proofs.Spring.Handlers
import RouteAtlas.Proofs.Spring.Locality
import RouteAtlas.Proofs.Spring.QuickLook
import RouteAtlas.Proofs.Text.Bytes
import RouteAtlas.Proofs.Text.Lowercase
import RouteAtlas.Proofs.Text.Pattern
import RouteAtlas.Proofs.Text.Pieces
import RouteAtlas.Report.Document
import RouteAtlas.Report.Json
import RouteAtlas.Report.Table
import RouteAtlas.Settings.File
import RouteAtlas.Settings.Key
import RouteAtlas.Settings.Layer
import RouteAtlas.Settings.Origin
import RouteAtlas.Settings.Resolve
import RouteAtlas.Settings.Resolved
import RouteAtlas.Text.Alphanumeric
import RouteAtlas.Text.Basic
import RouteAtlas.Text.Lowercase
import RouteAtlas.Text.Pattern
import RouteAtlas.Text.Printable
import RouteAtlas.Text.WordChar
import RouteAtlas.Toml.Document
import RouteAtlas.Toml.Node
import RouteAtlas.Toml.Reader
import RouteAtlas.Toml.Scalar
