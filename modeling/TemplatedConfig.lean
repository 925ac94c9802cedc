import TemplatedConfig.Body
import TemplatedConfig.Cli.Arguments
import TemplatedConfig.Cli.Override
import TemplatedConfig.Cli.Report
import TemplatedConfig.Cli.Run
import TemplatedConfig.Config.Basic
import TemplatedConfig.Config.Block
import TemplatedConfig.Config.Extraction
import TemplatedConfig.Config.Loading
import TemplatedConfig.Config.Pass
import TemplatedConfig.Config.Variable
import TemplatedConfig.Decimal.Binary
import TemplatedConfig.Decimal.Nearest
import TemplatedConfig.Decimal.Shortest
import TemplatedConfig.Document.Basic
import TemplatedConfig.Fault
import TemplatedConfig.Fields
import TemplatedConfig.Files.Glob
import TemplatedConfig.Files.PathName
import TemplatedConfig.Files.System
import TemplatedConfig.Files.Tree
import TemplatedConfig.Function.Basic
import TemplatedConfig.Json.Number
import TemplatedConfig.Json.Reader
import TemplatedConfig.Json.Writer
import TemplatedConfig.Main
import TemplatedConfig.Name.Grammar
import TemplatedConfig.Name.Pattern
import TemplatedConfig.Proofs.Body.Failing
import TemplatedConfig.Proofs.Body.References
import TemplatedConfig.Proofs.Cli.Overriding
import TemplatedConfig.Proofs.Config.Blocks
import TemplatedConfig.Proofs.Config.Coverage
import TemplatedConfig.Proofs.Config.Defaults
import TemplatedConfig.Proofs.Config.Enumeration
import TemplatedConfig.Proofs.Config.Exporting
import TemplatedConfig.Proofs.Config.Extraction
import TemplatedConfig.Proofs.Config.Gathering
import TemplatedConfig.Proofs.Config.Identity
import TemplatedConfig.Proofs.Config.Loading
import TemplatedConfig.Proofs.Config.Locating
import TemplatedConfig.Proofs.Config.Merging
import TemplatedConfig.Proofs.Config.Normalization
import TemplatedConfig.Proofs.Config.Pass
import TemplatedConfig.Proofs.Config.Regrouping
import TemplatedConfig.Proofs.Config.Rereading
import TemplatedConfig.Proofs.Config.Runs
import TemplatedConfig.Proofs.Config.Sections
import TemplatedConfig.Proofs.Config.SizeLimit
import TemplatedConfig.Proofs.Config.Unresolved
import TemplatedConfig.Proofs.Config.Validation
import TemplatedConfig.Proofs.Config.Validity
import TemplatedConfig.Proofs.Fields
import TemplatedConfig.Proofs.Files.PathName
import TemplatedConfig.Proofs.Function.Admission
import TemplatedConfig.Proofs.Function.Maps
import TemplatedConfig.Proofs.Results
import TemplatedConfig.Proofs.Scope.Exactness
import TemplatedConfig.Proofs.Scope.Interchange
import TemplatedConfig.Proofs.Scope.Naming
import TemplatedConfig.Proofs.Scope.Settling
import TemplatedConfig.Proofs.Scope.Strictness
import TemplatedConfig.Proofs.Template.AsWritten
import TemplatedConfig.Proofs.Template.Completeness
import TemplatedConfig.Proofs.Template.Concatenation
import TemplatedConfig.Proofs.Template.Escaping
import TemplatedConfig.Proofs.Template.Grammar
import TemplatedConfig.Proofs.Template.Identifiers
import TemplatedConfig.Proofs.Template.Levels
import TemplatedConfig.Proofs.Template.Limit
import TemplatedConfig.Proofs.Template.Nesting
import TemplatedConfig.Proofs.Template.Printing
import TemplatedConfig.Proofs.Template.Signs
import TemplatedConfig.Proofs.Template.Soundness
import TemplatedConfig.Proofs.Traversal.Addresses
import TemplatedConfig.Proofs.Traversal.Calls
import TemplatedConfig.Proofs.Traversal.Order
import TemplatedConfig.Proofs.Traversal.Shape
import TemplatedConfig.Proofs.Traversal.Sites
import TemplatedConfig.Proofs.Traversal.Structure
import TemplatedConfig.Proofs.Value.Keys
import TemplatedConfig.Proofs.Value.Path
import TemplatedConfig.Scope.Bindings
import TemplatedConfig.Scope.Evaluation
import TemplatedConfig.Scope.Operation
import TemplatedConfig.Template.Basic
import TemplatedConfig.Template.Parser
import TemplatedConfig.Template.Reference
import TemplatedConfig.Text.Classes
import TemplatedConfig.Text.Quoted
import TemplatedConfig.Traversal.Site
import TemplatedConfig.Traversal.Substitution
import TemplatedConfig.Value.Basic
import TemplatedConfig.Value.Path
import TemplatedConfig.Yaml.Node
import TemplatedConfig.Yaml.Plain
import TemplatedConfig.Yaml.Property
import TemplatedConfig.Yaml.Reader
import TemplatedConfig.Yaml.Scalar
import TemplatedConfig.Yaml.Source
import TemplatedConfig.Yaml.Token
import TemplatedConfig.Yaml.Writer
