import Modforge.Decimal.Double
import Modforge.Decimal.Reading
import Modforge.Decimal.Shortest
import Modforge.Decimal.Word
import Modforge.Decimal.Written
import Modforge.Declaration.Choice
import Modforge.Declaration.Container
import Modforge.Declaration.Document
import Modforge.Declaration.Forms
import Modforge.Declaration.Member
import Modforge.Entity.Basic
import Modforge.Entity.Defaults
import Modforge.Entity.Duplicate
import Modforge.Entity.Layer
import Modforge.Entity.Loot
import Modforge.Files.Path
import Modforge.Files.Tree
import Modforge.Form.Basic
import Modforge.Form.Loose
import Modforge.Form.OfJson
import Modforge.Form.OfText
import Modforge.Generation.Plan
import Modforge.Generation.Run
import Modforge.Json.Cursor
import Modforge.Json.Fault
import Modforge.Json.Parse
import Modforge.Json.Scalar
import Modforge.Json.Value
import Modforge.Keyed
import Modforge.Layout.Eval
import Modforge.Layout.Expr
import Modforge.Layout.ExprReader
import Modforge.Layout.Filter
import Modforge.Layout.Node
import Modforge.Layout.Reference
import Modforge.Layout.Render
import Modforge.Layout.Scope
import Modforge.Layout.Token
import Modforge.Member.Callback
import Modforge.Member.Check
import Modforge.Naming.Qualified
import Modforge.Naming.Rule
import Modforge.Output.Disk
import Modforge.Output.Memory
import Modforge.Output.Sink
import Modforge.Proofs.Candidate.Spec
import Modforge.Proofs.Resolved
import Modforge.Proofs.Run
import Modforge.Registrar.Source
import Modforge.Registrar.Statement
import Modforge.Report.Diagnostic
import Modforge.Report.Failure
import Modforge.Resource
import Modforge.Settings
import Modforge.Template.Body
import Modforge.Template.Bundled
import Modforge.Template.Catalog
import Modforge.Template.Kind
import Modforge.Template.Loader
import Modforge.Template.Slot
import Modforge.Template.Store
import Modforge.Text.CaseTable
import Modforge.Text.ClassTable
import Modforge.Text.Cluster
import Modforge.Text.ClusterTable
import Modforge.Text.Digits
import Modforge.Text.Letter
import Modforge.Text.Parse
import Modforge.Text.Quoted
import Modforge.Text.Snake
import Modforge.Text.Split
import Modforge.Text.Utf8
import Modforge.Toml.Document
import Modforge.Toml.Number
import Modforge.Toml.Quoted
import Modforge.Toml.Reading
import Modforge.Toml.Value
import Modforge.Yaml.Cursor
import Modforge.Yaml.Node
import Modforge.Yaml.Plain
import Modforge.Yaml.Reading
import Modforge.Yaml.Scalar.Block
import Modforge.Yaml.Scalar.Folding
import Modforge.Yaml.Scalar.Plain
import Modforge.Yaml.Scalar.Quoted
import Modforge.Yaml.Scan
import Modforge.Yaml.Tag
import Modforge.Yaml.Token
import Modforge.Proofs.Candidate.Memory
import Modforge.Proofs.Inlined.Run
import Modforge.Proofs.Confined
import Modforge.Proofs.Declarations
import Modforge.Proofs.Candidate.Calls
import Modforge.Proofs.Refused.Run
import Modforge.Proofs.Apart
import Modforge.Proofs.Folders
import Modforge.Proofs.Mirrored.Names
import Modforge.Proofs.Mirrored.Spec
import Modforge.Proofs.Statement.Run
import Modforge.Proofs.Mirrored.Run
import Modforge.Proofs.Enrolment.Run
import Modforge.Proofs.Distinct
import Modforge.Proofs.Rejected
import Modforge.Proofs.Determined
import Modforge.Proofs.Rerun
import Modforge.Proofs.Slot.Matched
import Modforge.Proofs.Slot.Numbers
import Modforge.Proofs.Placeholder.Quiet
import Modforge.Proofs.Slot.Arity
import Modforge.Proofs.Slot.Escaped
import Modforge.Proofs.Callback.Run
import Modforge.Proofs.Problem.Reports
import Modforge.Proofs.Members
import Modforge.Proofs.Enrolment.Order
import Modforge.Proofs.Filled.Bundled
import Modforge.Proofs.Repeated
import Modforge.Proofs.Group
import Modforge.Proofs.Store.Population
import Modforge.Proofs.Neutral
import Modforge.Proofs.SnakeCase
import Modforge.Proofs.OneFile
import Modforge.Proofs.Attributed.Run
import Modforge.Proofs.SourcePath
