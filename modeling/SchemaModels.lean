import SchemaModels.Command.Arguments
import SchemaModels.Command.Ending
import SchemaModels.Command.Help
import SchemaModels.Command.Run
import SchemaModels.Command.Switch
import SchemaModels.Double
import SchemaModels.Double.Fixed
import SchemaModels.Double.Reader
import SchemaModels.Double.Shortest
import SchemaModels.Enum
import SchemaModels.Expansion
import SchemaModels.Fault
import SchemaModels.FieldType
import SchemaModels.Files.Error
import SchemaModels.Files.Path
import SchemaModels.Files.Replace
import SchemaModels.Files.Tree
import SchemaModels.Json
import SchemaModels.Json.Access
import SchemaModels.Json.Display
import SchemaModels.Json.Reader
import SchemaModels.Json.Writer
import SchemaModels.Log
import SchemaModels.Log.Console
import SchemaModels.Log.Line
import SchemaModels.Log.Mark
import SchemaModels.Main
import SchemaModels.Module
import SchemaModels.Module.GeoPoint
import SchemaModels.Module.Import
import SchemaModels.Module.Member
import SchemaModels.Module.Render
import SchemaModels.Naming
import SchemaModels.Naming.Checked
import SchemaModels.Naming.Reserved
import SchemaModels.Package.Aggregator
import SchemaModels.Package.Format
import SchemaModels.Package.Generate
import SchemaModels.Package.Plan
import SchemaModels.Package.Report
import SchemaModels.Problem
import SchemaModels.Proofs.Alike
import SchemaModels.Proofs.Command.Generate
import SchemaModels.Proofs.Command.Run
import SchemaModels.Proofs.Command.Stages
import SchemaModels.Proofs.Double
import SchemaModels.Proofs.Enum
import SchemaModels.Proofs.Enum.Table
import SchemaModels.Proofs.Expansion
import SchemaModels.Proofs.Expansion.Exchange
import SchemaModels.Proofs.Expansion.Permutation
import SchemaModels.Proofs.Expansion.Resolution
import SchemaModels.Proofs.Expansion.Walk
import SchemaModels.Proofs.Failure
import SchemaModels.Proofs.Files.Atomic
import SchemaModels.Proofs.Files.Directory
import SchemaModels.Proofs.Files.Overwrite
import SchemaModels.Proofs.Files.Path
import SchemaModels.Proofs.Files.Replace
import SchemaModels.Proofs.Files.Tree
import SchemaModels.Proofs.Files.Writable
import SchemaModels.Proofs.Log
import SchemaModels.Proofs.Module.Acceptance
import SchemaModels.Proofs.Module.Bare
import SchemaModels.Proofs.Module.Build
import SchemaModels.Proofs.Module.Canonical
import SchemaModels.Proofs.Module.Capture
import SchemaModels.Proofs.Module.ClassName
import SchemaModels.Proofs.Module.Closure
import SchemaModels.Proofs.Module.Identifiers
import SchemaModels.Proofs.Module.Imports
import SchemaModels.Proofs.Module.Literals
import SchemaModels.Proofs.Module.Members
import SchemaModels.Proofs.Module.Ordinary
import SchemaModels.Proofs.Module.Refusal
import SchemaModels.Proofs.Module.Scope
import SchemaModels.Proofs.Module.Statements
import SchemaModels.Proofs.Naming.Characters
import SchemaModels.Proofs.Naming.Composed
import SchemaModels.Proofs.Naming.Identifier
import SchemaModels.Proofs.Naming.Inverse
import SchemaModels.Proofs.Naming.Legal
import SchemaModels.Proofs.Naming.Letters
import SchemaModels.Proofs.Naming.Reserved
import SchemaModels.Proofs.Naming.Snake
import SchemaModels.Proofs.Naming.Usable
import SchemaModels.Proofs.Package.Alike
import SchemaModels.Proofs.Package.Atomicity
import SchemaModels.Proofs.Package.Clash
import SchemaModels.Proofs.Package.Draft
import SchemaModels.Proofs.Package.Effect
import SchemaModels.Proofs.Package.Exports
import SchemaModels.Proofs.Package.Format
import SchemaModels.Proofs.Package.Frame
import SchemaModels.Proofs.Package.Interference
import SchemaModels.Proofs.Package.Modes
import SchemaModels.Proofs.Package.Order
import SchemaModels.Proofs.Package.Plan
import SchemaModels.Proofs.Package.References
import SchemaModels.Proofs.Package.Reordering
import SchemaModels.Proofs.Package.Rerun
import SchemaModels.Proofs.Package.Run
import SchemaModels.Proofs.Package.SelfReference
import SchemaModels.Proofs.Package.Success
import SchemaModels.Proofs.Package.Surface
import SchemaModels.Proofs.Package.Unmapped
import SchemaModels.Proofs.Package.Warnings
import SchemaModels.Proofs.Package.Writing
import SchemaModels.Proofs.Schema.Layout
import SchemaModels.Proofs.Server.Collections
import SchemaModels.Proofs.Server.Listing
import SchemaModels.Proofs.Server.Mappings
import SchemaModels.Proofs.Server.Pages
import SchemaModels.Proofs.Server.Session
import SchemaModels.Proofs.Server.SignIn
import SchemaModels.Proofs.Settings.Domain
import SchemaModels.Proofs.Settings.Failure
import SchemaModels.Proofs.Settings.Load
import SchemaModels.Proofs.Source.Hint
import SchemaModels.Proofs.Source.Literal
import SchemaModels.Proofs.Source.Names
import SchemaModels.Proofs.Source.Number
import SchemaModels.Proofs.Source.Reading
import SchemaModels.Proofs.Source.Words
import SchemaModels.Proofs.Source.Written
import SchemaModels.Proofs.Task
import SchemaModels.Proofs.Text.Blank
import SchemaModels.Proofs.Text.Case
import SchemaModels.Proofs.Text.Closure
import SchemaModels.Proofs.Text.Compat
import SchemaModels.Proofs.Text.Identifier
import SchemaModels.Proofs.Text.Lower
import SchemaModels.Proofs.Text.Normal
import SchemaModels.Proofs.Text.Order
import SchemaModels.Proofs.Text.Simple
import SchemaModels.Proofs.Text.Stable
import SchemaModels.Proofs.Yaml.Node
import SchemaModels.Proofs.Yaml.Token
import SchemaModels.Proofs.Yaml.Value
import SchemaModels.Report
import SchemaModels.Schema
import SchemaModels.Schema.Ingest
import SchemaModels.Server.Fetch
import SchemaModels.Server.Listing
import SchemaModels.Server.Recording
import SchemaModels.Server.Session
import SchemaModels.Server.SignIn
import SchemaModels.Settings
import SchemaModels.Settings.Check
import SchemaModels.Settings.Complaint
import SchemaModels.Settings.Load
import SchemaModels.Source.Expr
import SchemaModels.Source.Hint
import SchemaModels.Source.Hint.Token
import SchemaModels.Source.Literal
import SchemaModels.Source.Readable
import SchemaModels.Source.Statement
import SchemaModels.Task
import SchemaModels.Template
import SchemaModels.Text.Blank
import SchemaModels.Text.Case
import SchemaModels.Text.Case.Table
import SchemaModels.Text.Compat
import SchemaModels.Text.Compat.Composition
import SchemaModels.Text.Compat.Decomposition
import SchemaModels.Text.Digit
import SchemaModels.Text.Fill
import SchemaModels.Text.Identifier
import SchemaModels.Text.Identifier.Table
import SchemaModels.Text.Interval
import SchemaModels.Text.Part
import SchemaModels.Text.Printable
import SchemaModels.Text.Printable.Table
import SchemaModels.Yaml.Binary
import SchemaModels.Yaml.Cursor
import SchemaModels.Yaml.Node
import SchemaModels.Yaml.Numeral
import SchemaModels.Yaml.Property
import SchemaModels.Yaml.Scalar
import SchemaModels.Yaml.Tag
import SchemaModels.Yaml.Timestamp
import SchemaModels.Yaml.Token
import SchemaModels.Yaml.Value
