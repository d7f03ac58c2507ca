import AdapterGen.Code.Block
import AdapterGen.Code.ClassDecl
import AdapterGen.Code.Modifier
import AdapterGen.Code.SourceFile
import AdapterGen.Code.StringLiteral
import AdapterGen.Command
import AdapterGen.Command.Load
import AdapterGen.Command.Report
import AdapterGen.Command.Run
import AdapterGen.CommandLine
import AdapterGen.CommandLine.Response
import AdapterGen.Config
import AdapterGen.Config.Settings
import AdapterGen.Consistency
import AdapterGen.DecodePlan
import AdapterGen.Document
import AdapterGen.Document.Json
import AdapterGen.Document.Toml
import AdapterGen.Document.Toml.Scalar
import AdapterGen.Document.Toml.Tables
import AdapterGen.Emission
import AdapterGen.Emission.Adapter
import AdapterGen.Emission.Factory
import AdapterGen.Emission.Locals
import AdapterGen.Emission.Names
import AdapterGen.Fields
import AdapterGen.FilePath
import AdapterGen.FileTree
import AdapterGen.FileTree.Change
import AdapterGen.GenerateError
import AdapterGen.Log
import AdapterGen.Main
import AdapterGen.Manifest
import AdapterGen.Manifest.Settings
import AdapterGen.Model
import AdapterGen.Naming
import AdapterGen.PrimitiveKind
import AdapterGen.Proofs.Outcome
import AdapterGen.Proofs.TypeDescriptor.Layout
import AdapterGen.Proofs.TypeDescriptor.Names
import AdapterGen.Proofs.TypeDescriptor.Places
import AdapterGen.Round
import AdapterGen.Round.Logged
import AdapterGen.Round.Phase
import AdapterGen.Sink
import AdapterGen.Sink.Directory
import AdapterGen.Sink.Memory
import AdapterGen.Source.Expression
import AdapterGen.Source.Grammar
import AdapterGen.Source.Grammar.AngleList
import AdapterGen.Source.Grammar.Attribute
import AdapterGen.Source.Grammar.Expression
import AdapterGen.Source.Grammar.Generics
import AdapterGen.Source.Grammar.Item
import AdapterGen.Source.Grammar.Path
import AdapterGen.Source.Grammar.Pattern
import AdapterGen.Source.Grammar.Statement
import AdapterGen.Source.Grammar.Type
import AdapterGen.Source.Grammar.Whole
import AdapterGen.Source.Option
import AdapterGen.Source.Parse
import AdapterGen.Source.Precedence
import AdapterGen.Source.Resolve
import AdapterGen.Source.Scan
import AdapterGen.Source.Syntax
import AdapterGen.Source.TokenTree
import AdapterGen.Source.TokenTree.Literal
import AdapterGen.Source.TokenTree.Read
import AdapterGen.Target
import AdapterGen.Text.Alphanumeric
import AdapterGen.Text.Ascending
import AdapterGen.Text.Blank
import AdapterGen.Text.CharRange
import AdapterGen.Text.IdentifierChar
import AdapterGen.Text.Lines
import AdapterGen.Text.Quoted
import AdapterGen.Text.Reader
import AdapterGen.Text.Segments
import AdapterGen.Text.Uppercase
import AdapterGen.Text.Visible
import AdapterGen.TypeDescriptor
import AdapterGen.TypeDescriptor.Parse
import AdapterGen.TypeDescriptor.Token
import AdapterGen.TypeExpr
import AdapterGen.Proofs.TypeDescriptor.Grammar
import AdapterGen.Proofs.TypeDescriptor.RoundTrip
import AdapterGen.Proofs.Java.Expression
import AdapterGen.Proofs.Round.Contributions
import AdapterGen.Proofs.Java.Statement
import AdapterGen.Proofs.Java.Run
import AdapterGen.Proofs.Decoder.Locals
import AdapterGen.Proofs.Decoder.TypeText
import AdapterGen.Proofs.Decoder.Program
import AdapterGen.Proofs.Decoder.Reference
import AdapterGen.Proofs.Decoder.Reads
import AdapterGen.Proofs.Decoder.Correctness
import AdapterGen.Proofs.Decoder.Emitted
import AdapterGen.Proofs.Text.Segments
import AdapterGen.Proofs.FileTree
import AdapterGen.Proofs.FilePath
import AdapterGen.Proofs.Sink.Rollback
import AdapterGen.Proofs.Emission.UnitNames
import AdapterGen.Proofs.Round.Sources
import AdapterGen.Proofs.Nullability
import AdapterGen.Proofs.Source.Scope
import AdapterGen.Proofs.Decoder.Capture
import AdapterGen.Proofs.Decoder.Declarations
import AdapterGen.Proofs.Round.Dispatch
import AdapterGen.Proofs.Sink.Simulation
import AdapterGen.Proofs.TypeDescriptor.Reports
import AdapterGen.Proofs.Decoder.Handles
import AdapterGen.Proofs.Emission.Rules
import AdapterGen.Proofs.Decoder.Labels
import AdapterGen.Proofs.Manifest
import AdapterGen.Proofs.Source.Packages
import AdapterGen.Proofs.Source.FieldTypes
import AdapterGen.Proofs.Source.Fields
import AdapterGen.Proofs.Consistency
import AdapterGen.Proofs.Text.Ascending
import AdapterGen.Proofs.Sink.Bookkeeping
import AdapterGen.Proofs.Emission.Phrases
import AdapterGen.Proofs.Emission.Imports
import AdapterGen.Proofs.Emission.Clashes
import AdapterGen.Proofs.Code.Flows
import AdapterGen.Proofs.Emission.Bodies
import AdapterGen.Proofs.Emission.Logging
import AdapterGen.Proofs.Sink.Unwinding
import AdapterGen.Proofs.Emission.KeyChange
import AdapterGen.Proofs.Code.Splicing
import AdapterGen.Proofs.Sink.Addresses
import AdapterGen.Proofs.Code.FileNames
import AdapterGen.Proofs.Naming.CamelCase
