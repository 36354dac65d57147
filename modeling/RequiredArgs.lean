import RequiredArgs.Check
import RequiredArgs.Cli.Args
import RequiredArgs.Cli.Help
import RequiredArgs.Cli.Run
import RequiredArgs.Config.Basic
import RequiredArgs.Config.Decode
import RequiredArgs.Config.Load
import RequiredArgs.Descriptor
import RequiredArgs.Extraction
import RequiredArgs.Files.Glob
import RequiredArgs.Files.Ignore
import RequiredArgs.Files.Path
import RequiredArgs.Files.Tree
import RequiredArgs.Files.Walk
import RequiredArgs.Go.Declaration
import RequiredArgs.Go.Grammar.Basic
import RequiredArgs.Go.Grammar.Symbol
import RequiredArgs.Go.Imports
import RequiredArgs.Go.Shape
import RequiredArgs.Go.Syntax.Basic
import RequiredArgs.Go.Syntax.Header
import RequiredArgs.Go.Syntax.Source
import RequiredArgs.Go.Token.Basic
import RequiredArgs.Json.Printer
import RequiredArgs.Json.Reader
import RequiredArgs.Json.Value
import RequiredArgs.Main
import RequiredArgs.Matching
import RequiredArgs.Pattern.Ast
import RequiredArgs.Pattern.Compile
import RequiredArgs.Pattern.Expr
import RequiredArgs.Pattern.Fault
import RequiredArgs.Pattern.Lowering
import RequiredArgs.Pattern.Parser
import RequiredArgs.Pattern.Size
import RequiredArgs.Policy.Basic
import RequiredArgs.Policy.Json
import RequiredArgs.Proofs.ReportContents
import RequiredArgs.Proofs.ReportOrder
import RequiredArgs.Proofs.ScopeOutcome
import RequiredArgs.Proofs.SlotLookup
import RequiredArgs.Proofs.SourceOrder
import RequiredArgs.Report.Basic
import RequiredArgs.Report.Human
import RequiredArgs.Report.Json
import RequiredArgs.Scope
import RequiredArgs.Text.Blank
import RequiredArgs.Text.Decimal
import RequiredArgs.Text.Escaped
import RequiredArgs.Unicode.Age
import RequiredArgs.Unicode.CaseFold
import RequiredArgs.Unicode.CharSet
import RequiredArgs.Unicode.GeneralCategory
import RequiredArgs.Unicode.Identifier
import RequiredArgs.Unicode.Property
import RequiredArgs.Unicode.Query
import RequiredArgs.Unicode.Script
import RequiredArgs.Yaml.Cursor
import RequiredArgs.Yaml.Node
import RequiredArgs.Yaml.Reader
import RequiredArgs.Yaml.Scalar
import RequiredArgs.Yaml.Schema
import RequiredArgs.Proofs.FileIndependence
import RequiredArgs.Proofs.JsonRecords
import RequiredArgs.Proofs.RuleIndependence
import RequiredArgs.Proofs.ListingAsYaml
import RequiredArgs.Proofs.PathOrder
import RequiredArgs.Proofs.RunInputs
import RequiredArgs.Proofs.RunOutcome
import RequiredArgs.Proofs.SourceNames
import RequiredArgs.Proofs.DeclarationReading
import RequiredArgs.Proofs.SourceRoundTrip
import RequiredArgs.Proofs.ExtractedSlots
import RequiredArgs.Proofs.IndexFromEnd
import RequiredArgs.Proofs.AliasRenaming
import RequiredArgs.Proofs.AddedParameters
import RequiredArgs.Proofs.ScopeVerdict
import RequiredArgs.Proofs.ConfigValidity
import RequiredArgs.Proofs.ImportHistory
import RequiredArgs.Proofs.ReducedShapes
import RequiredArgs.Proofs.SiteCoordinates
import RequiredArgs.Proofs.WalkedPaths
import RequiredArgs.Proofs.ReceiverForms
import RequiredArgs.Proofs.DeclaredShapes
