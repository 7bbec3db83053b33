import SpanWeave.CommandLine.Reading
import SpanWeave.CommandLine.Session
import SpanWeave.CommandLine.Syntax
import SpanWeave.Datum
import SpanWeave.Declaration
import SpanWeave.Files.Path
import SpanWeave.Files.Tree
import SpanWeave.Ignore.Glob
import SpanWeave.Ignore.Rule
import SpanWeave.Index
import SpanWeave.Log
import SpanWeave.Main
import SpanWeave.Number.Binary64
import SpanWeave.Number.Reading
import SpanWeave.Number.Shortest
import SpanWeave.Pass.Finding
import SpanWeave.Pass.Generation
import SpanWeave.Pass.Placement
import SpanWeave.Pass.Pool
import SpanWeave.Pass.Selection
import SpanWeave.Pass.Survey
import SpanWeave.Proofs.CommandLine.SessionTrees
import SpanWeave.Proofs.Files.Additions
import SpanWeave.Proofs.Files.PathNames
import SpanWeave.Proofs.Files.TreeView
import SpanWeave.Proofs.Files.Upkeep
import SpanWeave.Proofs.Files.WellFormed
import SpanWeave.Proofs.Index.AddingOrder
import SpanWeave.Proofs.Index.LocationOrder
import SpanWeave.Proofs.Index.Sources
import SpanWeave.Proofs.Pass.Accounts
import SpanWeave.Proofs.Pass.Cancellation
import SpanWeave.Proofs.Pass.Conservation
import SpanWeave.Proofs.Pass.Effect
import SpanWeave.Proofs.Pass.PlacementResults
import SpanWeave.Proofs.Pass.PlanResults
import SpanWeave.Proofs.Pass.PoolResults
import SpanWeave.Proofs.Pass.Regeneration
import SpanWeave.Proofs.Pass.SelectionResults
import SpanWeave.Proofs.Pass.SurveyResults
import SpanWeave.Proofs.Pass.Targets
import SpanWeave.Proofs.Scan.FoundFiles
import SpanWeave.Proofs.Scan.Rescan
import SpanWeave.Proofs.Settings.OutputResults
import SpanWeave.Proofs.Source.ClassHeads
import SpanWeave.Proofs.Source.CursorReach
import SpanWeave.Proofs.Source.TokenPositions
import SpanWeave.Proofs.Text.Parts
import SpanWeave.Proofs.TracedResult
import SpanWeave.Proofs.Wrapper.AssemblyResults
import SpanWeave.Reading
import SpanWeave.Scan
import SpanWeave.Settings.Basic
import SpanWeave.Settings.Loading
import SpanWeave.Source.Grammar
import SpanWeave.Source.Literal
import SpanWeave.Source.Parameter
import SpanWeave.Source.Statement
import SpanWeave.Source.Token
import SpanWeave.Text.Base64
import SpanWeave.Text.Blank
import SpanWeave.Text.Digits
import SpanWeave.Text.Identifier
import SpanWeave.Text.IdentifierTable
import SpanWeave.Text.PrintableTable
import SpanWeave.Text.Quoted
import SpanWeave.Text.Utf8
import SpanWeave.Tracing.Marker
import SpanWeave.Tracing.ObjectSpace
import SpanWeave.Tracing.Span
import SpanWeave.Tracing.Tag
import SpanWeave.Wrapper.Assembly
import SpanWeave.Wrapper.Eligibility
import SpanWeave.Wrapper.Failure
import SpanWeave.Wrapper.Forwarding
import SpanWeave.Wrapper.Header
import SpanWeave.Wrapper.Imports
import SpanWeave.Wrapper.Members
import SpanWeave.Wrapper.Node
import SpanWeave.Wrapper.Rendering
import SpanWeave.Wrapper.Signature
import SpanWeave.Yaml.Alias
import SpanWeave.Yaml.Cursor
import SpanWeave.Yaml.Document
import SpanWeave.Yaml.Moment
import SpanWeave.Yaml.Node
import SpanWeave.Yaml.Scalar
import SpanWeave.Yaml.Token
import SpanWeave.Proofs.Wrapper.MemberResults
import SpanWeave.Proofs.Pass.Inputs
import SpanWeave.Proofs.Text.IdentifierNames
import SpanWeave.Proofs.Text.Trimming
import SpanWeave.Proofs.Wrapper.BodyMeaning
import SpanWeave.Proofs.Wrapper.UniqueNames
import SpanWeave.Proofs.Wrapper.Fidelity
import SpanWeave.Proofs.Pass.Isolation
import SpanWeave.Proofs.Scan.PackageNames
import SpanWeave.Proofs.Index.FragmentDirectories
import SpanWeave.Proofs.Pass.NextToSources
import SpanWeave.Proofs.Source.TokenTexts
import SpanWeave.Proofs.Wrapper.MergedImports
import SpanWeave.Proofs.Wrapper.RelativeImports
import SpanWeave.Proofs.Pass.OutputDirectory
import SpanWeave.Proofs.Ignore.DecidingRule
import SpanWeave.Proofs.Ignore.LiteralPatterns
import SpanWeave.Proofs.Scan.HiddenOutput
import SpanWeave.Proofs.Wrapper.MovedMembers
import SpanWeave.Proofs.Wrapper.WrittenOrder
import SpanWeave.Proofs.Tracing.NestedSpans
import SpanWeave.Proofs.Pass.PlacementOrder
import SpanWeave.Proofs.Settings.LoadingResults
import SpanWeave.Proofs.Wrapper.RepeatedParameters
import SpanWeave.Proofs.Pass.ResolvedCandidates
import SpanWeave.Proofs.Source.ReadingInvariant
import SpanWeave.Proofs.Source.FunctionNames
import SpanWeave.Proofs.Wrapper.ReadMembers
import SpanWeave.Proofs.Wrapper.ModuleNames
import SpanWeave.Proofs.Wrapper.HeldObject
import SpanWeave.Proofs.Wrapper.HeaderRemarks
import SpanWeave.Proofs.Text.LiteralValue
import SpanWeave.Proofs.Wrapper.QuotedNames
import SpanWeave.Proofs.Source.FirstWords
import SpanWeave.Proofs.Source.ImportStatements
import SpanWeave.Proofs.Wrapper.FutureImports
import SpanWeave.Proofs.Ignore.PatternTexts
import SpanWeave.Proofs.Scan.AnchoredRules
import SpanWeave.Proofs.Scan.ModulePlaces
import SpanWeave.Proofs.Wrapper.BaseImport
import SpanWeave.Proofs.Wrapper.CopyrightYear
import SpanWeave.Proofs.Source.ClassMembers
import SpanWeave.Proofs.Settings.DocumentValues
import SpanWeave.Proofs.Settings.Validation
import SpanWeave.Proofs.Source.AlikeCursors
import SpanWeave.Proofs.Source.AlikeStatements
import SpanWeave.Proofs.Source.ParameterLayout
import SpanWeave.Proofs.Wrapper.ForwardingLists
import SpanWeave.Proofs.Tracing.StorableTags
