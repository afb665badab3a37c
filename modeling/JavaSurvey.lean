import JavaSurvey.Syntax.Walk
import JavaSurvey.Text.Identifier
import JavaSurvey.Text.Uppercase
import JavaSurvey.Java.Token
import JavaSurvey.Grammar.Derivation
import JavaSurvey.Java.Lowering
import JavaSurvey.Data.OrderedSet
import JavaSurvey.Data.NameSet
import JavaSurvey.Decimal.Layout
import JavaSurvey.Decimal.Reader
import JavaSurvey.Metrics.Statistics
import JavaSurvey.CallGraph.Dot
import JavaSurvey.Json.Reader
import JavaSurvey.Syntax.Json
import JavaSurvey.CallGraph.Json
import JavaSurvey.Report.Text
import JavaSurvey.Report.Json
import JavaSurvey.Toml.Reader
import JavaSurvey.Toml.Writer
import JavaSurvey.Config.Toml
import JavaSurvey.CommandLine.Command
import JavaSurvey.Text.Utf8
import JavaSurvey.Text.WhiteSpace
import JavaSurvey.Text.Quoted
import JavaSurvey.Files.Store
import JavaSurvey.Analysis.Analyzer
import JavaSurvey.CommandLine.Execute
import JavaSurvey.Files.Change
import JavaSurvey.Report.Instant
import JavaSurvey.CommandLine.Help
import JavaSurvey.CommandLine.Reach
import JavaSurvey.Disk
import JavaSurvey.Main
import JavaSurvey.Proofs.Collections
import JavaSurvey.Proofs.Preorder
import JavaSurvey.Proofs.GraphGrowth
import JavaSurvey.Proofs.GraphOfFiles
import JavaSurvey.Proofs.TallyOfFiles
import JavaSurvey.Proofs.Outliers
import JavaSurvey.Proofs.Ranking
import JavaSurvey.Proofs.TallyOrder
import JavaSurvey.Proofs.TallyBounds
import JavaSurvey.Proofs.GraphNodes
import JavaSurvey.Proofs.DotText
import JavaSurvey.Proofs.DotLexemes
import JavaSurvey.Proofs.DotStatements
import JavaSurvey.Proofs.DotDrawing
import JavaSurvey.Proofs.DotColors
import JavaSurvey.Proofs.Addresses
import JavaSurvey.Proofs.KeptNodes
import JavaSurvey.Proofs.LoweredTree
import JavaSurvey.Proofs.NamedTrees
import JavaSurvey.Proofs.CallPairs
import JavaSurvey.Proofs.FileTree
import JavaSurvey.Proofs.Passes
import JavaSurvey.Proofs.PathOrder
import JavaSurvey.Proofs.Resolution
import JavaSurvey.Proofs.FileFrames
import JavaSurvey.Proofs.FewerFiles
import JavaSurvey.Proofs.LenientPasses
import JavaSurvey.Proofs.FlatGrammar
import JavaSurvey.Proofs.SoundCharts
import JavaSurvey.Proofs.Derivations
import JavaSurvey.Proofs.NamedCalls
import JavaSurvey.Proofs.Numerals
import JavaSurvey.Proofs.JsonText
import JavaSurvey.Proofs.ModelJson
import JavaSurvey.Proofs.RequestFrames
import JavaSurvey.Proofs.MenuScript
import JavaSurvey.Proofs.MenuCourse
import JavaSurvey.Proofs.TomlStrings
import JavaSurvey.Proofs.PositionalText
import JavaSurvey.Proofs.TomlScalars
import JavaSurvey.Proofs.TomlDocuments
import JavaSurvey.Proofs.Utf8Text
import JavaSurvey.Proofs.SettingsDocuments
import JavaSurvey.Proofs.SavedSettings
import JavaSurvey.Proofs.DoubleOrder
import JavaSurvey.Proofs.EnclosedCalls
import JavaSurvey.Proofs.ReportedFigures
import JavaSurvey.Proofs.DiscoveredOrder
import JavaSurvey.Proofs.PlacedTrees
import JavaSurvey.Proofs.TypeMembers
import JavaSurvey.Proofs.DrawnGraphs
import JavaSurvey.Proofs.CommandWordings
import JavaSurvey.Proofs.JsonReports
import JavaSurvey.Proofs.StackWalks
import JavaSurvey.Proofs.QuotedNames
import JavaSurvey.Proofs.FirstFaults
