import JavaSurvey.CallGraph.Dot
import JavaSurvey.Files.Path
import JavaSurvey.Metrics.Statistics

/-!
# Settings

What a user can configure: where a project keeps its sources, how they are read,
which classes count as outliers, and where and how a call graph is drawn. Every
setting has a default.
-/

namespace JavaSurvey.Config

/-- Where a project keeps its sources. -/
structure ProjectSettings where
  /-- The directory below the root of a project that holds its sources. -/
  sourceSubdir : String := "src"
  /-- What the name of a source file contains. -/
  fileMarker : String := ".java"

/-- How sources are read. -/
structure ParsingSettings where
  /-- The largest size of a source file, in bytes. -/
  maxFileSize : Nat := 1048576
  /-- Whether the first file that cannot be read ends a run. -/
  failFast : Bool := true

/-- Which classes count as outliers. -/
structure MetricsSettings where
  /-- The share of classes at the top, in percent. -/
  topPercent : Float := 10.0
  /-- The number of methods above which a class stands out. -/
  methodThreshold : Nat := 10

/-- Where and how a call graph is drawn. -/
structure GraphSettings where
  /-- The directory of the graph's description and image. -/
  outputDir : String := "resources/graphs"
  dotFile : String := "callgraph.dot"
  imageFile : String := "callgraph.png"
  /-- The program that draws. -/
  renderer : String := "dot"
  imageFormat : String := "png"
  classColor : String := "lightblue"
  methodColor : String := "lightgreen"

/-- All settings. -/
structure Settings where
  project : ProjectSettings := {}
  parsing : ParsingSettings := {}
  metrics : MetricsSettings := {}
  graph : GraphSettings := {}

/-- The file with the description of a call graph. -/
def GraphSettings.dotPath (graph : GraphSettings) : String :=
  Files.join graph.outputDir graph.dotFile

/-- The file with the image of a call graph. -/
def GraphSettings.imagePath (graph : GraphSettings) : String :=
  Files.join graph.outputDir graph.imageFile

/-- The colours of a call graph. -/
def GraphSettings.palette (graph : GraphSettings) : CallGraph.Palette :=
  ⟨graph.classColor, graph.methodColor⟩

/-- How outliers are selected. -/
def MetricsSettings.options (metrics : MetricsSettings) : Metrics.SelectionOptions :=
  ⟨metrics.topPercent, metrics.methodThreshold⟩

end JavaSurvey.Config
