import JavaSurvey.CallGraph.Graph
import JavaSurvey.Metrics.Statistics
import JavaSurvey.Report.Paint

/-!
# Reports for people

Statistics and the outcome of drawing a call graph, as lines of text with one
labelled figure each.
-/

namespace JavaSurvey.Report

open CallGraph (GraphStats)
open Metrics (Statistics)

/-- A line with a label and a figure. -/
def line (colors : Bool) (label value : String) : String :=
  "[*] " ++ label ++ ": " ++ paint colors .cyan value ++ "\n"

/-- A natural number in digits. -/
def natText (n : Nat) : String :=
  String.ofList (Nat.toDigits 10 n)

/-- An average, or why there is none. -/
def averageText (value : Option Nat) (reason : String) : String :=
  match value with
  | some n => natText n
  | none => "undefined (" ++ reason ++ ")"

/-- Names with blanks between. -/
def namesText (names : List String) : String :=
  " ".intercalate names

/-- The statistics of a project. -/
def statisticsText (colors : Bool) (statistics : Statistics) : String :=
  let totals := statistics.totals
  let averages := statistics.averages
  let outliers := statistics.outliers
  let share := Decimal.plain.write outliers.percent ++ "% of classes with the most "
  "\n" ++ paint colors .boldGreen "Statistics:" ++ "\n\n"
    ++ line colors "Number of classes" (natText totals.classes)
    ++ line colors "Number of lines of code" (natText totals.lines)
    ++ line colors "Total number of methods" (natText totals.methods)
    ++ line colors "Total number of packages" (natText totals.packages.size)
    ++ line colors "Average methods per class"
      (averageText averages.methodsPerClass "no classes found")
    ++ line colors "Average lines of code per method"
      (averageText averages.linesPerMethod "no methods found")
    ++ line colors "Average attributes per class"
      (averageText averages.attributesPerClass "no classes found")
    ++ line colors "Maximum parameters of any method" (natText totals.maxParameters)
    ++ line colors (share ++ "methods") (namesText outliers.topByMethods)
    ++ line colors (share ++ "attributes") (namesText outliers.topByAttributes)
    ++ line colors "Classes in both categories" (namesText outliers.topInBoth)
    ++ line colors ("Classes with more than " ++ natText outliers.threshold ++ " methods")
      (namesText outliers.moreMethodsThanThreshold)

/-- What is left behind after drawing a call graph. -/
structure GraphArtifacts where
  dotPath : String
  /-- The image, if it could be drawn. -/
  imagePath : Option String
  /-- Why the image could not be drawn. -/
  renderError : Option String
  stats : GraphStats
deriving DecidableEq, Repr

/-- The outcome of drawing a call graph. -/
def graphSummary (colors : Bool) (artifacts : GraphArtifacts) : String :=
  let stats := artifacts.stats
  line colors "Call edges" (natText stats.totalCalls)
    ++ line colors "Nodes (class-like / method-like)"
      (natText stats.totalNodes ++ " (" ++ natText stats.classLike ++ " / "
        ++ natText stats.methodLike ++ ")")
    ++ line colors "Graph description" artifacts.dotPath
    ++ match artifacts.imagePath with
      | some image => line colors "Call graph generated" image
      | none =>
        paint colors .yellow
          "[!] Image rendering failed, the graph description is still available" ++ "\n"

end JavaSurvey.Report
