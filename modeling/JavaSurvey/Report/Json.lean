import JavaSurvey.Json.Writer
import JavaSurvey.Metrics.Statistics

/-!
# Reports for other programs

The statistics of a project as JSON, with the time of the report. What is
undefined is null.
-/

namespace JavaSurvey.Report

open Json (Value)
open Metrics (Averages Outliers Statistics Totals)

/-- Doubles in JSON: with a fraction or an exponent always, and with an exponent
from `10 ^ 16` on and below `10 ^ -5`. What is not a number is null. -/
def jsonDouble : Decimal.Layout where
  positional := fun leading => -5 ≤ leading && leading < 16
  showFraction := true
  nan := "null"
  infinity := "null"
  minusInfinity := "null"

/-- Totals as JSON. -/
def totalsJson (totals : Totals) : Value :=
  .object
    [("classes", .ofNat totals.classes), ("lines", .ofNat totals.lines),
      ("methods", .ofNat totals.methods), ("packages", .ofStrings totals.packages.toList),
      ("method_lines", .ofNat totals.methodLines), ("attributes", .ofNat totals.attributes),
      ("max_parameters", .ofNat totals.maxParameters)]

/-- Averages as JSON. -/
def averagesJson (averages : Averages) : Value :=
  .object
    [("methods_per_class", .ofNat? averages.methodsPerClass),
      ("lines_per_method", .ofNat? averages.linesPerMethod),
      ("attributes_per_class", .ofNat? averages.attributesPerClass)]

/-- A double as JSON. -/
def doubleJson (x : Float) : Value :=
  if x.isFinite then .number (jsonDouble.write x) else .null

/-- Outliers as JSON. -/
def outliersJson (outliers : Outliers) : Value :=
  .object
    [("percent", doubleJson outliers.percent), ("threshold", .ofNat outliers.threshold),
      ("top_by_methods", .ofStrings outliers.topByMethods),
      ("top_by_attributes", .ofStrings outliers.topByAttributes),
      ("top_in_both", .ofStrings outliers.topInBoth),
      ("more_methods_than_threshold", .ofStrings outliers.moreMethodsThanThreshold)]

/-- The report of a project's statistics at a time. -/
def reportJson (generatedAt project : String) (statistics : Statistics) : Value :=
  .object
    [("generated_at", .string generatedAt), ("project", .string project),
      ("statistics", .object
        [("files", .ofNat statistics.files), ("totals", totalsJson statistics.totals),
          ("averages", averagesJson statistics.averages),
          ("outliers", outliersJson statistics.outliers)])]

/-- The text of the report. -/
def statisticsJson (generatedAt project : String) (statistics : Statistics) : String :=
  (reportJson generatedAt project statistics).pretty

end JavaSurvey.Report
