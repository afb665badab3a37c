import JavaSurvey.Config.Settings
import JavaSurvey.Toml.Reader
import JavaSurvey.Toml.Writer

/-!
# Settings as TOML

Each group of settings is a table of its fields. On reading, a field that is
missing has its default and a key that is unknown is passed over. A group may also
be an array of its fields in order, where those at the end may be missing.
-/

namespace JavaSurvey.Config

open JavaSurvey.Toml (Table Value)

/-- Whether a value can be a group of fields. -/
def isGroup : Value → Bool
  | .table _ _ | .array _ | .tables _ => true
  | _ => false

/-- The field of a group with a position and a name. -/
def field? (group : Value) (position : Nat) (name : String) : Option Value :=
  match group with
  | .table _ entries => Table.get? entries name
  | .array items => items[position]?
  | .tables elements => (elements[position]?).map (.table .header)
  | _ => none

/-- A text. -/
def text? : Value → Option String
  | .string text => some text
  | _ => none

/-- A truth value. -/
def boolean? : Value → Option Bool
  | .boolean value => some value
  | _ => none

/-- A natural number. -/
def natural? : Value → Option Nat
  | .integer (.ofNat n) => some n
  | _ => none

/-- A double; integers are rounded to one. -/
def double? : Value → Option Float
  | .float x => some x
  | .integer n => some (Decimal.nearest (n < 0) n.natAbs 0)
  | _ => none

/-- The reading of a field, or its default if it is missing. -/
def orDefault {α : Type} (read : Value → Option α) (default : α) : Option Value → Option α
  | none => some default
  | some value => read value

/-- Where a project keeps its sources. -/
def ProjectSettings.ofToml? (group : Value) : Option ProjectSettings := do
  let default : ProjectSettings := {}
  if !isGroup group then none
  let sourceSubdir ← orDefault text? default.sourceSubdir (field? group 0 "source_subdir")
  let fileMarker ← orDefault text? default.fileMarker (field? group 1 "file_marker")
  some ⟨sourceSubdir, fileMarker⟩

/-- How sources are read. -/
def ParsingSettings.ofToml? (group : Value) : Option ParsingSettings := do
  let default : ParsingSettings := {}
  if !isGroup group then none
  let maxFileSize ← orDefault natural? default.maxFileSize (field? group 0 "max_file_size")
  let failFast ← orDefault boolean? default.failFast (field? group 1 "fail_fast")
  some ⟨maxFileSize, failFast⟩

/-- Which classes count as outliers. -/
def MetricsSettings.ofToml? (group : Value) : Option MetricsSettings := do
  let default : MetricsSettings := {}
  if !isGroup group then none
  let topPercent ← orDefault double? default.topPercent (field? group 0 "top_percent")
  let methodThreshold ←
    orDefault natural? default.methodThreshold (field? group 1 "method_threshold")
  some ⟨topPercent, methodThreshold⟩

/-- Where and how a call graph is drawn. -/
def GraphSettings.ofToml? (group : Value) : Option GraphSettings := do
  let default : GraphSettings := {}
  if !isGroup group then none
  let outputDir ← orDefault text? default.outputDir (field? group 0 "output_dir")
  let dotFile ← orDefault text? default.dotFile (field? group 1 "dot_file")
  let imageFile ← orDefault text? default.imageFile (field? group 2 "image_file")
  let renderer ← orDefault text? default.renderer (field? group 3 "renderer")
  let imageFormat ← orDefault text? default.imageFormat (field? group 4 "image_format")
  let classColor ← orDefault text? default.classColor (field? group 5 "class_color")
  let methodColor ← orDefault text? default.methodColor (field? group 6 "method_color")
  some ⟨outputDir, dotFile, imageFile, renderer, imageFormat, classColor, methodColor⟩

/-- The settings in a document. -/
def Settings.ofTable? (table : Table) : Option Settings := do
  let project ← orDefault ProjectSettings.ofToml? {} (table.get? "project")
  let parsing ← orDefault ParsingSettings.ofToml? {} (table.get? "parsing")
  let metrics ← orDefault MetricsSettings.ofToml? {} (table.get? "metrics")
  let graph ← orDefault GraphSettings.ofToml? {} (table.get? "graph")
  some ⟨project, parsing, metrics, graph⟩

/-- The settings in a text. -/
def Settings.ofToml? (text : String) : Option Settings :=
  (JavaSurvey.Toml.read? text).bind Settings.ofTable?

/-! ## Writing -/

open JavaSurvey.Toml (stringText floatText booleanText naturalText? sectionText)

/-- The section of a project's layout. -/
def ProjectSettings.toToml (project : ProjectSettings) : String :=
  sectionText "project"
    [("source_subdir", stringText project.sourceSubdir),
      ("file_marker", stringText project.fileMarker)]

/-- The section on reading sources, unless the size is too large for the format. -/
def ParsingSettings.toToml? (parsing : ParsingSettings) : Option String :=
  (naturalText? parsing.maxFileSize).map fun size =>
    sectionText "parsing"
      [("max_file_size", size), ("fail_fast", booleanText parsing.failFast)]

/-- The section on outliers, unless the threshold is too large for the format. -/
def MetricsSettings.toToml? (metrics : MetricsSettings) : Option String :=
  (naturalText? metrics.methodThreshold).map fun threshold =>
    sectionText "metrics"
      [("top_percent", floatText metrics.topPercent), ("method_threshold", threshold)]

/-- The section on call graphs. -/
def GraphSettings.toToml (graph : GraphSettings) : String :=
  sectionText "graph"
    [("output_dir", stringText graph.outputDir), ("dot_file", stringText graph.dotFile),
      ("image_file", stringText graph.imageFile), ("renderer", stringText graph.renderer),
      ("image_format", stringText graph.imageFormat), ("class_color", stringText graph.classColor),
      ("method_color", stringText graph.methodColor)]

/-- The text of settings, unless a number in them is too large for the format. -/
def Settings.toToml? (settings : Settings) : Option String := do
  let parsing ← settings.parsing.toToml?
  let metrics ← settings.metrics.toToml?
  some ("\n".intercalate
    [settings.project.toToml, parsing, metrics, settings.graph.toToml])

end JavaSurvey.Config
