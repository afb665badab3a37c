import JavaSurvey.Analysis.Renderer
import JavaSurvey.Analysis.Sources
import JavaSurvey.Config.Toml
import JavaSurvey.Report.Text

/-!
# The analyzer

An analyzer has settings and a renderer. It opens projects, computes their
statistics and draws their call graphs.
-/

namespace JavaSurvey.Analysis

open CallGraph (Graph)
open Config (ProjectSettings Settings)
open Files (Store)
open Metrics (SelectionOptions Statistics Tally)
open Report (GraphArtifacts)

/-! ## Settings in files -/

/-- The settings in a file. -/
def loadSettings (files : Store) (path : String) : Except Failure Settings := do
  let text ← (readText files path).mapError .file
  match Settings.ofToml? text with
  | some settings => .ok settings
  | none => .error .config

/-- Write settings to a file. -/
def saveSettings (settings : Settings) (path : String) : Request Unit :=
  match settings.toToml? with
  | some text => writeText path text
  | none => throw .config

/-- The files in which settings are looked for. -/
def usualSettingsFiles : List String :=
  ["Javascope.toml", "javascope.toml", ".javascope.toml"]

/-- The settings in a given file, or in the first of the usual files that exists. If
there is no such file, the settings have their defaults. -/
def findSettings (files : Store) (path : Option String) : Except Failure Settings :=
  let candidates := path.elim usualSettingsFiles fun path => [path]
  match candidates.find? files.exists with
  | some path => loadSettings files path
  | none => .ok {}

/-! ## Projects -/

/-- A project that was opened. -/
structure Project where
  root : String
  /-- The directory of the sources. -/
  sourceDir : String
deriving DecidableEq, Repr

/-- Open a project: the directory of its sources must exist. -/
def Project.open (settings : ProjectSettings) (files : Store) (root : String) :
    Except Failure Project :=
  let sourceDir := Files.join root settings.sourceSubdir
  if files.isDirectory sourceDir then .ok ⟨root, sourceDir⟩
  else .error (.invalidProject root settings.sourceSubdir)

/-! ## The analyzer -/

/-- Settings and a renderer. -/
structure Analyzer where
  settings : Settings
  renderer : Renderer

/-- The analyzer with the renderer that the settings name. -/
def Analyzer.ofSettings (programs : Programs) (settings : Settings) : Analyzer :=
  ⟨settings, .ofProgram programs settings.graph.renderer settings.graph.imageFormat⟩

/-- Open a project. -/
def Analyzer.openProject (analyzer : Analyzer) (root : String) : Request Project := do
  let project ← Project.open analyzer.settings.project (← currentFiles) root
  info s!"Selected project: {project.root}"
  return project

/-- Take up a source file into a tally. -/
def tallyUnit : Consumer Tally := fun tally unit =>
  (tally.accumulate unit, .ok ())

/-- The statistics of a project. -/
def Analyzer.statistics (analyzer : Analyzer) (project : Project) (options : SelectionOptions) :
    Request Statistics := do
  info s!"Computing statistics for {project.sourceDir}"
  let (tally, outcome) ← forEachUnit analyzer.settings project.sourceDir tallyUnit {}
  let summary ← outcome
  let statistics ← (tally.finalize options).mapError Failure.metrics
  let totals := statistics.totals
  info s!"Analyzed {summary.parsed} files: {totals.classes} classes, {totals.methods} methods"
  if totals.classes = 0 then
    warn s!"No classes found under {project.sourceDir}"
  return statistics

/-- Take up a source file into a graph. -/
def graphUnit : Consumer Graph := fun graph unit =>
  let (graph, outcome) := graph.addUnit unit
  match outcome with
  | .ok _ => (graph, .ok ())
  | .error error => (graph, .error (.graph error.message))

/-- The call graph of a project. -/
def Analyzer.buildCallGraph (analyzer : Analyzer) (project : Project) : Request Graph := do
  info s!"Building call graph for {project.sourceDir}"
  let (graph, outcome) ← forEachUnit analyzer.settings project.sourceDir graphUnit .empty
  let summary ← outcome
  info s!"Found {graph.edgeCount} call edges in {summary.parsed} files"
  return graph

/-- Write the description of a graph, and the directories above it that are missing. -/
def writeDescription (path description : String) : Request Unit := do
  match Files.parent? path with
  | some parent => createDirectories parent
  | none => pure ()
  writeText path description
  info s!"Wrote call graph description: {path}"

/-- Draw the call graph of a project. A renderer that fails is reported, and the
description stays. -/
def Analyzer.drawCallGraph (analyzer : Analyzer) (project : Project) :
    Request GraphArtifacts := do
  let settings := analyzer.settings.graph
  let graph ← analyzer.buildCallGraph project
  writeDescription settings.dotPath (graph.toDot settings.palette)
  info s!"Rendering with {analyzer.renderer.name}"
  let files ← currentFiles
  let drawing := analyzer.renderer.draw files settings.dotPath settings.imagePath
  setFiles (analyzer.renderer.filesAfter files settings.dotPath settings.imagePath)
  print drawing.printed
  match drawing.failure with
  | none =>
    info s!"Call graph generated: {settings.imagePath}"
    return ⟨settings.dotPath, some settings.imagePath, none, graph.stats⟩
  | some reason =>
    let message := (Failure.render reason).message
    warn s!"Failed to render call graph image: {message}"
    return ⟨settings.dotPath, none, some message, graph.stats⟩

end JavaSurvey.Analysis
