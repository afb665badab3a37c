import JavaSurvey.Analysis.Menu
import JavaSurvey.CommandLine.Command
import JavaSurvey.Report.Json

/-!
# Carrying out commands

A request on the command line is read, the settings are found, and the command is
carried out with them.
-/

namespace JavaSurvey.CommandLine

open Analysis

/-- What commands find around them. -/
structure Surroundings where
  /-- Whether texts are coloured. -/
  colors : Bool := false
  /-- The time, for reports. -/
  now : String
  /-- The programs that can be started. -/
  programs : Programs := []
  /-- What the user types. -/
  input : List UInt8 := []

/-- The name of the file that `init` writes. -/
def settingsFile : String := "javascope.toml"

/-- Write a settings file, unless there is one that must be kept. -/
def writeSettingsFile (analyzer : Analyzer) (directory : Option String) (force : Bool) :
    Analysis.Request Unit := do
  let files ← currentFiles
  let path := Files.join (directory.getD files.currentPath) settingsFile
  if files.exists path && !force then
    warn s!"{path} already exists, use --force to overwrite"
  else
    saveSettings analyzer.settings path
    info s!"Wrote configuration: {path}"

/-- Show the statistics of a project. -/
def showStatistics (surroundings : Surroundings) (analyzer : Analyzer) (root : String)
    (percent : Option Float) (threshold : Option Nat) (json : Bool) : Analysis.Request Unit := do
  let project ← analyzer.openProject root
  let defaults := analyzer.settings.metrics.options
  let statistics ← analyzer.statistics project
    ⟨percent.getD defaults.percent, threshold.getD defaults.threshold⟩
  if json then
    print (Report.statisticsJson surroundings.now project.sourceDir statistics ++ "\n")
  else
    print (Report.statisticsText surroundings.colors statistics)

/-- Carry out a command. -/
def execute (surroundings : Surroundings) (analyzer : Analyzer) (command : Command) :
    Analysis.Request Unit := do
  match command with
  | .init path force => writeSettingsFile analyzer path force
  | .stats project percent threshold json =>
    showStatistics surroundings analyzer project percent threshold json
  | .graph root =>
    let project ← analyzer.openProject root
    print (Report.graphSummary surroundings.colors (← analyzer.drawCallGraph project))
  | .menu =>
    let _ ← runMenu surroundings.colors print analyzer surroundings.input

/-- Carry out a request, with the settings that it names. -/
def Request.run (surroundings : Surroundings) (request : Request) : Analysis.Request Unit := do
  let settings ← findSettings (← currentFiles) request.config
  execute surroundings (.ofSettings surroundings.programs settings) request.command

end JavaSurvey.CommandLine
