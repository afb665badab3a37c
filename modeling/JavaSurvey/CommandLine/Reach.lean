import JavaSurvey.CommandLine.Execute

/-!
# The reach of requests

The part of the file system that a request can look at or write to. Whoever carries
out a request on a copy of the file system has to copy no more than this part.
-/

namespace JavaSurvey.CommandLine

open Analysis (Choice Dialogue Project)
open Config (Settings)

/-- A part of the file system. -/
structure Reach where
  /-- Directories with everything in them. -/
  trees : List String := []
  /-- Single files, which need not exist. -/
  files : List String := []
deriving DecidableEq, Repr

/-- Two parts together. -/
def Reach.union (first second : Reach) : Reach :=
  ⟨first.trees ++ second.trees, first.files ++ second.files⟩

/-- The sources of a project. -/
def sourceReach (settings : Settings) (root : String) : Reach :=
  { trees := [Files.join root settings.project.sourceSubdir] }

/-- The files of a drawing. -/
def drawingReach (settings : Settings) : Reach :=
  { files := [settings.graph.dotPath, settings.graph.renderer] }

/-- Where the settings of a request may be. -/
def Request.settingsReach (request : Request) : Reach :=
  { files := request.config.elim Analysis.usualSettingsFiles fun path => [path] }

/-- What a command can reach. The menu reaches nothing before the user answers. -/
def Command.reach (settings : Settings) : Command → Reach
  | .init directory _ => { files := [Files.join (directory.getD "") settingsFile] }
  | .stats project _ _ _ => sourceReach settings project
  | .graph project => (sourceReach settings project).union (drawingReach settings)
  | .menu => {}

/-- What actions on the selected project can reach. -/
def selectedReach : Option Project → Reach
  | none => {}
  | some project => { trees := [project.sourceDir] }

/-- What a dialogue can reach when it goes on with a line. -/
def dialogueReach (settings : Settings) (dialogue : Dialogue) (line : String) : Reach :=
  match dialogue.prompt with
  | .projectPath => sourceReach settings line
  | .choice =>
    match Choice.ofText line with
    | .showStatistics => selectedReach dialogue.session.project
    | .drawGraph =>
      (selectedReach dialogue.session.project).union (drawingReach settings)
    | _ => {}

end JavaSurvey.CommandLine
