import JavaSurvey.Analysis.Analyzer
import JavaSurvey.Text.Quoted
import JavaSurvey.Text.WhiteSpace

/-!
# The menu

A dialogue with the user: the menu is shown, a line is read, and the choice on it is
carried out, until the user quits or the input ends. The line after the choice of a
project is its path and never a choice. The only state is the project that was
opened last.
-/

namespace JavaSurvey.Analysis

open Report (paint)

/-! ## Lines -/

/-- The lines of an input, each with the line feed at its end; the part read of the
current line is `line`, in reverse. -/
def splitLinesFrom (line : List UInt8) : List UInt8 → List (List UInt8)
  | [] => if line.isEmpty then [] else [line.reverse]
  | byte :: rest =>
    if byte == 10 then (byte :: line).reverse :: splitLinesFrom [] rest
    else splitLinesFrom (byte :: line) rest

/-- The lines of an input, each with the line feed at its end. -/
def splitLines (input : List UInt8) : List (List UInt8) :=
  splitLinesFrom [] input

/-- A line without white space at its ends. -/
def readLine (line : List UInt8) : Request String :=
  match Text.Utf8.decode line with
  | .ok text => pure (Text.trim text)
  | .error fault => throw (.input fault)

/-! ## Choices -/

/-- What a line asks for. -/
inductive Choice where
  | quit
  | selectProject
  | showStatistics
  | drawGraph
  | unknown (text : String)
deriving DecidableEq, Repr

/-- The choice on a line. -/
def Choice.ofText (text : String) : Choice :=
  if text == "0" then .quit
  else if text == "1" then .selectProject
  else if text == "2" then .showStatistics
  else if text == "3" then .drawGraph
  else .unknown text

/-- The state of a dialogue: the project that was opened last. -/
structure Session where
  project : Option Project := none
deriving DecidableEq, Repr

/-- The menu. Statistics and graphs are offered once there is a project. -/
def menuText (colors : Bool) (session : Session) : String :=
  let choices :=
    if session.project.isSome then
      "1. Change project\n2. Show project statistics\n3. Generate the project call graph\n"
    else "1. Select a project\n"
  paint colors .green "=== Main menu ===" ++ "\n" ++ paint colors .yellow "0. Quit" ++ "\n"
    ++ choices ++ paint colors .green "=================" ++ "\n"

/-- A failure, as a line. -/
def failureLine (colors : Bool) (failure : Failure) : String :=
  paint colors .red "Error:" ++ " " ++ failure.message ++ "\n"

/-- The dialogue's way to show something. -/
abbrev Say := String → Request Unit

/-- Open a project and remember it, if it can be opened. -/
def selectProject (colors : Bool) (say : Say) (analyzer : Analyzer) (session : Session)
    (path : String) : Request Session := do
  match ← attempt (analyzer.openProject path) with
  | .ok project =>
    say (paint colors .yellow "Java project path validated:" ++ " " ++ project.sourceDir ++ "\n")
    return ⟨some project⟩
  | .error failure =>
    say (failureLine colors failure)
    return session

/-- Show the outcome of an action on the project, if there is one. -/
def actOnProject {α : Type} (colors : Bool) (say : Say) (session : Session)
    (act : Project → Request α) (text : α → String) : Request Unit := do
  match session.project with
  | none => say (paint colors .red "Error: no project selected." ++ "\n")
  | some project =>
    match ← attempt (act project) with
    | .ok result => say (text result)
    | .error failure => say (failureLine colors failure)

/-- Carry out a choice other than quitting and selecting. -/
def carryOut (colors : Bool) (say : Say) (analyzer : Analyzer) (session : Session)
    (choice : Choice) : Request Unit := do
  match choice with
  | .showStatistics =>
    actOnProject colors say session
      (fun project => analyzer.statistics project analyzer.settings.metrics.options)
      (Report.statisticsText colors)
  | .drawGraph =>
    actOnProject colors say session analyzer.drawCallGraph (Report.graphSummary colors)
  | .unknown text =>
    warn s!"Unknown menu choice: {Text.quoted text}"
    say (paint colors .red "Error: please try again." ++ "\n")
  | .quit | .selectProject => pure ()

/-! ## The dialogue -/

/-- What the next line is. -/
inductive Prompt where
  | choice
  | projectPath
deriving DecidableEq, Repr

/-- A dialogue that waits for a line. -/
structure Dialogue where
  session : Session := {}
  prompt : Prompt := .choice
deriving DecidableEq, Repr

/-- What is shown before a line is read. -/
def Dialogue.promptText (colors : Bool) (dialogue : Dialogue) : String :=
  match dialogue.prompt with
  | .choice => menuText colors dialogue.session
  | .projectPath => "Enter the path of a Java project:\n"

/-- Go on with a line. The dialogue may end. -/
def Dialogue.answer (colors : Bool) (say : Say) (analyzer : Analyzer) (dialogue : Dialogue)
    (line : String) : Request (Option Dialogue) := do
  let session := dialogue.session
  match dialogue.prompt with
  | .projectPath => return some ⟨← selectProject colors say analyzer session line, .choice⟩
  | .choice =>
    match Choice.ofText line with
    | .quit =>
      say (paint colors .green "See you soon!" ++ "\n")
      return none
    | .selectProject => return some ⟨session, .projectPath⟩
    | choice =>
      carryOut colors say analyzer session choice
      return some ⟨session, .choice⟩

/-- The dialogue over the lines that are left, and the session at its end. -/
def Dialogue.run (colors : Bool) (say : Say) (analyzer : Analyzer) (dialogue : Dialogue) :
    List (List UInt8) → Request Session
  | [] => do
    say (dialogue.promptText colors)
    return dialogue.session
  | line :: rest => do
    say (dialogue.promptText colors)
    match ← dialogue.answer colors say analyzer (← readLine line) with
    | some next => next.run colors say analyzer rest
    | none => return dialogue.session

/-- The whole dialogue over an input. -/
def runMenu (colors : Bool) (say : Say) (analyzer : Analyzer) (input : List UInt8) :
    Request Session :=
  Dialogue.run colors say analyzer {} (splitLines input)

end JavaSurvey.Analysis
