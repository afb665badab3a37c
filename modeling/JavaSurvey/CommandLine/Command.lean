import JavaSurvey.CommandLine.Scan

/-!
# Commands

What a user can ask for on the command line, and how a row of arguments is read as
such a request.
-/

namespace JavaSurvey.CommandLine

/-- What is asked for. -/
inductive Command where
  /-- Write a configuration file. -/
  | init (path : Option String) (force : Bool)
  /-- Show the statistics of a project. -/
  | stats (project : String) (percent : Option Float) (threshold : Option Nat) (json : Bool)
  /-- Draw the call graph of a project. -/
  | graph (project : String)
  /-- Talk to the user. -/
  | menu

/-- A request with the options that all commands share. -/
structure Request where
  config : Option String
  verbose : Bool
  command : Command

/-- The level in front of the subcommand. -/
def rootLevel : Level where
  named := [.config, .verbose, .help, .version]
  subcommands := ["init", "stats", "graph", "menu", "help"]

/-- The arguments of `init`. -/
def initLevel : Level where
  named := [.path, .force, .help]

/-- The arguments of `stats`. -/
def statsLevel : Level where
  named := [.percent, .threshold, .json, .help]
  positional := some .project

/-- The arguments of `graph`. -/
def graphLevel : Level where
  named := [.help]
  positional := some .project

/-- The arguments of `menu`. -/
def menuLevel : Level where
  named := [.help]

/-- The bindings of a level without subcommands. -/
def scanAll (level : Level) (arguments : List String) : Except UsageError Bindings := do
  let (progress, _) ← scan level {} arguments
  progress.settle

/-- The project, which must be given. -/
def requireProject (bindings : Bindings) : Except UsageError String :=
  (bindings.path? .project).elim (.error .missingRequiredArgument) .ok

/-- The answer to a request for help on subcommands. -/
def helpOn : List String → UsageError
  | [] => .displayHelp
  | [subcommand] =>
    if rootLevel.subcommands.contains subcommand then .displayHelp else .invalidSubcommand
  | _ => .invalidSubcommand

/-- The command that a subcommand and its arguments ask for. -/
def readCommand (subcommand : String) (arguments : List String) : Except UsageError Command := do
  match subcommand with
  | "init" =>
    let bindings ← scanAll initLevel arguments
    .ok (.init (bindings.path? .path) (bindings.has .force))
  | "stats" =>
    let bindings ← scanAll statsLevel arguments
    let project ← requireProject bindings
    .ok (.stats project (bindings.double? .percent) (bindings.natural? .threshold)
      (bindings.has .json))
  | "graph" =>
    let bindings ← scanAll graphLevel arguments
    .ok (.graph (← requireProject bindings))
  | "menu" =>
    let _ ← scanAll menuLevel arguments
    .ok .menu
  | _ => .error (helpOn arguments)

/-- The request that arguments make. The subcommand is read before the options in
front of it are complete, so its faults are reported first. -/
def read (arguments : List String) : Except UsageError Request := do
  match ← scan rootLevel {} arguments with
  | (progress, none) =>
    let bindings ← progress.settle
    .error (if bindings.isEmpty then .missingArgumentOrSubcommand else .missingSubcommand)
  | (progress, some (subcommand, rest)) =>
    let command ← readCommand subcommand rest
    let bindings ← progress.settle
    .ok ⟨bindings.path? .config, bindings.has .verbose, command⟩

end JavaSurvey.CommandLine
