import JavaSurvey.CommandLine.Parameter

/-!
# Help

What the program says about itself, and what it answers to a command line that names
no command.
-/

namespace JavaSurvey.CommandLine

/-- The version of the program. -/
def version : String := "0.1.0"

/-- The name and the version of the program. -/
def versionText : String := "javascope " ++ version ++ "\n"

/-- How the program is used. -/
def helpText : String :=
  "Structural metrics and call graphs for Java projects\n\n"
    ++ "Usage: javascope [OPTIONS] <COMMAND>\n\n"
    ++ "Commands:\n"
    ++ "  init [-p <PATH>] [--force]\n"
    ++ "         Write a default configuration file\n"
    ++ "  stats <PROJECT> [--percent <PERCENT>] [--threshold <THRESHOLD>] [--json]\n"
    ++ "         Show structural statistics of a project\n"
    ++ "  graph <PROJECT>\n"
    ++ "         Generate the call graph description and image of a project\n"
    ++ "  menu   Interactive numbered menu\n"
    ++ "  help   Print this message\n\n"
    ++ "Options:\n"
    ++ "  -c, --config <CONFIG>  Path to configuration file\n"
    ++ "  -v, --verbose          Enable verbose logging\n"
    ++ "  -h, --help             Print help\n"
    ++ "  -V, --version          Print version\n"

/-- What is wrong with a command line, if anything is. -/
def UsageError.reason? : UsageError → Option String
  | .displayHelp => none
  | .displayVersion => none
  | .missingArgumentOrSubcommand => none
  | .missingSubcommand => some "a subcommand is required"
  | .invalidSubcommand => some "there is no such subcommand"
  | .missingRequiredArgument => some "a required argument was not given"
  | .unknownArgument => some "there is an argument that is not expected"
  | .invalidValue => some "an option has no value"
  | .valueValidation => some "a value is no number of the kind that is expected"
  | .argumentConflict => some "an argument is given more than once"
  | .tooManyValues => some "a flag takes no value"

/-- What the program answers to a command line that names no command, and the status
that it ends with. -/
structure UsageAnswer where
  text : String
  status : Nat
deriving DecidableEq, Repr

/-- The answer to a command line that names no command. Only who asks for help or for
the version is right to do so. -/
def UsageError.answer (error : UsageError) : UsageAnswer :=
  match error with
  | .displayHelp => ⟨helpText, 0⟩
  | .displayVersion => ⟨versionText, 0⟩
  | error =>
    match error.reason? with
    | some reason => ⟨s!"error: {reason}\n\nFor more information, try '--help'.\n", 2⟩
    | none => ⟨helpText, 2⟩

end JavaSurvey.CommandLine
