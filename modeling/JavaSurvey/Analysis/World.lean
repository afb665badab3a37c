import JavaSurvey.Analysis.Failure

/-!
# Requests and their effects

A request reads and changes the store of files, prints, and keeps a log. It either
ends with a result or fails; what it did before it failed stays done.
-/

namespace JavaSurvey.Analysis

/-- How important a log entry is. -/
inductive Level where
  | info
  | warn
deriving DecidableEq, Repr

/-- An entry of the log. -/
structure LogEntry where
  level : Level
  message : String
deriving DecidableEq, Repr

/-- What requests see and change. -/
structure World where
  files : Files.Store
  /-- What was printed. -/
  printed : String := ""
  /-- What was shown to the user on another channel. -/
  shown : String := ""
  log : List LogEntry := []

/-- A request. -/
abbrev Request := ExceptT Failure (StateM World)

/-- Add an entry to the log. -/
def note (level : Level) (message : String) : StateM World Unit :=
  modify fun world => { world with log := world.log ++ [⟨level, message⟩] }

/-- Log what happens. -/
def info (message : String) : Request Unit :=
  note .info message

/-- Log what the user should look at. -/
def warn (message : String) : Request Unit :=
  note .warn message

/-- Print a text. -/
def print (text : String) : Request Unit :=
  modify fun world => { world with printed := world.printed ++ text }

/-- Show a text to the user without printing it. -/
def display (text : String) : Request Unit :=
  modify fun world => { world with shown := world.shown ++ text }

/-- The outcome of a request, as a result that cannot fail. -/
def attempt {α : Type} (request : Request α) : Request (Except Failure α) :=
  ExceptT.lift (ExceptT.run request)

/-- The store of files. -/
def currentFiles : Request Files.Store := do
  return (← get).files

/-- Replace the store of files. -/
def setFiles (files : Files.Store) : Request Unit :=
  modify fun world => { world with files := files }

/-- The outcome of an operation on files. -/
def fromFiles {α : Type} (outcome : Except Files.FileError α) : Request α :=
  match outcome with
  | .ok value => pure value
  | .error error => throw (.file error)

/-- Create a directory and those above it that are missing. -/
def createDirectories (path : String) : Request Unit := do
  let (files, outcome) := (← currentFiles).createDirectories path
  setFiles files
  fromFiles outcome

/-- Write a text to a file. -/
def writeText (path text : String) : Request Unit := do
  setFiles (← fromFiles ((← currentFiles).write path (Text.Utf8.encode text)))

/-- The text in a file. -/
def readText (files : Files.Store) (path : String) : Except Files.FileError String := do
  match Text.Utf8.decode (← files.read path) with
  | .ok text => .ok text
  | .error _ => .error .notText

end JavaSurvey.Analysis
