import JavaSurvey.CommandLine.Parameter

/-!
# Scanning arguments

The arguments are taken one by one. `--name` and `-n` name parameters, letters can
be bundled, and a value is attached (`--name=value`, `-nvalue`, `-n=value`) or is
the next argument, unless that starts with a hyphen; a single hyphen is an ordinary
value. After `--` everything is positional.

A value that is not attached is bound only when the next parameter is begun or
the arguments end. Faults are therefore not always reported in the order in which
they stand: an unknown name wins over the value in front of it.
-/

namespace JavaSurvey.CommandLine

/-- What a level of the command line accepts. -/
structure Level where
  /-- The parameters that are given by name. -/
  named : List Parameter
  /-- The parameter that is given by its position. -/
  positional : Option Parameter := none
  /-- The words that lead to another level. -/
  subcommands : List String := []

/-- A parameter that is not bound yet. -/
structure Pending where
  parameter : Parameter
  /-- Its value, unless that is still to come. -/
  text : Option String

/-- What has been read of a level. -/
structure Progress where
  bindings : Bindings := []
  pending : Option Pending := none
  /-- Whether the positional parameter is given. -/
  positionalGiven : Bool := false
  /-- Whether `--` was read. -/
  trailing : Bool := false

/-- The bindings once what is pending is bound. -/
def Progress.settle (progress : Progress) : Except UsageError Bindings :=
  match progress.pending with
  | none => .ok progress.bindings
  | some ⟨_, none⟩ => .error .invalidValue
  | some ⟨parameter, some text⟩ => progress.bindings.bind parameter text

/-- Whether the next argument is the value of a named parameter. -/
def Progress.awaitsValue (progress : Progress) : Bool :=
  match progress.pending with
  | some ⟨_, none⟩ => true
  | _ => false

/-- Give a parameter that takes nothing, or one with its value attached. -/
def Progress.give (progress : Progress) (parameter : Parameter) (text : String) :
    Except UsageError Progress := do
  let bindings ← progress.settle
  match parameter.takes with
  | .helpRequest => .error .displayHelp
  | .versionRequest => .error .displayVersion
  | _ => .ok { progress with bindings := ← bindings.bind parameter text, pending := none }

/-- Begin a parameter whose value comes later. -/
def Progress.await (progress : Progress) (parameter : Parameter) : Except UsageError Progress := do
  .ok { progress with bindings := ← progress.settle, pending := some ⟨parameter, none⟩ }

/-- The part in front of the first equals sign and, if there is one, the part behind
it; `done` stands in front, in reverse. -/
def splitEquals (done : List Char) : List Char → String × Option String
  | [] => (String.ofList done.reverse, none)
  | '=' :: rest => (String.ofList done.reverse, some (String.ofList rest))
  | c :: rest => splitEquals (c :: done) rest

/-- Read an argument behind its two hyphens. -/
def Progress.readLong (level : Level) (progress : Progress) (body : List Char) :
    Except UsageError Progress :=
  let (name, attached) := splitEquals [] body
  match level.named.find? fun parameter => parameter.long == name, attached with
  | none, _ => .error .unknownArgument
  | some parameter, some text =>
    if parameter.takesValue then progress.give parameter text else .error .tooManyValues
  | some parameter, none =>
    if parameter.takesValue then progress.await parameter else progress.give parameter ""

/-- The value that is attached to a letter, if any. -/
def attachedValue? : List Char → Option String
  | [] => none
  | '=' :: rest => some (String.ofList rest)
  | rest => some (String.ofList rest)

/-- Read the letters of an argument behind its hyphen. -/
def Progress.readShort (level : Level) (progress : Progress) :
    List Char → Except UsageError Progress
  | [] => .ok progress
  | letter :: rest =>
    match level.named.find? fun parameter => parameter.short? == some letter with
    | none => .error .unknownArgument
    | some parameter =>
      if parameter.takesValue then
        match attachedValue? rest with
        | some text => progress.give parameter text
        | none => progress.await parameter
      else
        match progress.give parameter "" with
        | .ok progress => progress.readShort level rest
        | .error error => .error error

/-- Read a positional argument. -/
def Progress.readPositional (level : Level) (progress : Progress) (argument : String) :
    Except UsageError Progress :=
  match level.positional, progress.positionalGiven with
  | some parameter, false => do
    .ok
      { progress with
        bindings := ← progress.settle
        pending := some ⟨parameter, some argument⟩
        positionalGiven := true }
  | _, _ =>
    if level.subcommands.isEmpty || (progress.trailing && level.subcommands.contains argument) then
      .error .unknownArgument
    else .error .invalidSubcommand

/-- Read an argument that is no subcommand. -/
def Progress.read (level : Level) (progress : Progress) (argument : String) :
    Except UsageError Progress :=
  if progress.trailing then progress.readPositional level argument
  else
    match argument.toList with
    | ['-', '-'] => .ok { progress with trailing := true }
    | '-' :: '-' :: body => progress.readLong level body
    | '-' :: letter :: rest => progress.readShort level (letter :: rest)
    | _ =>
      match progress.pending with
      | some ⟨parameter, none⟩ =>
        .ok { progress with pending := some ⟨parameter, some argument⟩ }
      | _ => progress.readPositional level argument

/-- Whether an argument leads to another level. -/
def Progress.meetsSubcommand (level : Level) (progress : Progress) (argument : String) : Bool :=
  !progress.trailing && !progress.awaitsValue && level.subcommands.contains argument

/-- Scan the arguments of a level: what they say, and the subcommand they lead to
with the arguments that are left for it. -/
def scan (level : Level) (progress : Progress) :
    List String → Except UsageError (Progress × Option (String × List String))
  | [] => .ok (progress, none)
  | argument :: rest =>
    if progress.meetsSubcommand level argument then .ok (progress, some (argument, rest))
    else
      match progress.read level argument with
      | .ok progress => scan level progress rest
      | .error error => .error error

end JavaSurvey.CommandLine
