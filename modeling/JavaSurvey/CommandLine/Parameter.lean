import JavaSurvey.Decimal.Reader

/-!
# Parameters of commands

The named parameters of the command line, what they take, and the values they are
bound to. A parameter may be bound once. Texts are turned into values when they are
bound, and a text that is no value of the parameter's type is refused.
-/

namespace JavaSurvey.CommandLine

open Text (digitsValue maxNatural)

/-- Why a command line does not name a command. Requests for help and for the
version are among the reasons. -/
inductive UsageError where
  | displayHelp
  | displayVersion
  /-- Nothing was given at all. -/
  | missingArgumentOrSubcommand
  | missingSubcommand
  | invalidSubcommand
  | missingRequiredArgument
  | unknownArgument
  | invalidValue
  | valueValidation
  | argumentConflict
  | tooManyValues
deriving DecidableEq, Repr

/-- The parameters of all commands. -/
inductive Parameter where
  | config
  | verbose
  | help
  | version
  | path
  | force
  | project
  | percent
  | threshold
  | json
deriving DecidableEq, Repr

/-- What a parameter takes. -/
inductive Takes where
  | nothing
  /-- Nothing, because the answer is help. -/
  | helpRequest
  /-- Nothing, because the answer is the version. -/
  | versionRequest
  | filePath
  | double
  | natural
deriving DecidableEq, Repr

/-- The name behind two hyphens. -/
def Parameter.long : Parameter → String
  | .config => "config"
  | .verbose => "verbose"
  | .help => "help"
  | .version => "version"
  | .path => "path"
  | .force => "force"
  | .project => "project"
  | .percent => "percent"
  | .threshold => "threshold"
  | .json => "json"

/-- The letter behind one hyphen. -/
def Parameter.short? : Parameter → Option Char
  | .config => some 'c'
  | .verbose => some 'v'
  | .help => some 'h'
  | .version => some 'V'
  | .path => some 'p'
  | .force | .project | .percent | .threshold | .json => none

/-- What a parameter takes. -/
def Parameter.takes : Parameter → Takes
  | .verbose | .force | .json => .nothing
  | .help => .helpRequest
  | .version => .versionRequest
  | .config | .path | .project => .filePath
  | .percent => .double
  | .threshold => .natural

/-- Whether a parameter takes a value. -/
def Parameter.takesValue (parameter : Parameter) : Bool :=
  match parameter.takes with
  | .nothing | .helpRequest | .versionRequest => false
  | .filePath | .double | .natural => true

/-- What a parameter is bound to. -/
inductive Bound where
  | present
  | filePath (path : String)
  | double (x : Float)
  | natural (n : Nat)

/-- The natural number that a text stands for: digits, with a plus sign if need be. -/
def natural? (text : String) : Option Nat :=
  let digits :=
    match text.toList with
    | '+' :: rest => rest
    | chars => chars
  if digits.isEmpty || !digits.all Char.isDigit then none
  else
    let n := digitsValue digits
    if n ≤ maxNatural then some n else none

/-- The value that a text is for a parameter. -/
def Parameter.value (parameter : Parameter) (text : String) : Except UsageError Bound :=
  match parameter.takes with
  | .nothing | .helpRequest | .versionRequest => .ok .present
  | .filePath => if text.isEmpty then .error .invalidValue else .ok (.filePath text)
  | .double => ((Decimal.read? text).map Bound.double).elim (.error .valueValidation) .ok
  | .natural => ((natural? text).map Bound.natural).elim (.error .valueValidation) .ok

/-! ## Bindings -/

/-- What the parameters are bound to, in the order in which they were given. -/
abbrev Bindings := List (Parameter × Bound)

/-- What a parameter is bound to. -/
def Bindings.get? (bindings : Bindings) (parameter : Parameter) : Option Bound :=
  bindings.lookup parameter

/-- Whether a parameter is bound. -/
def Bindings.has (bindings : Bindings) (parameter : Parameter) : Bool :=
  (bindings.get? parameter).isSome

/-- The path that a parameter is bound to. -/
def Bindings.path? (bindings : Bindings) (parameter : Parameter) : Option String :=
  match bindings.get? parameter with
  | some (.filePath path) => some path
  | _ => none

/-- The double that a parameter is bound to. -/
def Bindings.double? (bindings : Bindings) (parameter : Parameter) : Option Float :=
  match bindings.get? parameter with
  | some (.double x) => some x
  | _ => none

/-- The natural number that a parameter is bound to. -/
def Bindings.natural? (bindings : Bindings) (parameter : Parameter) : Option Nat :=
  match bindings.get? parameter with
  | some (.natural n) => some n
  | _ => none

/-- Bind a parameter to the value that a text is. -/
def Bindings.bind (bindings : Bindings) (parameter : Parameter) (text : String) :
    Except UsageError Bindings := do
  if bindings.has parameter then .error .argumentConflict
  .ok (bindings ++ [(parameter, ← parameter.value text)])

end JavaSurvey.CommandLine
