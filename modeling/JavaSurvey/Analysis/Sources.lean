import JavaSurvey.Analysis.World
import JavaSurvey.Config.Settings
import JavaSurvey.Files.Discovery

/-!
# Passes over source files

A pass analyses the source files below a directory one at a time, in the order of
their paths, and hands each to a consumer. A file that cannot be analysed ends the
pass, or is skipped with a warning if the settings say so. A consumer that fails
always ends the pass.
-/

namespace JavaSurvey.Analysis

open Config (ParsingSettings Settings)
open Syntax (SourceUnit)

/-- The analysed form of a source file. -/
def analyzeFile (parsing : ParsingSettings) (files : Files.Store) (path : String) :
    Except Failure SourceUnit := do
  let content ← (files.read path).mapError .file
  if parsing.maxFileSize < content.length then .error (.source (.tooLarge path))
  let text ← (Text.Utf8.decode content).mapError fun fault => .source (.notText path fault)
  (Java.parse path text).mapError fun fault => .source (.malformed fault)

/-- The source files below a directory. -/
def discover (marker : String) (files : Files.Store) (directory : String) :
    Except Failure (List String) :=
  (files.discover marker directory).mapError (.walk directory)

/-- What a pass over source files came to. -/
structure Summary where
  /-- The number of files that were analysed and consumed. -/
  parsed : Nat := 0
  /-- The files that were skipped. -/
  skipped : List String := []
deriving DecidableEq, Repr

/-- A consumer of analysed files, with a state of its own. -/
abbrev Consumer (σ : Type) := σ → SourceUnit → σ × Except Failure Unit

/-- Where a pass ended. -/
structure Pass (σ : Type) where
  /-- The state of the consumer. -/
  state : σ
  /-- The files that were skipped, and why. -/
  skips : List (String × Failure)
  outcome : Except Failure Summary

/-- Pass over files, given the analysis of each of them. -/
def passOver {σ : Type} (failFast : Bool) (analyze : String → Except Failure SourceUnit)
    (consume : Consumer σ) : List String → σ → Summary → Pass σ
  | [], state, summary => ⟨state, [], .ok summary⟩
  | path :: rest, state, summary =>
    match analyze path with
    | .error failure =>
      if failFast then ⟨state, [], .error failure⟩
      else
        let pass := passOver failFast analyze consume rest state
          { summary with skipped := summary.skipped ++ [path] }
        { pass with skips := (path, failure) :: pass.skips }
    | .ok unit =>
      match consume state unit with
      | (state, .error failure) => ⟨state, [], .error failure⟩
      | (state, .ok ()) =>
        passOver failFast analyze consume rest state { summary with parsed := summary.parsed + 1 }

/-- Pass over the source files below a directory. -/
def forEachUnit {σ : Type} (settings : Settings) (directory : String) (consume : Consumer σ)
    (state : σ) : StateM World (σ × Except Failure Summary) := do
  let files := (← get).files
  match discover settings.project.fileMarker files directory with
  | .error failure => return (state, .error failure)
  | .ok paths =>
    let pass := passOver settings.parsing.failFast (analyzeFile settings.parsing files) consume
      paths state {}
    for (path, failure) in pass.skips do
      note .warn s!"Skipping {path}: {failure.message}"
    return (pass.state, pass.outcome)

end JavaSurvey.Analysis
