import JavaSurvey.Config.Settings
import JavaSurvey.Files.Store

/-!
# Drawing call graphs

A renderer turns the description of a graph into an image. It is usually a program
that is started with the format, the description and the image as arguments. It can
fail to start or answer with a status that tells of a failure; either is reported
and neither is fatal.
-/

namespace JavaSurvey.Analysis

open Files (FileError Store)

/-- How a program ends: what it printed, and its exit status. -/
structure ProgramResult where
  printed : String
  status : Nat

/-- A program, as a function of its arguments. -/
abbrev Program := List String → ProgramResult

/-- A program that does nothing and succeeds. -/
def Program.succeed : Program := fun _ => ⟨"", 0⟩

/-- A program that does nothing and fails. -/
def Program.fail : Program := fun _ => ⟨"", 1⟩

/-- A program that prints its arguments. -/
def Program.echo : Program := fun arguments => ⟨" ".intercalate arguments ++ "\n", 0⟩

/-- The programs that can be started by name. -/
abbrev Programs := List (String × Program)

/-- Start a program. A name with a slash is the path of a file, and the files of a
store are not programs. -/
def Programs.start (programs : Programs) (files : Store) (name : String)
    (arguments : List String) : Except FileError ProgramResult :=
  if name.toList.contains '/' then do
    let _ ← files.find true name
    .error .permissionDenied
  else
    match programs.lookup name with
    | some program => .ok (program arguments)
    | none => .error .notFound

/-- How an attempt to draw ended: what was printed, and why there is no image. -/
structure Drawing where
  printed : String
  failure : Option String

/-- Something that draws the image of a described graph. -/
structure Renderer where
  name : String
  /-- Draw, given the files that exist, the description's path and the image's. -/
  draw : Store → String → String → Drawing
  /-- The files once it has drawn. -/
  filesAfter : Store → String → String → Store := fun files _ _ => files

/-- The path of a file from the root. -/
def absolutePath (files : Store) (path : String) : String :=
  Files.join files.currentPath path

/-- The renderer that starts a program. -/
def Renderer.ofProgram (programs : Programs) (name format : String) : Renderer where
  name := name
  draw := fun files dotPath imagePath =>
    match programs.start files name
        ["-T" ++ format, absolutePath files dotPath, "-o", imagePath] with
    | .error error => ⟨"", some s!"failed to run '{name}': {error.message}"⟩
    | .ok result =>
      if result.status = 0 then ⟨result.printed, none⟩
      else ⟨result.printed, some s!"'{name}' exited with exit status: {result.status}"⟩

end JavaSurvey.Analysis
