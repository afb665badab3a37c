import JavaSurvey.Files.Store
import JavaSurvey.Java.Lowering
import JavaSurvey.Metrics.Statistics
import JavaSurvey.Text.Utf8

/-!
# Failures

Everything that can keep an analysis from its result, and how it is told to the
user.
-/

namespace JavaSurvey.Analysis

open Files (FileError)

/-- Why a source file cannot be analysed. -/
inductive SourceFault where
  | tooLarge (path : String)
  | notText (path : String) (fault : Text.Utf8.Fault)
  | malformed (fault : Java.Malformed)

/-- The wording of a fault. -/
def SourceFault.message : SourceFault → String
  | .tooLarge path => s!"File {path} exceeds maximum size limit"
  | .notText path fault => s!"File {path} is not valid UTF-8: {fault.message}"
  | .malformed fault => fault.message

/-- Why a request fails. -/
inductive Failure where
  /-- Settings cannot be read, or cannot be written. -/
  | config
  | source (fault : SourceFault)
  | file (error : FileError)
  /-- A directory cannot be walked. -/
  | walk (path : String) (error : FileError)
  | invalidProject (root sourceSubdir : String)
  | graph (reason : String)
  | metrics (error : Metrics.MetricsError)
  | render (reason : String)
  /-- The user's input is no text. -/
  | input (fault : Text.Utf8.Fault)

/-- The wording of a failure. -/
def Failure.message : Failure → String
  | .config => "Configuration error: invalid settings"
  | .source fault => "Parser error: " ++ fault.message
  | .file error => "IO error: " ++ error.message
  | .walk path error => s!"File system error: IO error for operation on {path}: {error.message}"
  | .invalidProject root sourceSubdir =>
    s!"Invalid project: {root} is not a Java project ('{sourceSubdir}' directory not found)"
  | .graph reason => "Call graph error: " ++ reason
  | .metrics error => error.message
  | .render reason => "Render error: " ++ reason
  | .input fault => fault.message

end JavaSurvey.Analysis
