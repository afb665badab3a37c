import JavaSurvey.CommandLine.Help
import JavaSurvey.Disk
import JavaSurvey.Report.Instant
import Std.Time.DateTime.Timestamp

/-!
# The program

The command line is read, the part of the disk that the command can reach is copied,
the command is carried out on the copy, and its effects are brought to the outside:
files to the disk, texts to the output, the log to the error output. No program is
started, so that a call graph is described and its image is not drawn.
-/

namespace JavaSurvey

open Analysis (Analyzer Dialogue LogEntry World)
open CommandLine (Surroundings)

/-- The time now. -/
def currentTime : IO Report.Instant := do
  let now := (← Std.Time.Timestamp.now).val
  return ⟨now.second.val.toNat, now.nano.val.toNat⟩

/-- Whether texts are coloured: where a terminal shows them, unless the user asks
otherwise. -/
def wantsColors : IO Bool := do
  let forced ← IO.getEnv "CLICOLOR_FORCE"
  if forced.any (· != "0") then return true
  if (← IO.getEnv "NO_COLOR").isSome then return false
  if (← IO.getEnv "CLICOLOR") == some "0" then return false
  (← IO.getStdout).isTty

/-- Write an entry of the log. -/
def writeLog (entry : LogEntry) : IO Unit := do
  let level := match entry.level with
    | .info => " INFO"
    | .warn => " WARN"
  IO.eprintln s!"{(← currentTime).text} {level} {entry.message}"

/-- Carry out a request on a copy of what it can reach, and bring its effects to the
outside. -/
def carryOut {α : Type} (reach : CommandLine.Reach) (request : Analysis.Request α) :
    IO (Except Analysis.Failure α) := do
  let store ← Disk.copyReach reach
  let (outcome, world) := (ExceptT.run request).run ({ files := store } : World)
  world.log.forM writeLog
  Disk.save store world.files
  IO.print world.printed
  (← IO.getStdout).flush
  return outcome

/-- Read bytes up to the end of a line, in reverse. -/
partial def readBytes (stream : IO.FS.Stream) (line : List UInt8) : IO (List UInt8) := do
  match (← stream.read 1).toList with
  | [] => return line
  | byte :: _ => if byte == 10 then return byte :: line else readBytes stream (byte :: line)

/-- Talk to the user until the dialogue or the input ends. -/
partial def converse (colors : Bool) (analyzer : Analyzer) (dialogue : Dialogue) :
    IO (Except Analysis.Failure Unit) := do
  IO.print (dialogue.promptText colors)
  (← IO.getStdout).flush
  let line := (← readBytes (← IO.getStdin) []).reverse
  if line.isEmpty then return .ok ()
  match ← carryOut {} (Analysis.readLine line) with
  | .error failure => return .error failure
  | .ok text =>
    match ← carryOut (CommandLine.dialogueReach analyzer.settings dialogue text)
        (dialogue.answer colors Analysis.print analyzer text) with
    | .error failure => return .error failure
    | .ok none => return .ok ()
    | .ok (some next) => converse colors analyzer next

/-- Carry out a request of the command line. -/
def perform (request : CommandLine.Request) : IO (Except Analysis.Failure Unit) := do
  let colors ← wantsColors
  let files ← Disk.copyReach request.settingsReach
  match Analysis.findSettings files request.config with
  | .error failure => return .error failure
  | .ok settings =>
    let analyzer : Analyzer := .ofSettings [] settings
    match request.command with
    | .menu => converse colors analyzer {}
    | command =>
      let surroundings : Surroundings := { colors := colors, now := (← currentTime).text }
      carryOut (command.reach settings) (CommandLine.execute surroundings analyzer command)

end JavaSurvey

/-- The program. It ends with status 1 when the command fails, and with status 2 when the
command line names none. -/
def main (arguments : List String) : IO UInt32 := do
  match JavaSurvey.CommandLine.read arguments with
  | .error error =>
    let answer := error.answer
    if answer.status = 0 then IO.print answer.text else IO.eprint answer.text
    return answer.status.toUInt32
  | .ok request =>
    JavaSurvey.writeLog ⟨.info, "Starting Javascope v" ++ JavaSurvey.CommandLine.version⟩
    match ← JavaSurvey.perform request with
    | .ok () => return 0
    | .error failure =>
      IO.eprintln s!"Error: {failure.message}"
      return 1
