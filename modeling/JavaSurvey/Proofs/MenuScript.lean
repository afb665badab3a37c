import JavaSurvey.Analysis.Menu
import Mathlib.Data.List.Basic

/-!
# The script of a dialogue

The lines that a user types are a script: turns, and the way the dialogue ends.
A turn is a choice, or the choice of a project together with the path on the
line behind it. Which turns there are depends on the lines alone, and on none
behind the choice to quit. The dialogue plays its script: it shows a menu, plays
a turn, shows the menu again, and so on to the end.

## Main results

* `Script.length_turns_read_le`: there are no more turns than lines.
* `Script.read_append`: lines that are whole turns are read on their own.
* `Dialogue.run_eq_play`: a dialogue plays the script in its lines, whichever
  way it shows things.
-/

namespace JavaSurvey.Analysis

open Report (paint)

/-! ## Scripts -/

/-- What a menu is answered with. -/
inductive Turn where
  | select (path : String)
  | act (choice : Choice)
deriving DecidableEq, Repr

/-- How a dialogue comes to its end, and what the last line was asked for. -/
inductive Ending where
  | quit
  /-- No line is left. -/
  | outOfLines (prompt : Prompt)
  /-- The line is no text. -/
  | notText (prompt : Prompt) (fault : Text.Utf8.Fault)

/-- Turns, and the end behind them. -/
structure Script where
  turns : List Turn
  ending : Ending

/-- Turns in front of a script. -/
def Script.behind (turns : List Turn) (script : Script) : Script :=
  ⟨turns ++ script.turns, script.ending⟩

/-- The script in lines of which the first is asked for by `prompt`. Nothing
behind the choice to quit is part of it. -/
def Script.read : Prompt → List (List UInt8) → Script
  | prompt, [] => ⟨[], .outOfLines prompt⟩
  | prompt, line :: rest =>
    match Text.Utf8.decode line with
    | .error fault => ⟨[], .notText prompt fault⟩
    | .ok text =>
      match prompt with
      | .projectPath => (Script.read .choice rest).behind [.select (Text.trim text)]
      | .choice =>
        match Choice.ofText (Text.trim text) with
        | .quit => ⟨[], .quit⟩
        | .selectProject => Script.read .projectPath rest
        | choice => (Script.read .choice rest).behind [.act choice]

/-- Lines that are whole turns: a line behind them is a choice. -/
def WholeTurns (lines : List (List UInt8)) : Prop :=
  (Script.read .choice lines).ending = .outOfLines .choice

section Reading

variable {line : List UInt8} {text : String} {fault : Text.Utf8.Fault}
  (rest : List (List UInt8))

theorem Script.read_notText (prompt : Prompt)
    (hline : Text.Utf8.decode line = .error fault) :
    Script.read prompt (line :: rest) = ⟨[], .notText prompt fault⟩ := by
  simp only [Script.read, hline]

theorem Script.read_path (hline : Text.Utf8.decode line = .ok text) :
    Script.read .projectPath (line :: rest) =
      (Script.read .choice rest).behind [.select (Text.trim text)] := by
  simp only [Script.read, hline]

theorem Script.read_quit (hline : Text.Utf8.decode line = .ok text)
    (hchoice : Choice.ofText (Text.trim text) = .quit) :
    Script.read .choice (line :: rest) = ⟨[], .quit⟩ := by
  simp only [Script.read, hline, hchoice]

theorem Script.read_selectProject (hline : Text.Utf8.decode line = .ok text)
    (hchoice : Choice.ofText (Text.trim text) = .selectProject) :
    Script.read .choice (line :: rest) = Script.read .projectPath rest := by
  simp only [Script.read, hline, hchoice]

theorem Script.read_act {choice : Choice}
    (hline : Text.Utf8.decode line = .ok text)
    (hchoice : Choice.ofText (Text.trim text) = choice)
    (hquit : choice ≠ .quit) (hselect : choice ≠ .selectProject) :
    Script.read .choice (line :: rest) =
      (Script.read .choice rest).behind [.act choice] := by
  cases choice with
  | quit => exact absurd rfl hquit
  | selectProject => exact absurd rfl hselect
  | showStatistics => simp only [Script.read, hline, hchoice]
  | drawGraph => simp only [Script.read, hline, hchoice]
  | unknown text => simp only [Script.read, hline, hchoice]

/-- One turn takes a line at least. -/
theorem Script.length_turns_read_le (prompt : Prompt) (lines : List (List UInt8)) :
    (Script.read prompt lines).turns.length ≤ lines.length := by
  induction lines generalizing prompt with
  | nil => exact Nat.le_refl 0
  | cons line rest ih =>
      have hchoice := ih .choice
      have hpath := ih .projectPath
      simp only [Script.read, List.length_cons]
      split
      · exact Nat.zero_le _
      · split
        · simp only [Script.behind, List.length_append, List.length_singleton]
          omega
        · split
          · exact Nat.zero_le _
          · omega
          · simp only [Script.behind, List.length_append, List.length_singleton]
            omega

/-- Lines that end where a choice is asked for are read on their own, whatever
comes behind them. -/
theorem Script.read_append (prompt : Prompt) (before after : List (List UInt8))
    (hbefore : (Script.read prompt before).ending = .outOfLines .choice) :
    Script.read prompt (before ++ after) =
      (Script.read .choice after).behind (Script.read prompt before).turns := by
  induction before generalizing prompt with
  | nil =>
      have hprompt : prompt = .choice := by
        simpa only [Script.read, Ending.outOfLines.injEq] using hbefore
      subst hprompt
      rfl
  | cons line rest ih =>
      cases hline : Text.Utf8.decode line with
      | error fault =>
          rw [Script.read_notText rest prompt hline] at hbefore
          exact absurd hbefore (by simp)
      | ok text =>
          cases prompt with
          | projectPath =>
              rw [Script.read_path rest hline] at hbefore ⊢
              rw [List.cons_append, Script.read_path (rest ++ after) hline, ih .choice hbefore]
              rfl
          | choice =>
              by_cases hquit : Choice.ofText (Text.trim text) = .quit
              · rw [Script.read_quit rest hline hquit] at hbefore
                exact absurd hbefore (by simp)
              · by_cases hselect : Choice.ofText (Text.trim text) = .selectProject
                · rw [Script.read_selectProject rest hline hselect] at hbefore ⊢
                  rw [List.cons_append,
                    Script.read_selectProject (rest ++ after) hline hselect,
                    ih .projectPath hbefore]
                · rw [Script.read_act rest hline rfl hquit hselect] at hbefore ⊢
                  rw [List.cons_append,
                    Script.read_act (rest ++ after) hline rfl hquit hselect,
                    ih .choice hbefore]
                  rfl

end Reading

/-! ## A dialogue plays its script -/

section Playing

variable (colors : Bool) (say : Say) (analyzer : Analyzer)

/-- Play a turn. -/
def Turn.play (session : Session) : Turn → Request Session
  | .select path => do
    say (Dialogue.promptText colors ⟨session, .projectPath⟩)
    selectProject colors say analyzer session path
  | .act choice => do
    carryOut colors say analyzer session choice
    return session

/-- Play the end. The menu has been shown, but a path has not been asked for. -/
def Ending.play (session : Session) : Ending → Request Session
  | .quit => do
    say (paint colors .green "See you soon!" ++ "\n")
    return session
  | .outOfLines .choice => return session
  | .outOfLines .projectPath => do
    say (Dialogue.promptText colors ⟨session, .projectPath⟩)
    return session
  | .notText .choice fault => throw (.input fault)
  | .notText .projectPath fault => do
    say (Dialogue.promptText colors ⟨session, .projectPath⟩)
    throw (.input fault)

/-- Play turns behind a menu, with a menu behind each of them, and then the
end. -/
def Ending.playBehind (ending : Ending) (session : Session) :
    List Turn → Request Session
  | [] => ending.play colors say session
  | turn :: rest => do
    let next ← turn.play colors say analyzer session
    say (menuText colors next)
    ending.playBehind next rest

/-- Play a script behind a menu. -/
def Script.play (session : Session) (script : Script) : Request Session :=
  script.ending.playBehind colors say analyzer session script.turns

theorem Script.play_behind (session : Session) (turn : Turn) (script : Script) :
    (script.behind [turn]).play colors say analyzer session = (do
      let next ← turn.play colors say analyzer session
      say (menuText colors next)
      script.play colors say analyzer next) :=
  rfl

variable {colors say analyzer}

theorem readLine_of_ok {line : List UInt8} {text : String}
    (hline : Text.Utf8.decode line = .ok text) :
    readLine line = pure (Text.trim text) := by
  simp only [readLine, hline]

theorem readLine_of_error {line : List UInt8} {fault : Text.Utf8.Fault}
    (hline : Text.Utf8.decode line = .error fault) :
    readLine line = throw (.input fault) := by
  simp only [readLine, hline]

/-- A dialogue plays the script in its lines. The induction is on the lines, for
both prompts at once: only a dialogue that waits for a choice starts with a
menu. -/
theorem Dialogue.run_eq_play (session : Session) (lines : List (List UInt8)) :
    Dialogue.run colors say analyzer ⟨session, .choice⟩ lines = (do
      say (menuText colors session)
      (Script.read .choice lines).play colors say analyzer session) ∧
    Dialogue.run colors say analyzer ⟨session, .projectPath⟩ lines =
      (Script.read .projectPath lines).play colors say analyzer session := by
  induction lines generalizing session with
  | nil => exact ⟨rfl, rfl⟩
  | cons line rest ih =>
      cases hline : Text.Utf8.decode line with
      | error fault =>
          simp only [Dialogue.run, readLine_of_error hline, Script.read_notText rest _ hline]
          constructor <;> rfl
      | ok text =>
          constructor
          · by_cases hquit : Choice.ofText (Text.trim text) = .quit
            · simp only [Dialogue.run, readLine_of_ok hline, pure_bind, Dialogue.answer,
                hquit, Script.read_quit rest hline hquit, bind_assoc]
              rfl
            · by_cases hselect : Choice.ofText (Text.trim text) = .selectProject
              · simp only [Dialogue.run, readLine_of_ok hline, pure_bind, Dialogue.answer,
                  hselect, Script.read_selectProject rest hline hselect, (ih _).2]
                rfl
              · rw [Script.read_act rest hline rfl hquit hselect, Script.play_behind]
                simp only [Dialogue.run, readLine_of_ok hline, pure_bind, Dialogue.answer,
                  bind_assoc, (ih _).1, Turn.play]
                rfl
          · rw [Script.read_path rest hline, Script.play_behind]
            simp only [Dialogue.run, readLine_of_ok hline, pure_bind, Dialogue.answer,
              bind_assoc, (ih _).1, Turn.play]

end Playing

end JavaSurvey.Analysis
