import JavaSurvey.CommandLine.Command
import JavaSurvey.Proofs.Collections
import JavaSurvey.Proofs.Numerals
import Mathlib.Data.List.Perm.Basic

/-!
# Commands in words

A command is worded as a row of arguments: the options that all commands share, the
name of the command, and its own options and project. On either side of the name
they may stand in any order. Values are attached to their options by an equals
sign, so they can be any text, with equals signs, blanks or hyphens in it.

Arguments are taken one at a time. After each of them, what is read so far binds
one parameter more, in the order of the arguments; only the project is not bound
before the next argument or the end. Since every parameter is bound once, the order
does not matter for what is found in the end.

## Main results

* `Scanned.read`: one argument more.
* `Scanned.scan`: a row of arguments.
* `read_arguments`: every wording is read as its command.
-/

namespace JavaSurvey.CommandLine

/-! ## Names -/

theorem Parameter.long_injective {first second : Parameter} (h : first.long = second.long) :
    first = second := by
  revert h
  cases first <;> cases second <;> decide

/-- A parameter is found by its name. -/
theorem find?_long {named : List Parameter} {parameter : Parameter} (h : parameter ∈ named) :
    (named.find? fun other => other.long == parameter.long) = some parameter := by
  cases hfound : named.find? fun other => other.long == parameter.long with
  | none =>
      have hnone := List.find?_eq_none.1 hfound parameter h
      exact absurd (beq_self_eq_true parameter.long) hnone
  | some found =>
      have hlong := List.find?_some hfound
      rw [beq_iff_eq] at hlong
      rw [Parameter.long_injective hlong]

theorem splitEquals_of_not_mem {name : List Char} (h : '=' ∉ name) (done : List Char) :
    splitEquals done name = (String.ofList (done.reverse ++ name), none) := by
  induction name generalizing done with
  | nil => rw [splitEquals, List.append_nil]
  | cons c name ih =>
      rw [List.mem_cons, not_or] at h
      rw [splitEquals, ih h.2, List.reverse_cons, List.append_assoc]
      · rfl
      · exact fun heq => h.1 heq.symm

/-- A text is split at its first equals sign. -/
theorem splitEquals_append {name : List Char} (h : '=' ∉ name) (done value : List Char) :
    splitEquals done (name ++ '=' :: value) =
      (String.ofList (done.reverse ++ name), some (String.ofList value)) := by
  induction name generalizing done with
  | nil => rw [List.nil_append, splitEquals, List.append_nil]
  | cons c name ih =>
      rw [List.mem_cons, not_or] at h
      rw [List.cons_append, splitEquals, ih h.2, List.reverse_cons, List.append_assoc]
      · rfl
      · exact fun heq => h.1 heq.symm

theorem Parameter.equals_not_mem_long (parameter : Parameter) :
    '=' ∉ parameter.long.toList := by
  cases parameter <;> decide

/-! ## Arguments -/

/-- An argument gives a parameter of a level its value: by its name, by its name with
the value attached, or as the positional argument. -/
inductive Spells (level : Level) : Parameter × Bound → String → Prop where
  | flag {parameter : Parameter} (hnamed : parameter ∈ level.named)
      (htakes : parameter.takes = .nothing) :
      Spells level (parameter, .present) ("--" ++ parameter.long)
  | valued {parameter : Parameter} {bound : Bound} {text : String}
      (hnamed : parameter ∈ level.named) (htakes : parameter.takesValue = true)
      (hvalue : parameter.value text = .ok bound) :
      Spells level (parameter, bound) ("--" ++ parameter.long ++ "=" ++ text)
  | positional {parameter : Parameter} {bound : Bound} {text : String}
      (hpositional : level.positional = some parameter)
      (hvalue : parameter.value text = .ok bound) (hhyphen : text.toList.head? ≠ some '-') :
      Spells level (parameter, bound) text

theorem bind_of_new {bindings : Bindings} {parameter : Parameter} {text : String} {bound : Bound}
    (hnew : parameter ∉ bindings.map Prod.fst) (hvalue : parameter.value text = .ok bound) :
    bindings.bind parameter text = .ok (bindings ++ [(parameter, bound)]) := by
  have hunbound : bindings.has parameter = false := by
    have hnone : bindings.lookup parameter = none := by
      rw [List.lookup_eq_none_iff]
      intro entry hentry
      have hne : parameter ≠ entry.1 := by
        rintro rfl
        exact hnew (List.mem_map_of_mem hentry)
      simpa using hne
    rw [Bindings.has, Bindings.get?, hnone]
    rfl
  simp only [Bindings.bind, hunbound, hvalue]
  rfl

/-! ## Reading one argument -/

/-- What arguments have given so far is bound, or will be bound next. -/
structure Scanned (level : Level) (progress : Progress) (done : Bindings) : Prop where
  settle : progress.settle = .ok done
  trailing : progress.trailing = false
  awaitsValue : progress.awaitsValue = false
  positional : progress.positionalGiven = true →
    ∃ parameter, level.positional = some parameter ∧ parameter ∈ done.map Prod.fst

theorem scanned_start (level : Level) : Scanned level {} [] :=
  ⟨rfl, rfl, rfl, fun h => absurd h Bool.false_ne_true⟩

section Reading

variable {level : Level} {progress : Progress} {done : Bindings} {parameter : Parameter}
  {bound : Bound} {text argument : String}

/-- A parameter that takes nothing, or has its value attached, is bound at once. -/
theorem Scanned.give (h : Scanned level progress done) (hnew : parameter ∉ done.map Prod.fst)
    (htakes : parameter.takes = .nothing ∨ parameter.takesValue = true)
    (hvalue : parameter.value text = .ok bound) :
    ∃ next, progress.give parameter text = .ok next ∧
      Scanned level next (done ++ [(parameter, bound)]) := by
  have hbind := bind_of_new hnew hvalue
  refine ⟨{ progress with bindings := done ++ [(parameter, bound)], pending := none }, ?_, ?_⟩
  · simp only [Progress.give, h.settle, bind, Except.bind]
    split
    next hhelp =>
      rw [Parameter.takesValue, hhelp] at htakes
      simp at htakes
    next hversion =>
      rw [Parameter.takesValue, hversion] at htakes
      simp at htakes
    next => rw [hbind]
  · refine ⟨rfl, h.trailing, rfl, fun hgiven => ?_⟩
    obtain ⟨found, hfound, hmem⟩ := h.positional hgiven
    exact ⟨found, hfound, by simp [hmem]⟩

/-- An argument behind two hyphens. -/
theorem Scanned.read_long (h : Scanned level progress done) (body : String) (hbody : body ≠ "") :
    progress.read level ("--" ++ body) = progress.readLong level body.toList := by
  have hargument : ("--" ++ body).toList = '-' :: '-' :: body.toList := by
    rw [String.toList_append]
    rfl
  obtain ⟨c, rest, hrest⟩ := List.exists_cons_of_ne_nil (mt String.toList_eq_nil_iff.1 hbody)
  unfold Progress.read
  rw [h.trailing, if_neg Bool.false_ne_true, hargument, hrest]
  rfl

/-- The positional argument is kept until the next one is taken. -/
theorem Scanned.read_positional (h : Scanned level progress done)
    (hhyphen : argument.toList.head? ≠ some '-') (hpositional : level.positional = some parameter)
    (hnew : parameter ∉ done.map Prod.fst) :
    progress.read level argument =
      .ok ⟨done, some ⟨parameter, some argument⟩, true, false⟩ := by
  have hgiven : progress.positionalGiven = false := by
    rw [Bool.eq_false_iff]
    intro hgiven
    obtain ⟨found, hfound, hmem⟩ := h.positional hgiven
    rw [hpositional] at hfound
    cases hfound
    exact hnew hmem
  have hread : progress.readPositional level argument =
      .ok ⟨done, some ⟨parameter, some argument⟩, true, false⟩ := by
    simp only [Progress.readPositional, hpositional, hgiven, h.settle, h.trailing]
    rfl
  unfold Progress.read
  rw [h.trailing, if_neg Bool.false_ne_true]
  split
  next heq => exact absurd (congrArg List.head? heq) hhyphen
  next heq => exact absurd (congrArg List.head? heq) hhyphen
  next heq => exact absurd (congrArg List.head? heq) hhyphen
  next =>
    split
    next hpending =>
      have hawaits := h.awaitsValue
      rw [Progress.awaitsValue, hpending] at hawaits
      cases hawaits
    next => exact hread

theorem Parameter.long_ne_empty (parameter : Parameter) : parameter.long ≠ "" := by
  cases parameter <;> decide

/-- An argument binds its parameter, now or when the next one is taken. -/
theorem Scanned.read (h : Scanned level progress done)
    (hspells : Spells level (parameter, bound) argument)
    (hnew : parameter ∉ done.map Prod.fst) :
    ∃ next, progress.read level argument = .ok next ∧
      Scanned level next (done ++ [(parameter, bound)]) := by
  cases hspells with
  | flag hnamed htakes =>
      have hvalue : parameter.value "" = .ok .present := by
        rw [Parameter.value, htakes]
      have htakesValue : parameter.takesValue = false := by
        rw [Parameter.takesValue, htakes]
      obtain ⟨next, hgive, hnext⟩ := h.give hnew (Or.inl htakes) hvalue
      refine ⟨next, ?_, hnext⟩
      rw [h.read_long _ parameter.long_ne_empty, Progress.readLong,
        splitEquals_of_not_mem parameter.equals_not_mem_long]
      simp only [List.reverse_nil, List.nil_append, String.ofList_toList, find?_long hnamed,
        htakesValue]
      exact hgive
  | @valued _ _ text hnamed htakes hvalue =>
      obtain ⟨next, hgive, hnext⟩ := h.give hnew (Or.inr htakes) hvalue
      refine ⟨next, ?_, hnext⟩
      have hbody : (parameter.long ++ "=" ++ text).toList =
          parameter.long.toList ++ '=' :: text.toList := by
        simp
      have hne : parameter.long ++ "=" ++ text ≠ "" := by
        intro hempty
        rw [hempty] at hbody
        simp at hbody
      have hargument : "--" ++ parameter.long ++ "=" ++ text =
          "--" ++ (parameter.long ++ "=" ++ text) := by
        simp only [String.append_assoc]
      rw [hargument, h.read_long _ hne, Progress.readLong, hbody,
        splitEquals_append parameter.equals_not_mem_long]
      simp only [List.reverse_nil, List.nil_append, String.ofList_toList, find?_long hnamed,
        htakes, if_true]
      exact hgive
  | positional hpositional hvalue hhyphen =>
      refine ⟨_, h.read_positional hhyphen hpositional hnew, ?_⟩
      refine ⟨bind_of_new hnew hvalue, rfl, rfl, fun _ => ?_⟩
      exact ⟨parameter, hpositional, by simp⟩

end Reading

/-! ## Reading a row of arguments -/

section Rows

variable {level : Level} {progress : Progress} {done entries : Bindings}
  {arguments : List String}

theorem scan_of_not_subcommand {argument : String} {next : Progress}
    (hsubcommand : argument ∉ level.subcommands)
    (hread : progress.read level argument = .ok next) (rest : List String) :
    scan level progress (argument :: rest) = scan level next rest := by
  have hmeets : progress.meetsSubcommand level argument = false := by
    rw [Progress.meetsSubcommand, List.contains_eq_mem, decide_eq_false hsubcommand,
      Bool.and_false]
  rw [scan, hmeets, hread, if_neg Bool.false_ne_true]

/-- Arguments bind their parameters in order, whatever follows them. -/
theorem Scanned.scan (h : Scanned level progress done)
    (hspells : List.Forall₂ (Spells level) entries arguments)
    (hnodup : ((done ++ entries).map Prod.fst).Nodup)
    (hsubcommands : ∀ entry argument, Spells level entry argument →
      argument ∉ level.subcommands) :
    ∃ after, Scanned level after (done ++ entries) ∧
      ∀ rest, CommandLine.scan level progress (arguments ++ rest) =
        CommandLine.scan level after rest := by
  induction hspells generalizing progress done with
  | nil => exact ⟨progress, by rwa [List.append_nil], fun _ => rfl⟩
  | @cons entry argument entries arguments hentry _ ih =>
      obtain ⟨parameter, bound⟩ := entry
      have hnew : parameter ∉ done.map Prod.fst := by
        rw [List.map_append, List.nodup_append] at hnodup
        intro hmem
        exact hnodup.2.2 parameter hmem parameter List.mem_cons_self rfl
      obtain ⟨next, hread, hnext⟩ := h.read hentry hnew
      have happend : done ++ (parameter, bound) :: entries =
          done ++ [(parameter, bound)] ++ entries := by
        rw [List.append_assoc, List.singleton_append]
      rw [happend] at hnodup ⊢
      obtain ⟨after, hafter, hscan⟩ := ih hnext hnodup
      refine ⟨after, hafter, fun rest => ?_⟩
      rw [List.cons_append, scan_of_not_subcommand (hsubcommands _ _ hentry) hread]
      exact hscan rest

theorem scanAll_of_spells (hlevel : level.subcommands = [])
    (hspells : List.Forall₂ (Spells level) entries arguments)
    (hnodup : (entries.map Prod.fst).Nodup) : scanAll level arguments = .ok entries := by
  obtain ⟨after, hafter, hscan⟩ := (scanned_start level).scan hspells hnodup (by simp [hlevel])
  have hall := hscan []
  rw [List.append_nil] at hall
  simp only [scanAll, hall, CommandLine.scan]
  exact hafter.settle

end Rows

/-! ## Wordings -/

/-- A flag, if it is given. -/
def flagArgument (parameter : Parameter) (given : Bool) : List String :=
  if given then ["--" ++ parameter.long] else []

/-- An option with its value attached, if there is one. -/
def valueArgument (parameter : Parameter) (text : Option String) : List String :=
  (text.map fun text => "--" ++ parameter.long ++ "=" ++ text).toList

/-- A command as it is worded: percentages are texts. -/
inductive Wording where
  | init (path : Option String) (force : Bool)
  | stats (project : String) (percent : Option String) (threshold : Option Nat) (json : Bool)
  | graph (project : String)
  | menu

/-- The name of a command. -/
def Command.name : Command → String
  | .init _ _ => "init"
  | .stats _ _ _ _ => "stats"
  | .graph _ => "graph"
  | .menu => "menu"

/-- The options of all commands, in one of their orders. -/
def sharedArguments (config : Option String) (verbose : Bool) : List String :=
  valueArgument .config config ++ flagArgument .verbose verbose

namespace Wording

/-- What stands behind the name, in one of its orders. -/
def arguments : Wording → List String
  | .init path force => valueArgument .path path ++ flagArgument .force force
  | .stats project percent threshold json =>
    project :: (valueArgument .percent percent ++
      valueArgument .threshold (threshold.map fun n => String.ofList (Nat.toDigits 10 n)) ++
      flagArgument .json json)
  | .graph project => [project]
  | .menu => []

/-- The command that is worded, if percentages are numbers. -/
def command? : Wording → Option Command
  | .init path force => some (.init path force)
  | .stats project none threshold json => some (.stats project none threshold json)
  | .stats project (some percent) threshold json =>
    (Decimal.read? percent).map fun x => .stats project (some x) threshold json
  | .graph project => some (.graph project)
  | .menu => some .menu

/-- Whether a text can stand for a project: it is not empty and does not look like an
option. -/
def IsProject (text : String) : Prop :=
  text ≠ "" ∧ text.toList.head? ≠ some '-'

/-- Whether a command can be worded so: paths are not empty, and numbers have 64
bits. -/
def Valid : Wording → Prop
  | .init path _ => path ≠ some ""
  | .stats project _ threshold _ => IsProject project ∧ ∀ n ∈ threshold, n < 2 ^ 64
  | .graph project => IsProject project
  | .menu => True

end Wording

/-! ## What wordings bind -/

/-- What a flag binds, if it is given. -/
def flagEntry (parameter : Parameter) (given : Bool) : Bindings :=
  if given then [(parameter, .present)] else []

/-- What an option binds, if it has a value. -/
def valueEntry (parameter : Parameter) (bound : Option Bound) : Bindings :=
  (bound.map fun bound => (parameter, bound)).toList

/-- What a command binds. -/
def Command.entries : Command → Bindings
  | .init path force => valueEntry .path (path.map .filePath) ++ flagEntry .force force
  | .stats project percent threshold json =>
    (.project, .filePath project) :: (valueEntry .percent (percent.map .double) ++
      valueEntry .threshold (threshold.map .natural) ++ flagEntry .json json)
  | .graph project => [(.project, .filePath project)]
  | .menu => []

/-- The level of a command. -/
def Command.level : Command → Level
  | .init _ _ => initLevel
  | .stats _ _ _ _ => statsLevel
  | .graph _ => graphLevel
  | .menu => menuLevel

section Binding

variable {level : Level} {parameter : Parameter}

theorem spells_flag (hnamed : parameter ∈ level.named) (htakes : parameter.takes = .nothing)
    (given : Bool) :
    List.Forall₂ (Spells level) (flagEntry parameter given) (flagArgument parameter given) := by
  cases given with
  | false => exact .nil
  | true => exact .cons (.flag hnamed htakes) .nil

theorem spells_value (hnamed : parameter ∈ level.named) (htakes : parameter.takesValue = true)
    {text : Option String} {bound : Option Bound}
    (hvalue : text.map parameter.value = bound.map .ok) :
    List.Forall₂ (Spells level) (valueEntry parameter bound) (valueArgument parameter text) := by
  cases text with
  | none =>
      cases bound with
      | none => exact .nil
      | some bound => cases hvalue
  | some text =>
      cases bound with
      | none => cases hvalue
      | some bound => exact .cons (.valued hnamed htakes (Option.some.inj hvalue)) .nil

end Binding

theorem value_filePath {parameter : Parameter} (htakes : parameter.takes = .filePath)
    {text : String} (htext : text ≠ "") : parameter.value text = .ok (.filePath text) := by
  rw [Parameter.value, htakes]
  simp [htext]

/-- A path that is not empty, if there is one. -/
theorem map_value_filePath {parameter : Parameter} (htakes : parameter.takes = .filePath)
    {path : Option String} (hpath : path ≠ some "") :
    path.map parameter.value = (path.map Bound.filePath).map .ok := by
  cases path with
  | none => rfl
  | some path =>
      have hne : path ≠ "" := fun hempty => hpath (congrArg some hempty)
      exact congrArg some (value_filePath htakes hne)

theorem natural?_toDigits {n : Nat} (h : n < 2 ^ 64) :
    natural? (String.ofList (Nat.toDigits 10 n)) = some n := by
  have hmax : n ≤ Text.maxNatural := Nat.le_of_lt_succ h
  unfold natural?
  rw [String.toList_ofList]
  split
  next rest heq =>
    have hplus : Char.isDigit '+' = true :=
      isDigit_of_mem_numeral (heq ▸ List.mem_cons_self)
    cases hplus
  next =>
    simp only [isEmpty_toDigits, all_isDigit_toDigits, Text.digitsValue_toDigits, hmax]
    rfl

theorem spells_project {level : Level} (hlevel : level.positional = some .project)
    {project : String} (h : Wording.IsProject project) :
    Spells level (.project, .filePath project) project :=
  .positional hlevel (value_filePath rfl h.1) h.2

theorem spells_initArguments {path : Option String} (hpath : path ≠ some "") (force : Bool) :
    List.Forall₂ (Spells initLevel) (Command.init path force).entries
      (Wording.init path force).arguments :=
  List.rel_append (spells_value (by decide) rfl (map_value_filePath rfl hpath))
    (spells_flag (by decide) rfl force)

theorem spells_statsArguments {project : String} (hproject : Wording.IsProject project)
    {percent : Option String} {x : Option Float}
    (hpercent : percent.map Parameter.percent.value = (x.map Bound.double).map .ok)
    {threshold : Option Nat} (hthreshold : ∀ n ∈ threshold, n < 2 ^ 64) (json : Bool) :
    List.Forall₂ (Spells statsLevel) (Command.stats project x threshold json).entries
      (Wording.stats project percent threshold json).arguments := by
  have hvalue : (threshold.map fun n => String.ofList (Nat.toDigits 10 n)).map
      Parameter.threshold.value = (threshold.map Bound.natural).map .ok := by
    cases threshold with
    | none => rfl
    | some n =>
        refine congrArg some ?_
        show ((natural? _).map Bound.natural).elim _ _ = _
        rw [natural?_toDigits (hthreshold n rfl)]
        rfl
  exact .cons (spells_project rfl hproject) (List.rel_append
    (List.rel_append (spells_value (by decide) rfl hpercent) (spells_value (by decide) rfl hvalue))
    (spells_flag (by decide) rfl json))

/-- The arguments of a wording bind what its command binds. -/
theorem spells_arguments {wording : Wording} {command : Command} (hvalid : wording.Valid)
    (hcommand : wording.command? = some command) :
    List.Forall₂ (Spells command.level) command.entries wording.arguments := by
  cases wording with
  | init path force =>
      cases hcommand
      exact spells_initArguments hvalid force
  | stats project percent threshold json =>
      cases percent with
      | none =>
          cases hcommand
          exact spells_statsArguments hvalid.1 rfl hvalid.2 json
      | some text =>
          obtain ⟨x, hx, rfl⟩ := Option.map_eq_some_iff.1 hcommand
          have hvalue : (some text).map Parameter.percent.value =
              ((some x).map Bound.double).map .ok := by
            refine congrArg some ?_
            show ((Decimal.read? text).map Bound.double).elim _ _ = _
            rw [hx]
            rfl
          exact spells_statsArguments hvalid.1 hvalue hvalid.2 json
  | graph project =>
      cases hcommand
      exact .cons (spells_project rfl hvalid) .nil
  | menu =>
      cases hcommand
      exact .nil

/-! ## Main result -/

theorem nodup_entries (command : Command) : (command.entries.map Prod.fst).Nodup := by
  cases command with
  | init path force =>
      cases path <;> cases force <;> simp [Command.entries, valueEntry, flagEntry]
  | stats project percent threshold json =>
      cases percent <;> cases threshold <;> cases json <;>
        simp [Command.entries, valueEntry, flagEntry]
  | graph project => simp [Command.entries]
  | menu => simp [Command.entries]

theorem requireProject_of_get? {bindings : Bindings} {project : String}
    (h : bindings.get? .project = some (.filePath project)) :
    requireProject bindings = .ok project := by
  simp only [requireProject, Bindings.path?, h]
  rfl

/-- What a command binds is taken for that command, in any order. -/
theorem readCommand_of_scanAll {command : Command} {arguments : List String}
    {bindings : Bindings} (hscan : scanAll command.level arguments = .ok bindings)
    (hperm : bindings.Perm command.entries) :
    readCommand command.name arguments = .ok command := by
  have hget : ∀ parameter, bindings.get? parameter = command.entries.get? parameter :=
    Data.lookup_eq_of_perm (nodup_entries command) hperm
  cases command with
  | init path force =>
      show (scanAll initLevel arguments >>= fun bindings =>
        .ok (Command.init (bindings.path? .path) (bindings.has .force))) = _
      rw [show scanAll initLevel arguments = .ok bindings from hscan]
      show Except.ok (Command.init (bindings.path? .path) (bindings.has .force)) = _
      simp only [Bindings.path?, Bindings.has, hget]
      cases path <;> cases force <;> rfl
  | stats project percent threshold json =>
      have hproject := requireProject_of_get? (hget .project)
      show (scanAll statsLevel arguments >>= fun bindings =>
        requireProject bindings >>= fun project =>
          .ok (Command.stats project (bindings.double? .percent) (bindings.natural? .threshold)
            (bindings.has .json))) = _
      rw [show scanAll statsLevel arguments = .ok bindings from hscan]
      show (requireProject bindings >>= _) = _
      rw [hproject]
      show Except.ok (Command.stats project (bindings.double? .percent)
        (bindings.natural? .threshold) (bindings.has .json)) = _
      simp only [Bindings.double?, Bindings.natural?, Bindings.has, hget]
      cases percent <;> cases threshold <;> cases json <;> rfl
  | graph project =>
      have hproject := requireProject_of_get? (hget .project)
      show (scanAll graphLevel arguments >>= fun bindings =>
        requireProject bindings >>= fun project => .ok (Command.graph project)) = _
      rw [show scanAll graphLevel arguments = .ok bindings from hscan]
      show (requireProject bindings >>= _) = _
      rw [hproject]
      rfl
  | menu =>
      show (scanAll menuLevel arguments >>= fun _ => .ok Command.menu) = _
      rw [show scanAll menuLevel arguments = .ok bindings from hscan]
      rfl

/-- What is bound in front of a command. -/
def sharedEntries (config : Option String) (verbose : Bool) : Bindings :=
  valueEntry .config (config.map .filePath) ++ flagEntry .verbose verbose

theorem spells_sharedArguments {config : Option String} (hconfig : config ≠ some "")
    (verbose : Bool) :
    List.Forall₂ (Spells rootLevel) (sharedEntries config verbose)
      (sharedArguments config verbose) :=
  List.rel_append (spells_value (by decide) rfl (map_value_filePath rfl hconfig))
    (spells_flag (by decide) rfl verbose)

/-- An option in front of a command is not taken for the command. -/
theorem not_subcommand_of_spells {entry : Parameter × Bound} {argument : String}
    (h : Spells rootLevel entry argument) : argument ∉ rootLevel.subcommands := by
  have hwords : ∀ word ∈ rootLevel.subcommands, word.toList.head? ≠ some '-' := by decide
  intro hmem
  have hhyphen := hwords argument hmem
  cases h with
  | flag => simp at hhyphen
  | valued => simp at hhyphen
  | positional hpositional => cases hpositional

/-- Arguments in another order bind the same in another order. -/
theorem exists_perm_of_spells {level : Level} {entries : Bindings} {arguments row : List String}
    (h : List.Forall₂ (Spells level) entries arguments) (hrow : row.Perm arguments) :
    ∃ order, order.Perm entries ∧ List.Forall₂ (Spells level) order row := by
  obtain ⟨order, hspells, horder⟩ := List.perm_comp_forall₂ hrow h.flip
  exact ⟨order, horder, hspells.flip⟩

/-- What stands in front of a command is read up to its name. -/
theorem scan_upto_name {entries : Bindings} {front : List String}
    (hspells : List.Forall₂ (Spells rootLevel) entries front)
    (hnodup : (entries.map Prod.fst).Nodup) (command : Command) (back : List String) :
    ∃ after, after.settle = .ok entries ∧
      scan rootLevel {} (front ++ command.name :: back) =
        .ok (after, some (command.name, back)) := by
  obtain ⟨after, hafter, hscan⟩ := (scanned_start rootLevel).scan hspells hnodup
    fun _ _ => not_subcommand_of_spells
  have hmeets : after.meetsSubcommand rootLevel command.name = true := by
    rw [Progress.meetsSubcommand, hafter.trailing, hafter.awaitsValue]
    cases command <;> rfl
  refine ⟨after, hafter.settle, ?_⟩
  rw [hscan, scan, if_pos hmeets]

theorem nodup_sharedEntries (config : Option String) (verbose : Bool) :
    ((sharedEntries config verbose).map Prod.fst).Nodup := by
  cases config <;> cases verbose <;> simp [sharedEntries, valueEntry, flagEntry]

/-- Every wording of a command is read as this command: with the shared options in
any order in front of its name, and its own options and project in any order behind
it. -/
theorem read_arguments {config : Option String} (hconfig : config ≠ some "") (verbose : Bool)
    {wording : Wording} (hvalid : wording.Valid) {command : Command}
    (hcommand : wording.command? = some command) {front back : List String}
    (hfront : front.Perm (sharedArguments config verbose))
    (hback : back.Perm wording.arguments) :
    read (front ++ command.name :: back) = .ok ⟨config, verbose, command⟩ := by
  obtain ⟨shared, hshared, hfrontSpells⟩ :=
    exists_perm_of_spells (spells_sharedArguments hconfig verbose) hfront
  obtain ⟨own, hown, hbackSpells⟩ :=
    exists_perm_of_spells (spells_arguments hvalid hcommand) hback
  have hsharedNodup := nodup_sharedEntries config verbose
  have hownNodup := (hown.map Prod.fst).nodup_iff.2 (nodup_entries command)
  have hlevel : command.level.subcommands = [] := by
    cases command <;> rfl
  have hread : readCommand command.name back = .ok command :=
    readCommand_of_scanAll (scanAll_of_spells hlevel hbackSpells hownNodup) hown
  obtain ⟨after, hsettle, hroot⟩ := scan_upto_name hfrontSpells
    ((hshared.map Prod.fst).nodup_iff.2 hsharedNodup) command back
  have hget : ∀ parameter, Bindings.get? shared parameter =
      (sharedEntries config verbose).get? parameter :=
    Data.lookup_eq_of_perm hsharedNodup hshared
  simp only [read, hroot, hread, hsettle, bind, Except.bind, Bindings.path?, Bindings.has, hget]
  cases config <;> cases verbose <;> rfl

/-- Values that look like options, with the project between them. -/
theorem read_arguments_lookalikes :
    read ["--verbose", "--config=--config=a b", "stats", "--threshold=18446744073709551615",
        "--json", "init", "--percent=1e1"] =
      .ok ⟨some "--config=a b", true,
        .stats "init" (some 10.0) (some 18446744073709551615) true⟩ := by
  refine @read_arguments (some "--config=a b") (by decide) true
    (.stats "init" (some "1e1") (some 18446744073709551615) true) ?_
    (.stats "init" (some 10.0) (some 18446744073709551615) true) ?_
    ["--verbose", "--config=--config=a b"]
    ["--threshold=18446744073709551615", "--json", "init", "--percent=1e1"] ?_ ?_
  · refine ⟨⟨by decide, by decide⟩, fun n hn => ?_⟩
    cases hn
    decide
  · rfl
  · decide
  · decide

end JavaSurvey.CommandLine
