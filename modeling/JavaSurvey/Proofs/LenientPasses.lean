import JavaSurvey.Analysis.Analyzer
import JavaSurvey.Proofs.FewerFiles
import JavaSurvey.Proofs.Outliers
import JavaSurvey.Proofs.Passes
import JavaSurvey.Proofs.TallyOfFiles

/-!
# Lenient passes over a directory

A lenient run over a directory skips the files that cannot be analysed. A strict
run fails at the first of them. Without these files both see the same: the
directory lists the same files in the same order but for them, and every file
that is left is analysed as before. So the statistics and the call graph of a
lenient run are those of a strict run over the directory without the files that
cannot be analysed.

## Main results

* `forEachUnit_eq_passBelow`: a run over a directory is a pass over the files
  discovered in it.
* `outcome_statistics`, `outcome_buildCallGraph`: what analyses make of a pass.
* `analyzeFile_without`, `discover_without`: the directory without the files
  that cannot be analysed.
* `passes_lenient_and_strict`: lenient runs against strict runs.
-/

namespace JavaSurvey.Analysis

open Config (ParsingSettings Settings)
open Files (Entry Store joinAll)
open Metrics (SelectionOptions Statistics Tally)
open Syntax (SourceUnit)

variable {σ : Type}

/-! ## Runs over a directory -/

/-- Settings with strict or lenient runs. -/
def withFailFast (settings : Settings) (failFast : Bool) : Settings :=
  { settings with parsing := { settings.parsing with failFast := failFast } }

/-- What a request comes to, apart from what it leaves behind. -/
def outcome {α : Type} (request : Request α) (world : World) : Except Failure α :=
  (request.run.run world).1

/-- A pass over the files that are discovered below a directory. -/
def passBelow (settings : Settings) (files : Store) (directory : String)
    (consume : Consumer σ) (state : σ) : σ × Except Failure Summary :=
  match discover settings.project.fileMarker files directory with
  | .error failure => (state, .error failure)
  | .ok paths =>
    (passOver settings.parsing.failFast (analyzeFile settings.parsing files)
      consume paths state {}).result

/-- A run over a directory is such a pass, apart from the log. -/
theorem forEachUnit_eq_passBelow (settings : Settings) (directory : String)
    (consume : Consumer σ) (state : σ) (world : World) :
    ((forEachUnit settings directory consume state).run world).1 =
      passBelow settings world.files directory consume state := by
  simp only [forEachUnit, passBelow, StateT.run, bind, StateT.bind, get, getThe,
    MonadStateOf.get, StateT.get, pure]
  cases discover settings.project.fileMarker world.files directory <;> rfl

/-! ## Requests -/

section Requests

variable {α β : Type}

/-- A step that cannot fail is taken first. -/
theorem outcome_lift_bind (step : StateM World α) (next : α → Request β)
    (world : World) :
    outcome ((liftM step : Request α) >>= next) world =
      outcome (next (step.run world).1) (step.run world).2 :=
  rfl

/-- A result that is there already is taken, or the request fails with it. -/
theorem outcome_except_bind (result : Except Failure α) (next : α → Request β)
    (world : World) :
    outcome ((liftM result : Request α) >>= next) world =
      result.bind fun value => outcome (next value) world := by
  cases result <;> rfl

theorem outcome_pure (value : α) (world : World) :
    outcome (pure value) world = .ok value :=
  rfl

theorem files_note (level : Level) (message : String) (world : World) :
    ((note level message).run world).2.files = world.files :=
  rfl

end Requests

section Analyses

variable (analyzer : Analyzer) (project : Project) (options : SelectionOptions)
  (world : World)

/-- The statistics of a project are what its files are tallied to. -/
theorem outcome_statistics :
    outcome (analyzer.statistics project options) world =
      let run := passBelow analyzer.settings world.files project.sourceDir
        tallyUnit {}
      run.2.bind fun _ => (run.1.finalize options).mapError Failure.metrics := by
  have hwarn : ∀ (statistics : Statistics) (message : String) (world : World),
      outcome
        (if statistics.totals.classes = 0 then do
          warn message
          pure statistics
        else pure statistics) world = .ok statistics := by
    intro statistics message world
    split <;> rfl
  simp only [Analyzer.statistics, info, outcome_lift_bind, outcome_except_bind,
    forEachUnit_eq_passBelow, files_note, hwarn]
  cases (passBelow analyzer.settings world.files project.sourceDir tallyUnit
    {}).2 with
  | error failure => rfl
  | ok summary =>
      cases (passBelow analyzer.settings world.files project.sourceDir tallyUnit
        {}).1.finalize options <;> rfl

/-- The call graph of a project is what its files are put together to. -/
theorem outcome_buildCallGraph :
    outcome (analyzer.buildCallGraph project) world =
      let run := passBelow analyzer.settings world.files project.sourceDir
        graphUnit .empty
      run.2.bind fun _ => .ok run.1 := by
  simp only [Analyzer.buildCallGraph, info, outcome_lift_bind,
    outcome_except_bind, forEachUnit_eq_passBelow, files_note, outcome_pure]

end Analyses

/-! ## Counting files -/

/-- A pass that ends well has tallied as many files as it has counted. -/
theorem files_passOver_tallyUnit {failFast : Bool}
    {analyze : String → Except Failure SourceUnit} {paths : List String}
    {tally : Tally} {summary last : Summary}
    (h : (passOver failFast analyze tallyUnit paths tally summary).outcome =
      .ok last) :
    (passOver failFast analyze tallyUnit paths tally summary).state.files +
      summary.parsed = tally.files + last.parsed := by
  induction paths generalizing tally summary with
  | nil =>
      cases h
      rfl
  | cons path paths ih =>
      cases hpath : analyze path with
      | error failure =>
          simp only [passOver, hpath] at h ⊢
          split_ifs at h ⊢
          exact ih h
      | ok unit =>
          simp only [passOver, hpath, tallyUnit] at h ⊢
          have hrest := ih h
          have hcount : (tally.accumulate unit).files = tally.files + 1 := by
            rw [Tally.accumulate, Metrics.foldl_addType]
          rw [hcount] at hrest
          dsimp only at hrest
          omega

theorem files_of_finalize {tally : Tally} {options : SelectionOptions}
    {statistics : Statistics} (h : tally.finalize options = .ok statistics) :
    statistics.files = tally.files := by
  cases hpercent : Metrics.isPercentage options.percent with
  | true =>
      rw [Tally.finalize_of_percentage tally hpercent] at h
      cases h
      rfl
  | false =>
      rw [Tally.finalize_of_not_percentage tally hpercent] at h
      cases h

theorem files_passBelow_tallyUnit {settings : Settings} {files : Store}
    {directory : String} {summary : Summary}
    (h : (passBelow settings files directory tallyUnit {}).2 = .ok summary) :
    (passBelow settings files directory tallyUnit {}).1.files =
      summary.parsed := by
  unfold passBelow at h ⊢
  cases hdiscover : discover settings.project.fileMarker files directory with
  | error failure =>
      rw [hdiscover] at h
      cases h
  | ok paths =>
      rw [hdiscover] at h
      have hcount := files_passOver_tallyUnit h
      simpa [Pass.result] using hcount

/-- The statistics count the files that were analysed. -/
theorem files_eq_parsed {analyzer : Analyzer} {project : Project}
    {options : SelectionOptions} {world : World} {statistics : Statistics}
    (h : outcome (analyzer.statistics project options) world = .ok statistics) :
    ∃ summary, ((forEachUnit analyzer.settings project.sourceDir tallyUnit
        {}).run world).1.2 = .ok summary ∧
      statistics.files = summary.parsed := by
  rw [outcome_statistics] at h
  rw [forEachUnit_eq_passBelow]
  dsimp only at h
  cases hrun : (passBelow analyzer.settings world.files project.sourceDir
      tallyUnit {}).2 with
  | error failure =>
      rw [hrun] at h
      cases h
  | ok summary =>
      rw [hrun] at h
      refine ⟨summary, rfl, ?_⟩
      cases hfinal : (passBelow analyzer.settings world.files project.sourceDir
          tallyUnit {}).1.finalize options with
      | error error =>
          rw [hfinal] at h
          cases h
      | ok final =>
          rw [hfinal] at h
          cases h
          rw [files_of_finalize hfinal, files_passBelow_tallyUnit hrun]

/-! ## The directory without the files that cannot be analysed -/

/-- The places below a directory of files that cannot be analysed. -/
def UnparsableAt (analyze : String → Except Failure SourceUnit)
    (directory : String) (paths : List String) (place stop : List String) :
    Prop :=
  ∃ names, stop = place ++ names ∧
    joinAll directory names ∈ unparsable analyze paths

theorem unparsableAt_append_iff {analyze : String → Except Failure SourceUnit}
    {directory : String} {paths : List String} {place names : List String} :
    UnparsableAt analyze directory paths place (place ++ names) ↔
      joinAll directory names ∈ unparsable analyze paths := by
  constructor
  · rintro ⟨names', heq, hmem⟩
    rw [List.append_cancel_left heq]
    exact hmem
  · intro hmem
    exact ⟨names, rfl, hmem⟩

theorem read_eq_ok_iff {files : Store} {path : String} {content : List UInt8} :
    files.read path = .ok content ↔
      ∃ place, files.find true path = .ok (place, .file content) := by
  rw [Store.read]
  cases files.find true path with
  | error error => simp [bind, Except.bind]
  | ok found =>
      obtain ⟨place, entry⟩ := found
      cases entry <;> simp [bind, Except.bind]

section Without

variable {files rest : Store} {directory : String}
  {place : List String} {children : List (String × Entry)}
  {paths : List String}

theorem discover_eq_ok_iff {marker : String} :
    discover marker files directory = .ok paths ↔
      files.discover marker directory = .ok paths := by
  rw [discover]
  cases files.discover marker directory <;> simp [Except.mapError]

/-- In a directory of files that are all marked and listed in order, discovery finds
these files. -/
theorem discover_of_flat {marker : String}
    (hdirectory : files.find true directory = .ok (place, .directory children))
    (hflat : ∀ child ∈ children, ∃ content, child.2 = .file content)
    (hnames : children.Pairwise fun first second => first.1 ≤ second.1)
    (hmarked : ∀ child ∈ children,
      Files.isMarked marker (Files.join directory child.1) = true)
    (hpaths : (children.map fun child => Files.join directory child.1).Pairwise
      fun first second => Files.le first second = true) :
    discover marker files directory =
      .ok (children.map fun child => Files.join directory child.1) := by
  have hlisted : (Files.filesOfChildren directory children).Pairwise
      fun first second => decide (first.1 ≤ second.1) = true := by
    rw [Entry.filesOfChildren_eq_map, List.pairwise_map]
    exact hnames.imp decide_eq_true
  have hfiles : Files.filesUnder directory (.directory children) =
      children.map fun child => Files.join directory child.1 := by
    rw [Files.filesUnder, List.mergeSort_of_pairwise hlisted,
      Entry.filesOfChildren_eq_map, List.flatMap_map, List.map_eq_flatMap]
    refine List.flatMap_congr fun child hchild => ?_
    obtain ⟨content, hcontent⟩ := hflat child hchild
    rw [hcontent, Files.filesUnder]
  have hfilter : (children.map fun child => Files.join directory child.1).filter
      (Files.isMarked marker) = children.map fun child => Files.join directory child.1 :=
    List.filter_eq_self.2 (List.forall_mem_map.2 hmarked)
  rw [discover_eq_ok_iff, Store.discover, Store.walk_of_find hdirectory, hfiles,
    Except.map, hfilter, List.mergeSort_of_pairwise hpaths]

/-- Without the files that cannot be analysed, the others are discovered. -/
theorem discover_without
    {analyze : String → Except Failure SourceUnit} {marker : String}
    (hproper : files.root.Proper) (hproper' : rest.root.Proper)
    (hdirectory : files.find true directory = .ok (place, .directory children))
    (hpaths : discover marker files directory = .ok paths)
    (h : files.WithoutFiles (UnparsableAt analyze directory paths place) rest) :
    discover marker rest directory = .ok (parsable analyze paths) := by
  rw [discover_eq_ok_iff] at hpaths ⊢
  refine h.discover hproper hproper' hdirectory hpaths ?_
  intro names hmem
  rw [unparsableAt_append_iff, unparsable, List.mem_filter, and_iff_right hmem,
    Bool.not_eq_true', Bool.not_eq_false]

/-- Each of these is analysed as before. -/
theorem analyzeFile_without {parsing : ParsingSettings} {marker : String}
    (hproper : files.root.Proper)
    (hdirectory : files.find true directory = .ok (place, .directory children))
    (hpaths : discover marker files directory = .ok paths)
    (h : files.WithoutFiles
      (UnparsableAt (analyzeFile parsing files) directory paths place) rest)
    {path : String} (hpath : path ∈ paths)
    (hparses : Parses (analyzeFile parsing files) path = true) :
    analyzeFile parsing rest path = analyzeFile parsing files path := by
  obtain ⟨content, hread⟩ : ∃ content, files.read path = .ok content := by
    obtain ⟨unit, hunit⟩ := exists_ok_of_parses hparses
    cases hread : files.read path with
    | ok content => exact ⟨content, rfl⟩
    | error error =>
        rw [analyzeFile, hread] at hunit
        cases hunit
  -- The file was read from the place that its path tells, which is not one of
  -- those that are gone.
  obtain ⟨stop, hfind⟩ := read_eq_ok_iff.1 hread
  obtain ⟨_, hlisted, hlists⟩ := Store.lists_of_discover hproper hdirectory
  cases (discover_eq_ok_iff.1 hpaths).symm.trans hlisted
  obtain ⟨_, names, _, hfile, rfl⟩ := (hlists.mem_iff path).1 hpath
  have hstop : stop = place ++ names :=
    Store.place_of_find_joinAll hdirectory (Store.isName_below hproper hfile)
      hfile hfind
  have hkept : ¬ UnparsableAt (analyzeFile parsing files) directory paths place
      stop := by
    rw [hstop, unparsableAt_append_iff, unparsable, List.mem_filter, hparses]
    exact fun hmem => Bool.false_ne_true hmem.2
  have hread' : rest.read (joinAll directory names) = .ok content :=
    read_eq_ok_iff.2 ⟨stop, h.find_file hfind hkept⟩
  rw [analyzeFile, analyzeFile, hread, hread']

/-- A lenient pass over a directory against a strict pass over the directory
without the files that cannot be analysed. -/
theorem passBelow_without {settings : Settings} (consume : Consumer σ) (state : σ)
    (hproper : files.root.Proper) (hproper' : rest.root.Proper)
    (hdirectory : files.find true directory = .ok (place, .directory children))
    (hpaths : discover settings.project.fileMarker files directory = .ok paths)
    (h : files.WithoutFiles
      (UnparsableAt (analyzeFile settings.parsing files) directory paths place)
      rest) :
    (passBelow (withFailFast settings true) rest directory consume state).1 =
        (passBelow (withFailFast settings false) files directory consume state).1 ∧
      (passBelow (withFailFast settings true) rest directory consume
          state).2.map Summary.parsed =
        (passBelow (withFailFast settings false) files directory consume
          state).2.map Summary.parsed := by
  have hrest := discover_without hproper hproper' hdirectory hpaths h
  have hstrict : passBelow (withFailFast settings true) rest directory consume
      state =
      (passOver true (analyzeFile settings.parsing rest) consume
        (parsable (analyzeFile settings.parsing files) paths) state {}).result := by
    simp only [passBelow, withFailFast, hrest]
    rfl
  have hlenient : passBelow (withFailFast settings false) files directory consume
      state =
      (passOver false (analyzeFile settings.parsing files) consume paths state
        {}).result := by
    simp only [passBelow, withFailFast, hpaths]
    rfl
  rw [hstrict, hlenient]
  exact passOver_strict_of_parsed _ consume
    (fun _ hpath hparses =>
      analyzeFile_without hproper hdirectory hpaths h hpath hparses) state

end Without

/-- An analyzer with strict or lenient runs. -/
def Analyzer.withFailFast (analyzer : Analyzer) (failFast : Bool) : Analyzer :=
  { analyzer with settings := Analysis.withFailFast analyzer.settings failFast }

/-- What follows a run does not look at which files were skipped. -/
theorem bind_eq_of_map_parsed {α : Type} {first second : Except Failure Summary}
    (h : first.map Summary.parsed = second.map Summary.parsed)
    (next : Except Failure α) :
    (first.bind fun _ => next) = second.bind fun _ => next := by
  have hparsed : ∀ run : Except Failure Summary,
      (run.bind fun _ => next) = (run.map Summary.parsed).bind fun _ => next := by
    intro run
    cases run <;> rfl
  rw [hparsed first, h, ← hparsed second]

/-- Lenient analyses of a project come to what strict ones come to in a world
without some files. -/
structure LenientIsStrictWithout (analyzer : Analyzer) (project : Project)
    (options : SelectionOptions) (world : World) (gone : List String → Prop) :
    Prop where
  exists_without : ∃ rest : Store, rest.root.Proper ∧
    world.files.WithoutFiles gone rest
  statistics : ∀ rest : Store, rest.root.Proper →
    world.files.WithoutFiles gone rest →
    outcome ((analyzer.withFailFast false).statistics project options) world =
      outcome ((analyzer.withFailFast true).statistics project options)
        { world with files := rest }
  callGraph : ∀ rest : Store, rest.root.Proper →
    world.files.WithoutFiles gone rest →
    outcome ((analyzer.withFailFast false).buildCallGraph project) world =
      outcome ((analyzer.withFailFast true).buildCallGraph project)
        { world with files := rest }

theorem lenientIsStrictWithout {analyzer : Analyzer} {project : Project}
    {world : World} {paths place : List String}
    {children : List (String × Entry)} (options : SelectionOptions)
    (hproper : world.files.root.Proper)
    (hdirectory : world.files.find true project.sourceDir =
      .ok (place, .directory children))
    (hpaths : discover analyzer.settings.project.fileMarker world.files
      project.sourceDir = .ok paths) :
    LenientIsStrictWithout analyzer project options world
      (UnparsableAt (analyzeFile analyzer.settings.parsing world.files)
        project.sourceDir paths place) where
  exists_without := by
    obtain ⟨_, hroot⟩ := Entry.exists_eq_directory
      (Store.find_eq_ok_iff.1 hdirectory).2.2
    exact Store.exists_withoutFiles hproper hroot _
  statistics := by
    intro rest hproper' hrest
    obtain ⟨hstate, hparsed⟩ := passBelow_without tallyUnit {} hproper hproper'
      hdirectory hpaths hrest
    rw [outcome_statistics, outcome_statistics]
    simp only [Analyzer.withFailFast, hstate]
    exact (bind_eq_of_map_parsed hparsed _).symm
  callGraph := by
    intro rest hproper' hrest
    obtain ⟨hstate, hparsed⟩ := passBelow_without graphUnit .empty hproper
      hproper' hdirectory hpaths hrest
    rw [outcome_buildCallGraph, outcome_buildCallGraph]
    simp only [Analyzer.withFailFast, hstate]
    exact (bind_eq_of_map_parsed hparsed _).symm

/-- Lenient passes against strict ones: the laws of passes over any files with
any analyses and any consumer; that a run over a directory is such a pass over
the files discovered in it, in ascending order; that statistics count the files
that were analysed; and that lenient runs over a directory come to what strict
runs come to without the files that cannot be analysed. -/
theorem passes_lenient_and_strict :
    (∀ (σ : Type) (analyze : String → Except Failure SourceUnit)
      (consume : Consumer σ) (paths : List String) (state : σ),
      PassLaws analyze consume paths state) ∧
    (∀ (σ : Type) (settings : Settings) (directory : String)
      (consume : Consumer σ) (state : σ) (world : World) (paths : List String),
      discover settings.project.fileMarker world.files directory = .ok paths →
      (paths.Pairwise fun first second => Files.le first second = true) ∧
        ((forEachUnit settings directory consume state).run world).1 =
          (passOver settings.parsing.failFast
            (analyzeFile settings.parsing world.files) consume paths state
            {}).result) ∧
    (∀ (analyzer : Analyzer) (project : Project) (options : SelectionOptions)
      (world : World) (statistics : Statistics),
      outcome (analyzer.statistics project options) world = .ok statistics →
      ∃ summary, ((forEachUnit analyzer.settings project.sourceDir tallyUnit
          {}).run world).1.2 = .ok summary ∧
        statistics.files = summary.parsed) ∧
    ∀ (analyzer : Analyzer) (project : Project) (options : SelectionOptions)
      (world : World) (paths place : List String)
      (children : List (String × Entry)),
      world.files.root.Proper →
      world.files.find true project.sourceDir =
        .ok (place, .directory children) →
      discover analyzer.settings.project.fileMarker world.files
        project.sourceDir = .ok paths →
      LenientIsStrictWithout analyzer project options world
        (UnparsableAt (analyzeFile analyzer.settings.parsing world.files)
          project.sourceDir paths place) := by
  refine ⟨fun _ => passLaws, ?_, fun _ _ _ _ _ => files_eq_parsed, ?_⟩
  · intro σ settings directory consume state world paths hpaths
    refine ⟨Store.pairwise_of_discover (discover_eq_ok_iff.1 hpaths), ?_⟩
    rw [forEachUnit_eq_passBelow, passBelow, hpaths]
  · intro analyzer project options world paths place children hproper hdirectory
      hpaths
    exact lenientIsStrictWithout options hproper hdirectory hpaths

/-- A file that is no text, and an empty file. -/
def mixedSources : List (String × Entry) :=
  [("Binary.java", .file [255]), ("Empty.java", .file [])]

/-- A world with just a directory of these files. -/
def mixedWorld : World where
  files := ⟨.directory [("src", .directory mixedSources)], []⟩

theorem proper_mixedWorld : mixedWorld.files.root.Proper := by
  have hsources : (Entry.directory mixedSources).Proper := by
    refine Entry.proper_directory (by decide +kernel) (by decide +kernel) ?_
    simp [mixedSources, Entry.proper_file]
  refine Entry.proper_directory (by decide +kernel) (by decide +kernel) ?_
  simpa using hsources

theorem discover_mixedWorld :
    discover ".java" mixedWorld.files "src" =
      .ok ["src/Binary.java", "src/Empty.java"] := by
  have hdirectory : mixedWorld.files.find true "src" =
      .ok (["src"], .directory mixedSources) := rfl
  exact discover_of_flat hdirectory (by simp [mixedSources]) (by decide +kernel)
    (by decide +kernel) (by decide +kernel)

theorem passes_lenient_and_strict_mixed :
    discover ".java" mixedWorld.files "src" =
        .ok ["src/Binary.java", "src/Empty.java"] ∧
      UnparsableAt (analyzeFile {} mixedWorld.files) "src"
        ["src/Binary.java", "src/Empty.java"] ["src"] ["src", "Binary.java"] ∧
      LenientIsStrictWithout (.ofSettings [] {}) ⟨"", "src"⟩ ⟨10, 10⟩ mixedWorld
        (UnparsableAt (analyzeFile {} mixedWorld.files) "src"
          ["src/Binary.java", "src/Empty.java"] ["src"]) := by
  have hbinary : "src/Binary.java" ∈ unparsable (analyzeFile {} mixedWorld.files)
      ["src/Binary.java", "src/Empty.java"] :=
    List.mem_filter.2 ⟨List.mem_cons_self, by decide +kernel⟩
  refine ⟨discover_mixedWorld, ⟨["Binary.java"], rfl, hbinary⟩, ?_⟩
  exact passes_lenient_and_strict.2.2.2 (.ofSettings [] {}) ⟨"", "src"⟩ ⟨10, 10⟩
    mixedWorld _ _ mixedSources proper_mixedWorld rfl discover_mixedWorld

end JavaSurvey.Analysis
