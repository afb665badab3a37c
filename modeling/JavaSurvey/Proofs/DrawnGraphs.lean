import JavaSurvey.Proofs.LenientPasses
import JavaSurvey.Proofs.RequestFrames
import JavaSurvey.Proofs.SavedSettings

/-!
# The stages of drawing a call graph

A call graph is put together, described in a file, and drawn by a renderer. Each
stage fails in its own way. A graph that cannot be put together leaves the files
as they were. A description that cannot be written may leave directories behind.
In both cases the request ends there: what it comes to is the same whichever
renderer is at hand, so none was started. A renderer that fails is only reported,
and the description is in its file by then.

A renderer may change files, the description among them. That it leaves the
description alone is said where it is needed.

## Main results

* `run_drawCallGraph_of_unbuilt`, `run_drawCallGraph_of_unwritten`: the stages
  that end the request.
* `run_drawCallGraph`: what a renderer adds.
* `read_of_writeDescription`: a description that was written is in its file.
* `drawsInStages`: all stages together.
-/

namespace JavaSurvey.Analysis

open CallGraph (Graph)
open Files (Store)
open Report (GraphArtifacts)
open Text.Utf8 (encode)

/-! ## Descriptions in files -/

section Description

variable {path description : String} {world after : World}

theorem run_createDirectories (parent : String) (world : World) :
    (createDirectories parent).run.run world =
      (((world.files.createDirectories parent).2.mapError Failure.file),
        { world with files := (world.files.createDirectories parent).1 }) := by
  show (fromFiles (world.files.createDirectories parent).2).run.run
    { world with files := (world.files.createDirectories parent).1 } = _
  cases (world.files.createDirectories parent).2 <;> rfl

/-- A description that was written is in its file, if there is a current
directory. The directories that are created for it leave that one where it is. -/
theorem read_of_writeDescription
    (hcurrent : world.files.HasDirectory world.files.current)
    (hrun : (writeDescription path description).run.run world = (.ok (), after)) :
    after.files.read path = .ok (encode description) := by
  have hwritten : ∀ before : World, before.files.HasDirectory before.files.current →
      (do writeText path description; info s!"Wrote call graph description: {path}" :
        Request Unit).run.run before = (.ok (), after) →
      after.files.read path = .ok (encode description) := by
    intro before hbefore htext
    obtain ⟨_, between, hstep, hinfo⟩ := exists_of_run_bind_ok htext
    have hread := read_of_writeText hbefore hstep
    cases hinfo
    exact hread
  unfold writeDescription at hrun
  split at hrun
  next parent _ =>
    obtain ⟨_, between, hstep, htext⟩ := exists_of_run_bind_ok hrun
    rw [run_createDirectories] at hstep
    have hfiles : between.files = (world.files.createDirectories parent).1 :=
      congrArg (fun result => result.2.files) hstep.symm
    have hkept := Store.keepsDirectories_createDirectories world.files parent
    rw [← hfiles] at hkept
    refine hwritten between ?_ htext
    rw [hkept.current]
    exact hkept.directory _ hcurrent
  next => exact hwritten world hcurrent hrun

end Description

/-! ## Stages -/

/-- The same analyzer with another renderer. -/
def Analyzer.drawingWith (analyzer : Analyzer) (renderer : Renderer) : Analyzer :=
  { analyzer with renderer := renderer }

/-- Write the description of a graph to its file. -/
def Analyzer.describe (analyzer : Analyzer) (graph : Graph) : Request Unit :=
  writeDescription analyzer.settings.graph.dotPath
    (graph.toDot analyzer.settings.graph.palette)

/-- What is left behind after drawing, given how the renderer ended. -/
def artifactsOf (settings : Config.GraphSettings) (graph : Graph) (drawing : Drawing) :
    GraphArtifacts where
  dotPath := settings.dotPath
  imagePath := if drawing.failure.isSome then none else some settings.imagePath
  renderError := drawing.failure.map fun reason => (Failure.render reason).message
  stats := graph.stats

/-- There is an image or an error, and never both. -/
theorem isSome_imagePath_artifactsOf (settings : Config.GraphSettings) (graph : Graph)
    (drawing : Drawing) :
    (artifactsOf settings graph drawing).imagePath.isSome = true ↔
      (artifactsOf settings graph drawing).renderError = none := by
  unfold artifactsOf
  cases drawing.failure <;> simp

section Stages

variable {analyzer : Analyzer} {project : Project} {world built : World}

theorem run_drawCallGraph_of_unbuilt {failure : Failure}
    (hbuild : (analyzer.buildCallGraph project).run.run world = (.error failure, built)) :
    (analyzer.drawCallGraph project).run.run world = (.error failure, built) :=
  run_bind_of_error hbuild

variable {graph : Graph}
  (hbuild : (analyzer.buildCallGraph project).run.run world = (.ok graph, built))

include hbuild

theorem run_drawCallGraph_of_unwritten {failure : Failure} {left : World}
    (hwrite : (analyzer.describe graph).run.run built = (.error failure, left)) :
    (analyzer.drawCallGraph project).run.run world = (.error failure, left) := by
  rw [Analyzer.drawCallGraph]
  exact (run_bind_of_ok hbuild).trans (run_bind_of_error hwrite)

/-- Behind a description that was written, the request goes on to its end. -/
theorem run_drawCallGraph {written : World}
    (hwrite : (analyzer.describe graph).run.run built = (.ok (), written)) :
    ∃ after,
      (analyzer.drawCallGraph project).run.run world =
        (.ok (artifactsOf analyzer.settings.graph graph
          (analyzer.renderer.draw written.files analyzer.settings.graph.dotPath
            analyzer.settings.graph.imagePath)), after) ∧
      after.files = analyzer.renderer.filesAfter written.files
        analyzer.settings.graph.dotPath analyzer.settings.graph.imagePath := by
  have hinfo : ∀ message, (info message).run.run written =
      (.ok (), { written with log := written.log ++ [⟨.info, message⟩] }) := fun _ => rfl
  have hfiles : ∀ world, currentFiles.run.run world = (.ok world.files, world) := fun _ => rfl
  have hset : ∀ files world, (setFiles files).run.run world =
      (.ok (), { world with files := files }) := fun _ _ => rfl
  have hprint : ∀ text world, (print text).run.run world =
      (.ok (), { world with printed := world.printed ++ text }) := fun _ _ => rfl
  unfold Analyzer.describe at hwrite
  rw [Analyzer.drawCallGraph, run_bind_of_ok hbuild, run_bind_of_ok hwrite,
    run_bind_of_ok (hinfo _), run_bind_of_ok (hfiles _), run_bind_of_ok (hset _ _),
    run_bind_of_ok (hprint _ _)]
  dsimp only
  split
  next hnone =>
    rw [artifactsOf, hnone]
    exact ⟨_, rfl, rfl⟩
  next reason hsome =>
    rw [artifactsOf, hsome]
    exact ⟨_, rfl, rfl⟩

end Stages

/-! ## All stages -/

/-- How drawing the call graph of a project goes, for every renderer that could be
at hand. -/
structure DrawsInStages (analyzer : Analyzer) (project : Project) (world : World) : Prop where
  /-- A graph that cannot be put together ends the request with the failure, before
  a file is changed or a renderer is started. -/
  unbuilt : ∀ failure built,
    (analyzer.buildCallGraph project).run.run world = (.error failure, built) →
    built.files = world.files ∧
      ∀ renderer, ((analyzer.drawingWith renderer).drawCallGraph project).run.run world =
        (.error failure, built)
  /-- A description that cannot be written ends the request with the failure, before
  a renderer is started. -/
  unwritten : ∀ graph built failure left,
    (analyzer.buildCallGraph project).run.run world = (.ok graph, built) →
    (analyzer.describe graph).run.run built = (.error failure, left) →
    ∀ renderer, ((analyzer.drawingWith renderer).drawCallGraph project).run.run world =
      (.error failure, left)
  /-- Otherwise the request ends well, whatever the renderer answers. -/
  drawn : ∀ graph built written,
    (analyzer.buildCallGraph project).run.run world = (.ok graph, built) →
    (analyzer.describe graph).run.run built = (.ok (), written) →
    ∀ renderer, ∃ artifacts after,
      ((analyzer.drawingWith renderer).drawCallGraph project).run.run world =
        (.ok artifacts, after) ∧
      artifacts.dotPath = analyzer.settings.graph.dotPath ∧
      artifacts.stats = graph.stats ∧
      (artifacts.imagePath.isSome = true ↔ artifacts.renderError = none) ∧
      (artifacts.renderError = none ↔
        (renderer.draw written.files analyzer.settings.graph.dotPath
          analyzer.settings.graph.imagePath).failure = none) ∧
      after.files = renderer.filesAfter written.files analyzer.settings.graph.dotPath
        analyzer.settings.graph.imagePath
  /-- The description is in its file when a renderer is started, and stays there if
  the renderer leaves it alone. -/
  described : world.files.HasDirectory world.files.current → ∀ graph built written,
    (analyzer.buildCallGraph project).run.run world = (.ok graph, built) →
    (analyzer.describe graph).run.run built = (.ok (), written) →
    written.files.read analyzer.settings.graph.dotPath =
        .ok (encode (graph.toDot analyzer.settings.graph.palette)) ∧
      ∀ renderer : Renderer,
        (renderer.filesAfter written.files analyzer.settings.graph.dotPath
            analyzer.settings.graph.imagePath).read analyzer.settings.graph.dotPath =
          written.files.read analyzer.settings.graph.dotPath →
        (((analyzer.drawingWith renderer).drawCallGraph project).run.run world).2.files.read
            analyzer.settings.graph.dotPath =
          .ok (encode (graph.toDot analyzer.settings.graph.palette))

/-- The call graph of every project is drawn like this, in every world. -/
theorem drawsInStages (analyzer : Analyzer) (project : Project) (world : World) :
    DrawsInStages analyzer project world := by
  have hkept : Keeps World.files (analyzer.buildCallGraph project) :=
    keeps_buildCallGraph (fun _ _ => rfl) analyzer project
  have hbuilt : ∀ outcome built,
      (analyzer.buildCallGraph project).run.run world = (outcome, built) →
      built.files = world.files := by
    intro outcome built hbuild
    have hfiles := hkept world
    rw [hbuild] at hfiles
    exact hfiles
  -- Neither the graph nor its description depends on the renderer.
  have hdrawn : ∀ graph built written,
      (analyzer.buildCallGraph project).run.run world = (.ok graph, built) →
      (analyzer.describe graph).run.run built = (.ok (), written) → ∀ renderer, ∃ after,
        ((analyzer.drawingWith renderer).drawCallGraph project).run.run world =
          (.ok (artifactsOf analyzer.settings.graph graph
            (renderer.draw written.files analyzer.settings.graph.dotPath
              analyzer.settings.graph.imagePath)), after) ∧
        after.files = renderer.filesAfter written.files analyzer.settings.graph.dotPath
          analyzer.settings.graph.imagePath := by
    intro graph built written hbuild hwrite renderer
    exact @run_drawCallGraph (analyzer.drawingWith renderer) _ _ _ _ hbuild _ hwrite
  refine ⟨?_, ?_, ?_, ?_⟩
  · intro failure built hbuild
    exact ⟨hbuilt _ _ hbuild, fun renderer => run_drawCallGraph_of_unbuilt hbuild⟩
  · intro graph built failure left hbuild hwrite renderer
    exact @run_drawCallGraph_of_unwritten (analyzer.drawingWith renderer) _ _ _ _ hbuild _ _
      hwrite
  · intro graph built written hbuild hwrite renderer
    obtain ⟨after, hrun, hfiles⟩ := hdrawn graph built written hbuild hwrite renderer
    exact ⟨_, after, hrun, rfl, rfl, isSome_imagePath_artifactsOf _ _ _,
      Option.map_eq_none_iff, hfiles⟩
  · intro hcurrent graph built written hbuild hwrite
    have hread : written.files.read analyzer.settings.graph.dotPath =
        .ok (encode (graph.toDot analyzer.settings.graph.palette)) := by
      refine read_of_writeDescription ?_ hwrite
      rw [hbuilt _ _ hbuild]
      exact hcurrent
    refine ⟨hread, fun renderer hleft => ?_⟩
    obtain ⟨after, hrun, hfiles⟩ := hdrawn graph built written hbuild hwrite renderer
    rw [hrun, hfiles, hleft, hread]

/-- A directory of sources in which the only file is no text. -/
def binaryWorld : World where
  files := ⟨.directory [("src", .directory [("Binary.java", .file [255])])], []⟩

/-- An analyzer that skips what it cannot read, and draws with a program that
fails. -/
def lenientAnalyzer : Analyzer :=
  .ofSettings [("dot", .fail)] { parsing := { failFast := false } }

theorem discover_binaryWorld :
    discover ".java" binaryWorld.files "src" = .ok ["src/Binary.java"] := by
  have hdirectory : binaryWorld.files.find true "src" =
      .ok (["src"], .directory [("Binary.java", .file [255])]) := rfl
  exact discover_of_flat hdirectory (by simp) (by decide +kernel) (by decide +kernel)
    (by decide +kernel)

theorem outcome_buildCallGraph_binaryWorld :
    outcome (lenientAnalyzer.buildCallGraph ⟨"", "src"⟩) binaryWorld = .ok .empty := by
  rw [outcome_buildCallGraph]
  have hpass : passBelow lenientAnalyzer.settings binaryWorld.files "src" graphUnit .empty =
      (.empty, .ok ⟨0, ["src/Binary.java"]⟩) := by
    unfold passBelow
    rw [show lenientAnalyzer.settings.project.fileMarker = ".java" from rfl,
      discover_binaryWorld]
    rfl
  rw [hpass]
  rfl

/-- The program that draws fails, and the description is there. -/
theorem drawsInStages_binary :
    ∃ artifacts after,
      (lenientAnalyzer.drawCallGraph ⟨"", "src"⟩).run.run binaryWorld =
        (.ok artifacts, after) ∧
      artifacts.imagePath = none ∧
      after.files.read "resources/graphs/callgraph.dot" =
        .ok (encode (Graph.empty.toDot {})) := by
  have hdescribe : ∀ built : World, built.files = binaryWorld.files → ∃ written,
      (lenientAnalyzer.describe .empty).run.run built = (.ok (), written) := by
    rintro ⟨files, printed, shown, log⟩ rfl
    exact ⟨_, rfl⟩
  have hstages := drawsInStages lenientAnalyzer ⟨"", "src"⟩ binaryWorld
  have hbuild : (lenientAnalyzer.buildCallGraph ⟨"", "src"⟩).run.run binaryWorld =
      (.ok .empty, _) := Prod.ext outcome_buildCallGraph_binaryWorld rfl
  have hkept : Keeps World.files (lenientAnalyzer.buildCallGraph ⟨"", "src"⟩) :=
    keeps_buildCallGraph (fun _ _ => rfl) _ _
  obtain ⟨written, hwrite⟩ := hdescribe _ (hkept binaryWorld)
  obtain ⟨artifacts, after, hrun, -, -, himage, herror, -⟩ :=
    hstages.drawn _ _ _ hbuild hwrite lenientAnalyzer.renderer
  have hread := (hstages.described ⟨_, rfl⟩ _ _ _ hbuild hwrite).2
    lenientAnalyzer.renderer rfl
  rw [hrun] at hread
  refine ⟨artifacts, after, hrun, ?_, hread⟩
  rw [← Option.not_isSome_iff_eq_none, himage, herror]
  intro h
  cases h

end JavaSurvey.Analysis
