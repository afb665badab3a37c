import JavaSurvey.Analysis.Analyzer

/-!
# What requests leave alone

Most steps of a request change one part of the world and leave the others alone.
A view of the world that every step leaves alone is the same after the request as
before it, whether the request fails or not. A pass over source files and the call
graph that is put together from it change the log only.

## Main results

* `run_bind_of_ok`, `run_bind_of_error`, `exists_of_run_bind_ok`: a request goes on
  with the result of its first step, or fails with it.
* `Keeps.bind`: a view that every step leaves alone.
* `keeps_forEachUnit`, `keeps_buildCallGraph`: passes over source files.
-/

namespace JavaSurvey.Analysis

variable {α β γ : Type}

/-! ## Steps -/

section Steps

variable {request : Request α} {next : α → Request β} {world after : World}

theorem run_bind_of_ok {value : α} (h : request.run.run world = (.ok value, after)) :
    (request >>= next).run.run world = (next value).run.run after := by
  show (ExceptT.bindCont next (request.run.run world).1).run (request.run.run world).2 = _
  rw [h]
  rfl

theorem run_bind_of_error {failure : Failure}
    (h : request.run.run world = (.error failure, after)) :
    (request >>= next).run.run world = (.error failure, after) := by
  show (ExceptT.bindCont next (request.run.run world).1).run (request.run.run world).2 = _
  rw [h]
  rfl

/-- A request that ends well has taken its first step. -/
theorem exists_of_run_bind_ok {result : β}
    (h : (request >>= next).run.run world = (.ok result, after)) :
    ∃ value between, request.run.run world = (.ok value, between) ∧
      (next value).run.run between = (.ok result, after) := by
  rcases hrun : request.run.run world with ⟨failure | value, between⟩
  · rw [run_bind_of_error hrun] at h
    cases h
  · rw [run_bind_of_ok hrun] at h
    exact ⟨value, between, rfl, h⟩

end Steps

/-! ## Views -/

/-- A request leaves a view of the world alone. -/
def Keeps (view : World → γ) (request : Request α) : Prop :=
  ∀ world, view (request.run.run world).2 = view world

variable {view : World → γ}

theorem Keeps.bind {request : Request α} {next : α → Request β}
    (hrequest : Keeps view request) (hnext : ∀ value, Keeps view (next value)) :
    Keeps view (request >>= next) := by
  intro world
  rcases hrun : request.run.run world with ⟨failure | value, after⟩
  · have hkept := hrequest world
    rw [hrun] at hkept
    rw [run_bind_of_error hrun]
    exact hkept
  · have hkept := hrequest world
    rw [hrun] at hkept
    rw [run_bind_of_ok hrun]
    exact (hnext value after).trans hkept

theorem keeps_of_except (result : Except Failure α) :
    Keeps view (liftM result : Request α) := by
  intro world
  cases result <;> rfl

theorem keeps_pure (value : α) : Keeps view (pure value) :=
  fun _ => rfl

section Log

variable (hlog : ∀ world log, view { world with log := log } = view world)

include hlog

theorem keeps_note (level : Level) (message : String) :
    Keeps view (liftM (note level message) : Request Unit) :=
  fun world => hlog world _

/-- A pass over source files only writes to the log. -/
theorem keeps_forEachUnit {σ : Type} (settings : Config.Settings) (directory : String)
    (consume : Consumer σ) (state : σ) :
    Keeps view (liftM (forEachUnit settings directory consume state) :
      Request (σ × Except Failure Summary)) := by
  have hnotes : ∀ (skips : List (String × Failure)) (world : World),
      view ((forIn skips PUnit.unit fun skip _ => do
        note .warn s!"Skipping {skip.1}: {skip.2.message}"
        pure (ForInStep.yield PUnit.unit) : StateM World PUnit).run world).2 =
        view world := by
    intro skips
    induction skips with
    | nil => exact fun _ => rfl
    | cons skip rest ih =>
        intro world
        rw [List.forIn_cons]
        exact (ih _).trans (hlog world _)
  intro world
  show view ((forEachUnit settings directory consume state).run world).2 = _
  simp only [forEachUnit, StateT.run, bind, StateT.bind, get, getThe,
    MonadStateOf.get, StateT.get, pure]
  cases discover settings.project.fileMarker world.files directory with
  | error failure => rfl
  | ok paths => exact hnotes _ world

theorem keeps_buildCallGraph (analyzer : Analyzer) (project : Project) :
    Keeps view (analyzer.buildCallGraph project) := by
  refine (keeps_note hlog _ _).bind fun _ => ?_
  refine (keeps_forEachUnit hlog _ _ _ _).bind fun pass => ?_
  refine (keeps_of_except pass.2).bind fun summary => ?_
  exact (keeps_note hlog _ _).bind fun _ => keeps_pure _

end Log

end JavaSurvey.Analysis
