/-
Scenarios of a suite do not touch one another, and the order of the workers' steps does not show in a result.

At the end of a scenario everything in its result but its identifier and its duration is told by the plan and the
clients alone (`State.result_steps`); `Suite.entryAlone` is that part of an entry, for the scenario run by itself.
`Suite.Executes plans runs` says that the scenarios of `plans` were run one after the other, each to its end, with
the steps of its workers in any order. A suite whose clients do not look at what ran before is such an execution
(`runAfter_executes`), and every execution is the map of `entryAlone` over the plans (`Executes.timeless_entries`).
-/
import Mathlib.Tactic
import LoadTrial.Proofs.Conservation
import LoadTrial.Run.Suite

namespace LoadTrial

namespace Scenario

/-- a result without what differs from one run to the next: its identifier, and how long the run took -/
def Result.timeless (r : Result) : Result :=
  { r with runId := ⟨0⟩, summary := { r.summary with duration := .zero } }

/-- a verdict does not depend on how long the run took -/
theorem passes_finish (c : Criterion) (t : Tally) (start finish start' finish' : Nat) :
    c.passes (t.finish start finish) = c.passes (t.finish start' finish') :=
  rfl

/-- the tally and the failed workers are all that a result takes from the end of a scenario, but for the time -/
theorem State.result_timeless {s s' : State} (htally : s.tally = s'.tally)
    (hfailed : s.failedWorkers = s'.failedWorkers) (criterion : Criterion) (runId runId' : RunId) (plan : Plan) :
    (s.result criterion runId plan).timeless = (s'.result criterion runId' plan).timeless := by
  have hpasses := passes_finish criterion s'.tally 0 (s.clockMs * 1000000) 0 (s'.clockMs * 1000000)
  simp only [result, Result.timeless, htally, hfailed, hpasses]
  simp only [Tally.finish]

/-- two orders of steps that bring a scenario to its end come to one result -/
theorem State.result_steps (criterion : Criterion) (runId runId' : RunId) (plan : Plan) (setup : Nat → Setup)
    {schedule schedule' : List Nat} (h : ((start plan setup).steps schedule).isDone = true)
    (h' : ((start plan setup).steps schedule').isDone = true) :
    (((start plan setup).steps schedule).result criterion runId plan).timeless =
      (((start plan setup).steps schedule').result criterion runId' plan).timeless := by
  apply result_timeless
  · rw [tally_steps_of_isDone plan setup h, tally_steps_of_isDone plan setup h']
  · rw [failedWorkers_steps_of_isDone plan setup h, failedWorkers_steps_of_isDone plan setup h']

/-- `run` is a run of a plan to its end, with the steps of the workers in some order -/
def IsRunOf (criterion : Criterion) (setup : Plan → Nat → Setup) (plan : Plan) (run : Run) : Prop :=
  ∃ (runId : RunId) (schedule : List Nat), ((State.start plan (setup plan)).steps schedule).isDone = true ∧
    run = ⟨plan, (State.start plan (setup plan)).steps schedule,
      ((State.start plan (setup plan)).steps schedule).result criterion runId plan⟩

/-- a run by the clock is one of them -/
theorem run_isRunOf (criterion : Criterion) (runId : RunId) (setup : Plan → Nat → Setup) (plan : Plan) :
    IsRunOf criterion setup plan (run criterion runId (setup plan) plan) := by
  obtain ⟨schedule, hs, hdone⟩ := (State.start plan (setup plan)).finish_eq_steps
  refine ⟨runId, schedule, hs ▸ hdone, ?_⟩
  rw [run, hs]

end Scenario

namespace Suite

open Scenario (IsRunOf State)

/-- an entry without what differs from one run to the next -/
def Entry.timeless (e : Entry) : Entry :=
  { e with result := e.result.map Scenario.Result.timeless }

/-- the entry of a scenario that is run by itself -/
def entryAlone (criterion : Criterion) (setup : Plan → Nat → Setup) (plan : Plan) : Entry :=
  (entryOf (Scenario.run criterion ⟨0⟩ (setup plan) plan)).timeless

/-- the scenarios of some plans were run one after the other, each to its end -/
def Executes (criterion : Criterion) (setup : Plan → Nat → Setup) (plans : List Plan) (runs : List Scenario.Run) :
    Prop :=
  List.Forall₂ (IsRunOf criterion setup) plans runs

variable {criterion : Criterion} {setup : Plan → Nat → Setup} {plans : List Plan} {runs : List Scenario.Run}

theorem timeless_entryOf {plan : Plan} {run : Scenario.Run} (h : IsRunOf criterion setup plan run) :
    (entryOf run).timeless = entryAlone criterion setup plan := by
  obtain ⟨runId, schedule, hdone, rfl⟩ := h
  obtain ⟨runId', schedule', hdone', hrun⟩ := Scenario.run_isRunOf criterion ⟨0⟩ setup plan
  have hresult := Scenario.State.result_steps criterion runId runId' plan (setup plan) hdone hdone'
  have hpassed := congrArg Scenario.Result.passed hresult
  rw [entryAlone, hrun]
  simp only [entryOf, Entry.timeless, Option.map_some, hresult]
  exact congrArg (fun passed => (⟨plan.label, passed, _⟩ : Entry)) hpassed

/-- a suite is the map over its plans of the scenarios run by themselves -/
theorem Executes.timeless_entries (h : Executes criterion setup plans runs) :
    (ofRuns runs).entries.map Entry.timeless = plans.map (entryAlone criterion setup) := by
  rw [ofRuns, List.map_map]
  induction h with
  | nil => rfl
  | cons head _ ih => rw [List.map_cons, List.map_cons, ih, Function.comp_apply, timeless_entryOf head]

/-- every entry has the label of its plan, and the verdict of the result in it -/
theorem Executes.entries_eq (h : Executes criterion setup plans runs) :
    (ofRuns runs).entries.map (·.label) = plans.map (·.label) ∧
      ∀ e ∈ (ofRuns runs).entries, ∃ r, e = ⟨r.label, r.passed, some r⟩ := by
  induction h with
  | nil => exact ⟨rfl, fun _ he => absurd he List.not_mem_nil⟩
  | @cons plan run plans runs head _ ih =>
    obtain ⟨runId, schedule, -, rfl⟩ := head
    obtain ⟨hlabels, hentries⟩ := ih
    refine ⟨congrArg (plan.label :: ·) hlabels, ?_⟩
    rintro e (_ | ⟨_, he⟩)
    · exact ⟨State.result criterion runId plan _, rfl⟩
    · exact hentries e he

/-- clients that do not look at what ran before make every suite an execution, whatever ran before it -/
theorem runAfter_executes (criterion : Criterion) (runIds : Nat → RunId) (setup : Plan → Nat → Setup)
    (before : List Scenario.Run) (plans : List Plan) :
    Executes criterion setup plans (runAfter criterion runIds (fun _ => setup) before plans) := by
  induction plans generalizing before with
  | nil => exact .nil
  | cons plan plans ih => exact .cons (Scenario.run_isRunOf criterion _ setup plan) (ih _)

end Suite

end LoadTrial
