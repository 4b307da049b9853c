/-
Running a scenario. All workers start at once and share one tally; their steps may come in any order. The clock
stands still while a worker acts and moves on when every worker waits, so the worker that goes on first is the
one with the least waking time. The scenario is over when all workers are.
-/
import LoadTrial.Criterion
import LoadTrial.Run.RunId
import LoadTrial.Run.Worker
import LoadTrial.Settings.Basic

namespace LoadTrial.Scenario

/-! ## Steps -/

structure State where
  workers : List Worker
  tally : Tally := .empty
  clockMs : Nat := 0
  /-- the identifiers of the requests issued, the latest first -/
  requests : List String := []

namespace State

/-- all workers of a plan before their first steps. Whatever number of them the plan names, their handles are taken to fit
into memory. Pauses are counted in whole milliseconds, as settings give them; what a pause has beyond these is dropped -/
def start (plan : Plan) (setup : Nat → Setup) : State where
  workers := (List.range plan.numClients.toNat).map fun id =>
    Worker.start id plan.requestsPerClient.toNat plan.requestDelay.millis (setup id)

/-- the effect of what a worker did on what all share -/
def take (s : State) : Option Worker.Event → State
  | none => s
  | some (.request id) => { s with requests := id :: s.requests }
  | some (.update u) => { s with tally := s.tally.apply u }

/-- one step of the worker at a place of the list, which happens at the worker's waking time -/
def step (s : State) (i : Nat) : State :=
  match s.workers[i]? with
  | none => s
  | some w =>
    let (w', event) := w.step
    { s with workers := s.workers.set i w', clockMs := max s.clockMs w.wakeMs }.take event

/-- all workers are over -/
def isDone (s : State) : Bool :=
  s.workers.all Worker.isDone

/-- steps of workers in a given order -/
def steps (s : State) (schedule : List Nat) : State :=
  schedule.foldl step s

/-- among workers from place `i` on: the place of the one that wakes first, with its waking time -/
def earliest (i : Nat) : List Worker → Option (Nat × Nat)
  | [] => none
  | w :: ws =>
    let later := earliest (i + 1) ws
    if w.isDone then later
    else match later with
      | some (j, wake) => if wake < w.wakeMs then some (j, wake) else some (i, w.wakeMs)
      | none => some (i, w.wakeMs)

/-- the place of the worker that goes on next; none if all are over -/
def next? (s : State) : Option Nat :=
  (earliest 0 s.workers).map (·.1)

/-- how many steps all workers have before them at most -/
def stepsLeft (s : State) : Nat :=
  Number.total (s.workers.map Worker.stepsLeft)

/-- lets workers go on by the clock, for a number of steps at most -/
def drive : Nat → State → State
  | 0, s => s
  | fuel + 1, s => match s.next? with
    | none => s
    | some i => drive fuel (s.step i)

/-- lets all workers go on to their ends -/
def finish (s : State) : State :=
  drive s.stepsLeft s

/-- how many workers had no client, or one that broke down -/
def failedWorkers (s : State) : Nat :=
  s.workers.countP (·.phase == .failed)

end State

/-! ## Results -/

/-- what is reported of a scenario that was run -/
structure Result where
  runId : RunId
  label : String
  numClients : UInt64
  failedWorkers : UInt64
  summary : Summary
  passed : Bool
  deriving DecidableEq

/-- a scenario that is over -/
structure Run where
  plan : Plan
  state : State
  result : Result

/-- reads the result off the state at the end -/
def State.result (criterion : Criterion) (runId : RunId) (plan : Plan) (s : State) : Result :=
  let summary := s.tally.finish 0 (s.clockMs * 1000000)
  { runId
    label := plan.label
    numClients := plan.numClients
    failedWorkers := UInt64.ofNat s.failedWorkers
    summary
    passed := criterion.passes summary }

/-- runs a scenario -/
def run (criterion : Criterion) (runId : RunId) (setup : Nat → Setup) (plan : Plan) : Run :=
  let s := (State.start plan setup).finish
  ⟨plan, s, s.result criterion runId plan⟩

end LoadTrial.Scenario
