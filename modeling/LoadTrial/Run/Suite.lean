/-
Running a suite: its scenarios one after the other, each to its end, whatever the verdicts on those before.
-/
import LoadTrial.Run.Scenario

namespace LoadTrial

/-- the verdict on one scenario -/
structure Suite.Entry where
  label : String
  passed : Bool
  /-- absent if the scenario could not be summed up, as in a suite that is read from its document; a run always sums
  up its scenarios -/
  result : Option Scenario.Result
  deriving DecidableEq

/-- the verdicts on the scenarios of a suite, in order -/
structure Suite where
  entries : List Suite.Entry := []
  deriving DecidableEq

namespace Suite

def allPassed (s : Suite) : Bool :=
  s.entries.all (·.passed)

def passedCount (s : Suite) : Nat :=
  s.entries.countP (·.passed)

/-- the exit status of the program: zero if all scenarios passed -/
def exitCode (s : Suite) : Nat :=
  if s.allPassed then 0 else 1

/-- sets clients up: for the scenarios that ran before, the plan, and the number of the worker -/
abbrev Factory := List Scenario.Run → Plan → Nat → Setup

/-- runs scenarios behind others that ran before -/
def runAfter (criterion : Criterion) (runIds : Nat → RunId) (factory : Factory) (before : List Scenario.Run) :
    List Plan → List Scenario.Run
  | [] => []
  | plan :: plans =>
    let run := Scenario.run criterion (runIds before.length) (factory before plan) plan
    run :: runAfter criterion runIds factory (before ++ [run]) plans

/-- runs the scenarios of some plans -/
def run (criterion : Criterion) (runIds : Nat → RunId) (factory : Factory) (plans : List Plan) :
    List Scenario.Run :=
  runAfter criterion runIds factory [] plans

/-- the entry of a scenario that was run. It has a result: a tally is closed when all workers have ended, and none of them
holds it then, so closing is not refused -/
def entryOf (r : Scenario.Run) : Entry :=
  ⟨r.plan.label, r.result.passed, some r.result⟩

/-- the verdicts on scenarios that were run -/
def ofRuns (runs : List Scenario.Run) : Suite :=
  ⟨runs.map entryOf⟩

/-- the time that scenarios took one after the other, in milliseconds -/
def elapsedMs (runs : List Scenario.Run) : Nat :=
  Number.total (runs.map (·.state.clockMs))

end Suite

end LoadTrial
