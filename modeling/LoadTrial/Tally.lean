/-
The tally of a scenario: seven 64-bit counters that all clients of the scenario share. Recording an outcome is a
row of single updates, each of one counter, so that recordings may interleave; every update commutes with every
other. The tally is read once, at the end, as a summary.
-/
import LoadTrial.Outcome

namespace LoadTrial

structure Tally where
  total : UInt64
  successful : UInt64
  failed : UInt64
  timedOut : UInt64
  latencySumMs : UInt64
  minLatencyMs : UInt64
  maxLatencyMs : UInt64
  deriving DecidableEq, Repr

namespace Tally

/-- nothing recorded: any latency is a new minimum and a new maximum -/
def empty : Tally := ⟨0, 0, 0, 0, 0, 0xFFFFFFFFFFFFFFFF, 0⟩

/-- one change of one counter; sums wrap around -/
inductive Update where
  | count
  | classify (kind : Outcome.Kind)
  | addLatency (ms : UInt64)
  | lowerMin (ms : UInt64)
  | raiseMax (ms : UInt64)
  deriving DecidableEq, Repr

def apply (t : Tally) : Update → Tally
  | .count => { t with total := t.total + 1 }
  | .classify .success => { t with successful := t.successful + 1 }
  | .classify .failed => { t with failed := t.failed + 1 }
  | .classify .timedOut => { t with timedOut := t.timedOut + 1 }
  | .addLatency ms => { t with latencySumMs := t.latencySumMs + ms }
  | .lowerMin ms => { t with minLatencyMs := if ms < t.minLatencyMs then ms else t.minLatencyMs }
  | .raiseMax ms => { t with maxLatencyMs := if t.maxLatencyMs < ms then ms else t.maxLatencyMs }

/-- the updates that record an outcome, in their order -/
def updates (o : Outcome) : List Update :=
  [.count, .classify o.kind, .addLatency o.latencyMs, .lowerMin o.latencyMs, .raiseMax o.latencyMs]

/-- records one outcome -/
def record (t : Tally) (o : Outcome) : Tally :=
  (updates o).foldl apply t

/-- records outcomes in order -/
def recordAll (t : Tally) (os : List Outcome) : Tally :=
  os.foldl record t

end Tally

end LoadTrial
