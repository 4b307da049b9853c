/-
The outcome of one request: whether the coordinator signed, how long it took, and whether time ran out.
-/
import LoadTrial.Duration

namespace LoadTrial

/-- the three classes of outcomes -/
inductive Outcome.Kind where
  | success
  | failed
  | timedOut
  deriving DecidableEq, Repr

structure Outcome where
  success : Bool
  latencyMs : UInt64
  timedOut : Bool
  deriving DecidableEq, Repr

namespace Outcome

/-- the coordinator accepted and signed the request -/
def succeeded (latency : Duration) : Outcome := ⟨true, latency.toMillis, false⟩

/-- the request failed, but not for lack of time -/
def failed (latency : Duration) : Outcome := ⟨false, latency.toMillis, false⟩

/-- the request took longer than it may -/
def ranOut (latency : Duration) : Outcome := ⟨false, latency.toMillis, true⟩

/-- the class an outcome is counted in; running out of time goes before success, so the classes are disjoint -/
def kind (o : Outcome) : Kind :=
  if o.timedOut then .timedOut else if o.success then .success else .failed

end Outcome

end LoadTrial
