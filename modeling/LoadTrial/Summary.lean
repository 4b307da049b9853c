/-
The summary of a scenario, read off its tally when every client has ended, and the figures derived from it.
-/
import LoadTrial.Tally

namespace LoadTrial

structure Summary where
  total : UInt64
  successful : UInt64
  failed : UInt64
  timedOut : UInt64
  latencySumMs : UInt64
  /-- absent when nothing was recorded -/
  minLatencyMs : Option UInt64
  /-- absent when nothing was recorded -/
  maxLatencyMs : Option UInt64
  duration : Duration
  deriving DecidableEq, Repr

/-- closes a tally at the end of the time between two instants, given in nanoseconds -/
def Tally.finish (t : Tally) (start finish : Nat) : Summary where
  total := t.total
  successful := t.successful
  failed := t.failed
  timedOut := t.timedOut
  latencySumMs := t.latencySumMs
  minLatencyMs := if 0 < t.total then some t.minLatencyMs else none
  maxLatencyMs := if 0 < t.total then some t.maxLatencyMs else none
  duration := Duration.between start finish

namespace Summary

open Number (Binary64)

def isEmpty (s : Summary) : Bool := s.total == 0

/-- the share of successful requests in percent; none if there was no request -/
def successRate (s : Summary) : Option Binary64 :=
  if s.total == 0 then none
  else some (((Binary64.ofNat s.successful.toNat).mul (Binary64.ofNat 100)).div (Binary64.ofNat s.total.toNat))

/-- the mean latency in whole milliseconds, zero if there was no request -/
def avgLatencyMs (s : Summary) : UInt64 :=
  if s.total == 0 then 0 else s.latencySumMs / s.total

/-- requests per second; zero if no time passed -/
def throughput (s : Summary) : Binary64 :=
  let secs := s.duration.seconds
  if secs.le Binary64.zero then Binary64.zero else (Binary64.ofNat s.total.toNat).div secs

end Summary

end LoadTrial
