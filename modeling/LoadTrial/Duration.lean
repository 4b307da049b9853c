/-
Lengths of time, as whole seconds and nanoseconds below one second.
-/
import LoadTrial.Number.Binary64

namespace LoadTrial

structure Duration where
  secs : UInt64
  nanos : Fin 1000000000
  deriving DecidableEq, Repr

namespace Duration

def zero : Duration := ⟨0, 0⟩

/-- whole seconds, and what is left of some nanoseconds beyond whole seconds -/
def ofParts (secs : UInt64) (nanos : Nat) : Duration :=
  ⟨secs, Fin.ofNat 1000000000 nanos⟩

/-- a number of nanoseconds as a duration; seconds beyond 64 bits wrap, which takes 584 billion years -/
def ofNanos (n : Nat) : Duration :=
  ofParts (UInt64.ofNat (n / 1000000000)) n

def ofSecs (n : UInt64) : Duration := ⟨n, 0⟩

def ofMillis (n : UInt64) : Duration :=
  ofNanos (n.toNat * 1000000)

/-- whole milliseconds -/
def millis (d : Duration) : Nat :=
  d.secs.toNat * 1000 + d.nanos.val / 1000000

/-- whole milliseconds, at most the largest 64-bit number -/
def toMillis (d : Duration) : UInt64 :=
  UInt64.ofNat (min d.millis (UInt64.size - 1))

/-- nanoseconds -/
def toNanos (d : Duration) : Nat :=
  d.secs.toNat * 1000000000 + d.nanos.val

/-- the time between two instants in nanoseconds; zero if the later one comes first -/
def between (start finish : Nat) : Duration :=
  ofNanos (finish - start)

theorem toNanos_lt (d : Duration) : d.toNanos < UInt64.size * 1000000000 := by
  have hsecs : d.secs.toNat < UInt64.size := d.secs.toNat_lt_size
  have hnanos : d.nanos.val < 1000000000 := d.nanos.isLt
  unfold toNanos
  omega

/-- nanoseconds of fewer than 2^64 seconds are kept -/
theorem toNanos_ofNanos {n : Nat} (h : n < UInt64.size * 1000000000) : (ofNanos n).toNanos = n := by
  have hsecs : n / 1000000000 < UInt64.size := Nat.div_lt_of_lt_mul (by omega)
  simp only [toNanos, ofNanos, ofParts, UInt64.toNat_ofNat_of_lt' hsecs, Fin.ofNat]
  omega

/-- seconds as a double: the two parts are converted and divided apart, and then added -/
def seconds (d : Duration) : Number.Binary64 :=
  (Number.Binary64.ofNat d.secs.toNat).add
    ((Number.Binary64.ofNat d.nanos.val).div (Number.Binary64.ofNat 1000000000))

end Duration

end LoadTrial
