/-
What a tally holds after recordings. Every update of a counter commutes with every other (`Tally.apply_comm`), so
only the collection of updates counts and not their order (`Tally.foldl_apply_perm`); recording some outcomes is
applying the updates of all of them (`Tally.recordAll_eq_foldl`).

The invariant `Tally.Counts` says what the counters are worth after some outcomes. The extrema start at the sentinels
that any latency replaces, the largest 64-bit number and zero, which are latencies themselves; the invariant keeps
them as the starting values of a fold, and only a summary takes them away (`Summary.Reports`).

Main result: `Tally.summary_exact`, for fewer than 2^64 outcomes, in which case no counter but the sum wraps.
-/
import Mathlib.Tactic
import LoadTrial.Number.Natural
import LoadTrial.Summary

namespace LoadTrial

/-! ## The order of updates -/

namespace Tally

/-- updates of two counters touch different fields; two of one counter are sums, minima or maxima -/
theorem apply_comm (t : Tally) (u v : Update) : (t.apply u).apply v = (t.apply v).apply u := by
  have hsum : ∀ a b c : UInt64, a + b + c = a + c + b := fun a b c => by
    rw [UInt64.add_assoc, UInt64.add_comm b c, ← UInt64.add_assoc]
  cases u with
  | count => cases v with
    | classify k => cases k <;> rfl
    | _ => rfl
  | classify k => cases v with
    | classify l => cases k <;> cases l <;> rfl
    | _ => cases k <;> rfl
  | addLatency a => cases v with
    | classify k => cases k <;> rfl
    | addLatency b => simp only [apply, hsum]
    | _ => rfl
  | lowerMin a => cases v with
    | classify k => cases k <;> rfl
    | lowerMin b => simp only [apply, mk.injEq, true_and, and_true]; grind
    | _ => rfl
  | raiseMax a => cases v with
    | classify k => cases k <;> rfl
    | raiseMax b => simp only [apply, mk.injEq, true_and]; grind
    | _ => rfl

/-- the order of updates does not count -/
theorem foldl_apply_perm {us vs : List Update} (h : us.Perm vs) (t : Tally) : us.foldl apply t = vs.foldl apply t :=
  h.foldl_eq' (fun u _ v _ t => apply_comm t u v) t

/-- recording is applying the updates of every outcome -/
theorem recordAll_eq_foldl (t : Tally) (os : List Outcome) : t.recordAll os = (os.flatMap updates).foldl apply t := by
  induction os generalizing t with
  | nil => rfl
  | cons o os ih =>
    rw [List.flatMap_cons, List.foldl_append, ← ih]
    rfl

end Tally

/-! ## The invariant -/

namespace Outcome

/-- the latencies of some outcomes, in order -/
def latencies (os : List Outcome) : List UInt64 := os.map (·.latencyMs)

/-- the sum of the latencies of some outcomes, not cut to 64 bits -/
def latencySum (os : List Outcome) : Nat := Number.total (os.map (·.latencyMs.toNat))

/-- counted as a success: time did not run out -/
def isSuccess (o : Outcome) : Bool := o.success && !o.timedOut

/-- counted as a failure: neither a success nor out of time -/
def isFailure (o : Outcome) : Bool := !o.success && !o.timedOut

theorem latencySum_append (os os' : List Outcome) : latencySum (os ++ os') = latencySum os + latencySum os' := by
  simp [latencySum]

/-- every outcome is in exactly one class -/
theorem length_eq_classes (os : List Outcome) :
    os.length = os.countP isSuccess + os.countP isFailure + os.countP (·.timedOut) := by
  induction os with
  | nil => rfl
  | cons o os ih =>
    simp only [List.length_cons, List.countP_cons, isSuccess, isFailure] at ih ⊢
    rcases o with ⟨success, latencyMs, timedOut⟩
    cases success <;> cases timedOut <;> simp <;> omega

end Outcome

open Outcome (latencies latencySum)

/-- the counters of a tally that started empty stand for some outcomes; without outcomes the extrema are sentinels -/
structure Tally.Counts (t : Tally) (os : List Outcome) : Prop where
  total : t.total = UInt64.ofNat os.length
  successful : t.successful = UInt64.ofNat (os.countP Outcome.isSuccess)
  failed : t.failed = UInt64.ofNat (os.countP Outcome.isFailure)
  timedOut : t.timedOut = UInt64.ofNat (os.countP (·.timedOut))
  latencySumMs : t.latencySumMs = UInt64.ofNat (latencySum os)
  minLatencyMs : t.minLatencyMs = (latencies os).foldl min 0xFFFFFFFFFFFFFFFF
  maxLatencyMs : t.maxLatencyMs = (latencies os).foldl max 0

namespace Tally

theorem counts_empty : Counts empty [] := by
  constructor <;> simp [empty, latencySum, latencies]

/-- keeping the smaller of two latencies is taking their minimum -/
theorem lower_eq_min (a b : UInt64) : (if a < b then a else b) = min b a := by
  show (if a < b then a else b) = if b ≤ a then b else a
  grind

/-- keeping the larger of two latencies is taking their maximum -/
theorem raise_eq_max (a b : UInt64) : (if b < a then a else b) = max b a := by
  show (if b < a then a else b) = if b ≤ a then a else b
  grind

/-- a recording counts one outcome, in one class, and takes its latency into the sum and the extrema -/
theorem record_eq (t : Tally) (o : Outcome) : t.record o =
    { total := t.total + 1
      successful := t.successful + if o.isSuccess then 1 else 0
      failed := t.failed + if o.isFailure then 1 else 0
      timedOut := t.timedOut + if o.timedOut then 1 else 0
      latencySumMs := t.latencySumMs + o.latencyMs
      minLatencyMs := min t.minLatencyMs o.latencyMs
      maxLatencyMs := max t.maxLatencyMs o.latencyMs } := by
  rcases o with ⟨success, latencyMs, timedOut⟩
  cases success <;> cases timedOut <;>
    simp [record, updates, Outcome.kind, apply, Outcome.isSuccess, Outcome.isFailure, lower_eq_min, raise_eq_max]

theorem counts_record {t : Tally} {os : List Outcome} (h : t.Counts os) (o : Outcome) :
    (t.record o).Counts (os ++ [o]) := by
  rw [record_eq]
  constructor
  case total => simp [UInt64.ofNat_add, h.total]
  case successful => simp [UInt64.ofNat_add, apply_ite UInt64.ofNat, h.successful]
  case failed => simp [UInt64.ofNat_add, apply_ite UInt64.ofNat, h.failed]
  case timedOut => simp [UInt64.ofNat_add, apply_ite UInt64.ofNat, h.timedOut]
  case latencySumMs =>
    rw [Outcome.latencySum_append, UInt64.ofNat_add, h.latencySumMs]
    simp [latencySum]
  case minLatencyMs => simp [h.minLatencyMs, latencies]
  case maxLatencyMs => simp [h.maxLatencyMs, latencies]

theorem counts_recordAll {t : Tally} {os : List Outcome} (h : t.Counts os) (os' : List Outcome) :
    (t.recordAll os').Counts (os ++ os') := by
  induction os' generalizing t os with
  | nil => rwa [List.append_nil]
  | cons o os' ih =>
    rw [List.append_cons]
    exact ih (counts_record h o)

end Tally

/-! ## Summaries -/

/-- any latency replaces the sentinel of the minimum -/
theorem foldl_min_sentinel {l : List UInt64} (h : l ≠ []) : some (l.foldl min 0xFFFFFFFFFFFFFFFF) = l.min? := by
  cases l with
  | nil => exact absurd rfl h
  | cons a l =>
    have ha : min 0xFFFFFFFFFFFFFFFF a = a := by
      rw [← Tally.lower_eq_min]
      grind
    rw [List.foldl_cons, ha, List.min?_cons']

/-- any latency replaces the sentinel of the maximum -/
theorem foldl_max_sentinel {l : List UInt64} (h : l ≠ []) : some (l.foldl max 0) = l.max? := by
  cases l with
  | nil => exact absurd rfl h
  | cons a l =>
    have ha : max 0 a = a := by
      rw [← Tally.raise_eq_max]
      grind
    rw [List.foldl_cons, ha, List.max?_cons']

/-- a summary of some outcomes, with counters as exact as 64 bits allow -/
structure Summary.Reports (s : Summary) (os : List Outcome) : Prop where
  total : s.total = UInt64.ofNat os.length
  successful : s.successful = UInt64.ofNat (os.countP Outcome.isSuccess)
  failed : s.failed = UInt64.ofNat (os.countP Outcome.isFailure)
  timedOut : s.timedOut = UInt64.ofNat (os.countP (·.timedOut))
  latencySumMs : s.latencySumMs = UInt64.ofNat (latencySum os)
  minLatencyMs : s.minLatencyMs = if s.total = 0 then none else (latencies os).min?
  maxLatencyMs : s.maxLatencyMs = if s.total = 0 then none else (latencies os).max?

/-- closing a tally takes the sentinels away -/
theorem Tally.Counts.reports {t : Tally} {os : List Outcome} (h : t.Counts os) (start finish : Nat) :
    (t.finish start finish).Reports os := by
  have hne : ¬ t.total = 0 → latencies os ≠ [] := by
    intro ht hos
    apply ht
    rw [h.total, List.map_eq_nil_iff.1 hos]
    rfl
  have hpos : 0 < t.total ↔ ¬ t.total = 0 := by grind
  constructor
  case total => exact h.total
  case successful => exact h.successful
  case failed => exact h.failed
  case timedOut => exact h.timedOut
  case latencySumMs => exact h.latencySumMs
  case minLatencyMs =>
    by_cases ht : t.total = 0
    · simp [Tally.finish, ht]
    · simp [Tally.finish, ht, hpos, h.minLatencyMs, foldl_min_sentinel (hne ht)]
  case maxLatencyMs =>
    by_cases ht : t.total = 0
    · simp [Tally.finish, ht]
    · simp [Tally.finish, ht, hpos, h.maxLatencyMs, foldl_max_sentinel (hne ht)]

/-- **Aggregation is exact.** Instants are given by the time since the clock started, which has 64 bits of seconds. -/
theorem Tally.summary_exact (os : List Outcome) (start finish : Duration) (h : os.length < UInt64.size) :
    let s := (Tally.empty.recordAll os).finish start.toNanos finish.toNanos
    s.total.toNat = os.length ∧
      s.timedOut.toNat = os.countP (fun o => o.timedOut) ∧
      s.successful.toNat = os.countP (fun o => o.success && !o.timedOut) ∧
      s.failed.toNat = os.length - s.timedOut.toNat - s.successful.toNat ∧
      s.total.toNat = s.successful.toNat + s.failed.toNat + s.timedOut.toNat ∧
      s.latencySumMs.toNat = Number.total (os.map fun o => o.latencyMs.toNat) % UInt64.size ∧
      s.minLatencyMs = (os.map fun o => o.latencyMs).min? ∧
      s.maxLatencyMs = (os.map fun o => o.latencyMs).max? ∧
      (start.toNanos ≤ finish.toNanos → s.duration.toNanos = finish.toNanos - start.toNanos) ∧
      (finish.toNanos < start.toNanos → s.duration = .zero) := by
  intro s
  have hs : s.Reports os := (counts_recordAll counts_empty os).reports _ _
  have hclasses := Outcome.length_eq_classes os
  have htotal : s.total.toNat = os.length := by
    rw [hs.total, UInt64.toNat_ofNat_of_lt' h]
  have htimedOut : s.timedOut.toNat = os.countP (·.timedOut) := by
    rw [hs.timedOut, UInt64.toNat_ofNat_of_lt' (by omega)]
  have hsuccessful : s.successful.toNat = os.countP Outcome.isSuccess := by
    rw [hs.successful, UInt64.toNat_ofNat_of_lt' (by omega)]
  have hfailed : s.failed.toNat = os.countP Outcome.isFailure := by
    rw [hs.failed, UInt64.toNat_ofNat_of_lt' (by omega)]
  -- a counter of fewer than 2^64 outcomes is zero only without outcomes
  have hempty : s.total = 0 → os = [] := by
    intro h0
    rw [h0] at htotal
    exact List.eq_nil_of_length_eq_zero htotal.symm
  refine ⟨htotal, htimedOut, hsuccessful, by omega, by omega, ?_, ?_, ?_, ?_, ?_⟩
  · rw [hs.latencySumMs]
    exact UInt64.toNat_ofNat'
  · rw [hs.minLatencyMs]
    split_ifs with h0
    · rw [hempty h0]
      rfl
    · rfl
  · rw [hs.maxLatencyMs]
    split_ifs with h0
    · rw [hempty h0]
      rfl
    · rfl
  · intro _
    exact Duration.toNanos_ofNanos (lt_of_le_of_lt (Nat.sub_le _ _) finish.toNanos_lt)
  · intro hlt
    show Duration.ofNanos (finish.toNanos - start.toNanos) = .zero
    rw [Nat.sub_eq_zero_of_le hlt.le]
    rfl

/-- latencies at both sentinels, a success for which time ran out, and a sum that wraps -/
def extremeOutcomes : List Outcome :=
  [⟨true, 0, true⟩, ⟨true, 0xFFFFFFFFFFFFFFFF, false⟩, ⟨false, 0xFFFFFFFFFFFFFFFF, false⟩]

theorem Tally.extreme_summary :
    extremeOutcomes.length < UInt64.size ∧
      let s := (Tally.empty.recordAll extremeOutcomes).finish (Duration.toNanos ⟨5, 0⟩) (Duration.toNanos ⟨3, 7⟩)
      s.total.toNat = 3 ∧ s.timedOut.toNat = 1 ∧ s.successful.toNat = 1 ∧ s.failed.toNat = 1 ∧
        s.latencySumMs.toNat = UInt64.size - 2 ∧ s.minLatencyMs = some 0 ∧
        s.maxLatencyMs = some 0xFFFFFFFFFFFFFFFF ∧ s.duration = .zero := by
  have hlt : extremeOutcomes.length < UInt64.size := by decide
  obtain ⟨htotal, htimedOut, hsuccessful, -, hclasses, hsum, hmin, hmax, -, hzero⟩ :=
    summary_exact extremeOutcomes ⟨5, 0⟩ ⟨3, 7⟩ hlt
  have h1 : extremeOutcomes.countP (fun o => o.timedOut) = 1 := by decide
  have h2 : extremeOutcomes.countP (fun o => o.success && !o.timedOut) = 1 := by decide
  have h3 : extremeOutcomes.length = 3 := by decide
  refine ⟨hlt, htotal, htimedOut, hsuccessful, by omega, hsum.trans (by decide), hmin.trans (by decide),
    hmax.trans (by decide), hzero (by decide)⟩

end LoadTrial
