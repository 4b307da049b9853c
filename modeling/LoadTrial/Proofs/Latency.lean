/-
The mean latency of a summary.

The sum of latencies wraps around at 2^64, and the mean is its quotient by the number of outcomes, rounded down. What a
wrapped sum has lost is a multiple of 2^64; with fewer outcomes than that, the quotient falls short by one at least,
whatever the sum wrapped to (`mod_div_lt_div`). A sum that has not wrapped lies between as many times the least latency
and as many times the greatest one (`mul_le_total`, `total_le_mul`), and so does the mean (`mean_between`).

Main result: `Tally.mean_exact_iff`, for recordings that may interleave.
-/
import Mathlib.Tactic
import LoadTrial.Proofs.Tally

namespace LoadTrial

/-! ## Sums and quotients -/

namespace Number

theorem total_le_mul {ns : List Nat} {bound : Nat} (h : ∀ n ∈ ns, n ≤ bound) : total ns ≤ ns.length * bound :=
  List.sum_le_card_nsmul ns bound h

theorem mul_le_total {ns : List Nat} {bound : Nat} (h : ∀ n ∈ ns, bound ≤ n) : ns.length * bound ≤ total ns :=
  List.card_nsmul_le_sum ns bound h

/-- a sum that has wrapped around gives too small a quotient by any number up to what it wraps at -/
theorem mod_div_lt_div {a n size : Nat} (hpos : 0 < n) (hn : n ≤ size) (h : size ≤ a) : a % size / n < a / n := by
  have hsize : 0 < size := hpos.trans_le hn
  have hwraps : 1 ≤ a / size := (Nat.one_le_div_iff hsize).2 h
  have hlost : a % size + n ≤ a := by
    calc a % size + n ≤ a % size + size := Nat.add_le_add_left hn _
      _ ≤ a % size + size * (a / size) := Nat.add_le_add_left (Nat.le_mul_of_pos_right size hwraps) _
      _ = a := Nat.mod_add_div a size
  calc a % size / n < a % size / n + 1 := Nat.lt_succ_self _
    _ = (a % size + n) / n := (Nat.add_div_right _ hpos).symm
    _ ≤ a / n := Nat.div_le_div_right hlost

theorem mod_div_eq_div_iff {a n size : Nat} (hpos : 0 < n) (hn : n ≤ size) : a % size / n = a / n ↔ a < size := by
  constructor
  · intro heq
    by_contra h
    exact absurd heq (mod_div_lt_div hpos hn (not_lt.1 h)).ne
  · intro h
    rw [Nat.mod_eq_of_lt h]

end Number

/-! ## Latencies -/

/-- no latency is beyond the greatest -/
theorem le_of_max? {l : List UInt64} {hi : UInt64} (h : l.max? = some hi) : ∀ ms ∈ l, ms ≤ hi := by
  have : Std.LawfulOrderSup UInt64 := ⟨fun a b c => by
    simp only [UInt64.le_iff_toNat_le, UInt64.toNat_max, Nat.max_le]⟩
  exact (List.max?_le_iff h).1 (UInt64.le_refl hi)

namespace Outcome

theorem length_mul_le_latencySum {os : List Outcome} {lo : UInt64} (h : ∀ ms ∈ latencies os, lo ≤ ms) :
    os.length * lo.toNat ≤ latencySum os := by
  have hall : ∀ n ∈ os.map (·.latencyMs.toNat), lo.toNat ≤ n := by
    intro n hn
    obtain ⟨o, ho, rfl⟩ := List.mem_map.1 hn
    exact UInt64.le_iff_toNat_le.1 (h _ (List.mem_map_of_mem ho))
  simpa [latencySum] using Number.mul_le_total hall

theorem latencySum_le_length_mul {os : List Outcome} {hi : UInt64} (h : ∀ ms ∈ latencies os, ms ≤ hi) :
    latencySum os ≤ os.length * hi.toNat := by
  have hall : ∀ n ∈ os.map (·.latencyMs.toNat), n ≤ hi.toNat := by
    intro n hn
    obtain ⟨o, ho, rfl⟩ := List.mem_map.1 hn
    exact UInt64.le_iff_toNat_le.1 (h _ (List.mem_map_of_mem ho))
  simpa [latencySum] using Number.total_le_mul hall

end Outcome

open Outcome (latencies latencySum)

namespace Summary.Reports

variable {s : Summary} {os : List Outcome}

theorem total_ne_zero (h : s.Reports os) (hne : os ≠ []) (hlen : os.length < UInt64.size) : s.total ≠ 0 := by
  intro hzero
  have htotal := congrArg UInt64.toNat h.total
  rw [hzero, UInt64.toNat_ofNat_of_lt' hlen] at htotal
  exact hne (List.eq_nil_of_length_eq_zero htotal.symm)

/-- the mean is the quotient of what is left of the sum -/
theorem toNat_avgLatencyMs (h : s.Reports os) (hne : os ≠ []) (hlen : os.length < UInt64.size) :
    s.avgLatencyMs.toNat = latencySum os % UInt64.size / os.length := by
  have hzero : ¬(s.total == 0) = true := by simpa using h.total_ne_zero hne hlen
  rw [Summary.avgLatencyMs, if_neg hzero, UInt64.toNat_div, h.total, h.latencySumMs, UInt64.toNat_ofNat_of_lt' hlen,
    UInt64.toNat_ofNat']

/-- the extrema are there, and they are latencies with no latency beyond them -/
theorem extrema (h : s.Reports os) (hne : os ≠ []) (hlen : os.length < UInt64.size) :
    ∃ lo hi, s.minLatencyMs = some lo ∧ s.maxLatencyMs = some hi ∧ (∀ ms ∈ latencies os, lo ≤ ms) ∧
      ∀ ms ∈ latencies os, ms ≤ hi := by
  have hzero := h.total_ne_zero hne hlen
  have hlatencies : latencies os ≠ [] := by simpa [latencies] using hne
  obtain ⟨lo, hlo⟩ := Option.isSome_iff_exists.1 (List.isSome_min?_of_ne_nil hlatencies)
  obtain ⟨hi, hhi⟩ := Option.isSome_iff_exists.1 (List.isSome_max?_of_ne_nil hlatencies)
  refine ⟨lo, hi, ?_, ?_, (List.min?_eq_some_iff.1 hlo).2, le_of_max? hhi⟩
  · rw [h.minLatencyMs, if_neg hzero, hlo]
  · rw [h.maxLatencyMs, if_neg hzero, hhi]

/-- the mean of a sum that has not wrapped around lies between the extrema -/
theorem mean_between (h : s.Reports os) (hne : os ≠ []) (hlen : os.length < UInt64.size)
    (hsum : latencySum os < UInt64.size) :
    ∃ lo hi, s.minLatencyMs = some lo ∧ s.maxLatencyMs = some hi ∧ lo ≤ s.avgLatencyMs ∧ s.avgLatencyMs ≤ hi := by
  obtain ⟨lo, hi, hmin, hmax, hlo, hhi⟩ := h.extrema hne hlen
  have hpos : 0 < os.length := List.length_pos_iff.2 hne
  have hmean := h.toNat_avgLatencyMs hne hlen
  rw [Nat.mod_eq_of_lt hsum] at hmean
  refine ⟨lo, hi, hmin, hmax, ?_, ?_⟩
  · rw [UInt64.le_iff_toNat_le, hmean, Nat.le_div_iff_mul_le hpos, Nat.mul_comm]
    exact Outcome.length_mul_le_latencySum hlo
  · rw [UInt64.le_iff_toNat_le, hmean]
    exact Nat.div_le_of_le_mul (Outcome.latencySum_le_length_mul hhi)

end Summary.Reports

/-- **The mean latency is exact just if the sum has not wrapped around**, and then it lies between the extrema. The
updates of the recordings may come in any order. -/
theorem Tally.mean_exact_iff (os : List Outcome) (us : List Update) (start finish : Nat) (hne : os ≠ [])
    (hlen : os.length < UInt64.size) (hus : us.Perm (os.flatMap updates)) :
    let s := (us.foldl apply empty).finish start finish
    let sum := Number.total (os.map fun o => o.latencyMs.toNat)
    (s.avgLatencyMs.toNat = sum / os.length ↔ sum < UInt64.size) ∧
      (sum < UInt64.size →
        ∃ lo hi, s.minLatencyMs = some lo ∧ s.maxLatencyMs = some hi ∧ lo ≤ s.avgLatencyMs ∧ s.avgLatencyMs ≤ hi) := by
  intro s sum
  have hs : s.Reports os := by
    have hcounts := counts_recordAll counts_empty os
    rw [List.nil_append, recordAll_eq_foldl, ← foldl_apply_perm hus] at hcounts
    exact hcounts.reports start finish
  refine ⟨?_, hs.mean_between hne hlen⟩
  rw [hs.toNat_avgLatencyMs hne hlen]
  exact Number.mod_div_eq_div_iff (List.length_pos_iff.2 hne) hlen.le

/-- two sums, of which the second wraps around to a mean below both latencies; the updates come in reverse -/
theorem Tally.mean_of_wrapped_sum :
    let os : List Outcome := [⟨true, 10, false⟩, ⟨false, 25, true⟩, ⟨true, 3, false⟩]
    let os' : List Outcome := [⟨true, 0xFFFFFFFFFFFFFFFF, false⟩, ⟨false, 3, false⟩]
    let s := ((os.flatMap updates).reverse.foldl apply empty).finish 0 1
    let s' := ((os'.flatMap updates).reverse.foldl apply empty).finish 0 1
    s.avgLatencyMs = 12 ∧ s'.avgLatencyMs = 1 ∧ s'.minLatencyMs = some 3 ∧
      s.avgLatencyMs.toNat = 38 / 3 ∧ s'.avgLatencyMs.toNat ≠ (UInt64.size + 2) / 2 ∧
      ∃ lo hi, s.minLatencyMs = some lo ∧ s.maxLatencyMs = some hi ∧ lo ≤ s.avgLatencyMs ∧ s.avgLatencyMs ≤ hi := by
  intro os os' s s'
  obtain ⟨hexact, hbetween⟩ :=
    mean_exact_iff os (os.flatMap updates).reverse 0 1 (by decide) (by decide) (List.reverse_perm _)
  obtain ⟨hexact', -⟩ :=
    mean_exact_iff os' (os'.flatMap updates).reverse 0 1 (by decide) (by decide) (List.reverse_perm _)
  have hsum : Number.total (os.map fun o => o.latencyMs.toNat) < UInt64.size := by decide
  have hsum' : ¬Number.total (os'.map fun o => o.latencyMs.toNat) < UInt64.size := by decide
  exact ⟨by decide, by decide, by decide, hexact.2 hsum, fun h => hsum' (hexact'.1 h), hbetween hsum⟩

end LoadTrial
