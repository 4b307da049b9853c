/-
How a pool is shared by the clients of a scenario.

A share is what a whole division leaves, but one place at least (`toNat_perClientPoolSize`). So the shares come to more
than the pool just if there are more clients than places in it (`lt_claimed_iff`), and then each share is one place
(`share_of_lt`); else fewer places are left over than there are clients (`lt_claimed_add`). The warning about a small
pool is given in the first case and says what the share is in it.

Main result: `Settings.exceeded_iff_warned`.
-/
import Mathlib.Tactic
import LoadTrial.Proofs.Warning

namespace LoadTrial

namespace Plan

variable (plan : Plan)

/-- the places of a pool that the clients of a plan may take together -/
def claimed : Nat :=
  plan.numClients.toNat * plan.perClientPoolSize.toNat

theorem toNat_perClientPoolSize : plan.perClientPoolSize.toNat =
    max (plan.connectionPoolSize.toNat / max plan.numClients.toNat 1) 1 := by
  rw [perClientPoolSize, UInt64.toNat_max, UInt64.toNat_div, UInt64.toNat_max]
  rfl

theorem one_le_perClientPoolSize : 1 ≤ plan.perClientPoolSize.toNat := by
  rw [toNat_perClientPoolSize]
  exact Nat.le_max_right _ _

theorem share_of_lt (h : plan.connectionPoolSize.toNat < plan.numClients.toNat) : plan.perClientPoolSize.toNat = 1 := by
  have hdivisor : max plan.numClients.toNat 1 = plan.numClients.toNat := Nat.max_eq_left (Nat.one_le_of_lt h)
  rw [toNat_perClientPoolSize, hdivisor, Nat.div_eq_of_lt h]
  rfl

/-- with no more clients than places, nothing is rounded up -/
theorem share_of_le (hpos : 0 < plan.numClients.toNat) (h : plan.numClients.toNat ≤ plan.connectionPoolSize.toNat) :
    plan.perClientPoolSize.toNat = plan.connectionPoolSize.toNat / plan.numClients.toNat := by
  have hdivisor : max plan.numClients.toNat 1 = plan.numClients.toNat := Nat.max_eq_left hpos
  have hquotient : 1 ≤ plan.connectionPoolSize.toNat / plan.numClients.toNat := (Nat.one_le_div_iff hpos).2 h
  rw [toNat_perClientPoolSize, hdivisor, Nat.max_eq_left hquotient]

theorem claimed_le (h : plan.numClients.toNat ≤ plan.connectionPoolSize.toNat) :
    plan.claimed ≤ plan.connectionPoolSize.toNat := by
  rcases Nat.eq_zero_or_pos plan.numClients.toNat with hzero | hpos
  · rw [claimed, hzero, Nat.zero_mul]
    exact Nat.zero_le _
  · rw [claimed, plan.share_of_le hpos h]
    exact Nat.mul_div_le _ _

/-- the shares come to more than the pool just if there are too many clients for it -/
theorem lt_claimed_iff : plan.connectionPoolSize.toNat < plan.claimed ↔ plan.connectionPoolSize < plan.numClients := by
  rw [UInt64.lt_iff_toNat_lt]
  constructor
  · intro hclaimed
    by_contra hle
    exact absurd (plan.claimed_le (not_lt.1 hle)) (not_le.2 hclaimed)
  · intro hlt
    rwa [claimed, plan.share_of_lt hlt, Nat.mul_one]

/-- fewer places are left over than there are clients -/
theorem lt_claimed_add (hpos : 0 < plan.numClients.toNat)
    (h : plan.numClients.toNat ≤ plan.connectionPoolSize.toNat) :
    plan.connectionPoolSize.toNat < plan.claimed + plan.numClients.toNat := by
  rw [claimed, plan.share_of_le hpos h]
  exact Nat.lt_mul_div_succ _ hpos

end Plan

/-- **A pool is never shared out more than once without a warning.** Every client of a scenario has a share. The shares
come to more than the pool just if the warning about it is given; then each share is one place, as the warning says, and
else fewer places are left over than there are clients. -/
theorem Settings.exceeded_iff_warned (s : Settings) (p : Profile) :
    let share := (s.plan p).perClientPoolSize.toNat
    let clients := p.numClients.toNat
    let pool := p.connectionPoolSize.toNat
    1 ≤ share ∧ (pool < clients * share ↔ pool < clients) ∧
      ((∃ text ∈ (Warning.ofProfile s.emptyPolicy p).map Warning.Cause.message,
        Warning.EndsIn " each client keeps 1 idle connection" text) ↔ pool < clients) ∧
      (pool < clients →
        share = 1 ∧ Warning.poolText p share ∈ (Warning.ofProfile s.emptyPolicy p).map Warning.Cause.message) ∧
      (clients ≤ pool → 0 < clients → pool - clients * share < clients) := by
  intro share clients pool
  have hlt : pool < clients ↔ p.connectionPoolSize < p.numClients := UInt64.lt_iff_toNat_lt.symm
  refine ⟨(s.plan p).one_le_perClientPoolSize, ?_, ?_, ?_, ?_⟩
  · rw [hlt]
    exact (s.plan p).lt_claimed_iff
  · rw [hlt]
    exact Warning.exists_smallPool_iff
  · intro h
    have hshare : share = 1 := (s.plan p).share_of_lt h
    exact ⟨hshare, hshare ▸ Warning.poolText_mem (hlt.1 h)⟩
  · intro hle hpos
    have hadd : pool < clients * share + clients := (s.plan p).lt_claimed_add hpos hle
    omega

/-- one client more than places, as many of both, and one client less; and no clients -/
theorem Settings.pool_of_three :
    let s : Settings := {}
    let profile (clients : UInt64) : Profile := {
      name := "x", numClients := clients, requestsPerClient := 1, requestDelayMs := 0, connectionPoolSize := 3 }
    let share (clients : UInt64) : UInt64 := (s.plan (profile clients)).perClientPoolSize
    (3 < 4 ∧ share 4 = 1 ∧ Warning.poolText (profile 4) 1 ∈ (Warning.ofProfile .fail (profile 4)).map
        Warning.Cause.message) ∧
      (2 ≤ 3 ∧ 0 < 2 ∧ 3 - 2 * (share 2).toNat < 2) ∧ share 3 = 1 ∧ share 0 = 3 := by
  intro s profile share
  obtain ⟨-, -, -, hsmall, -⟩ := exceeded_iff_warned s (profile 4)
  obtain ⟨-, -, -, -, hunused⟩ := exceeded_iff_warned s (profile 2)
  obtain ⟨hshare, htext⟩ := hsmall (by decide)
  exact ⟨⟨by decide, UInt64.toNat_inj.1 hshare, hshare ▸ htext⟩,
    ⟨by decide, by decide, hunused (by decide) (by decide)⟩, by decide, by decide⟩

end LoadTrial
