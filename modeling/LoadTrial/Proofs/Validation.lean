/-
Valid settings.

The check goes through its conditions in order and ends at the first that fails; it finds no fault just if all of them
hold (`validate_eq_ok_iff`). The conditions are named in `Valid`, so that what is valid can be used by what is known of it.
-/
import Mathlib.Tactic
import LoadTrial.Proofs.Precedence
import LoadTrial.Settings.Validation

namespace LoadTrial.Settings

/-- settings that a trial can run with -/
structure Valid (s : Settings) : Prop where
  url : checkUrl s.coordinatorUrl = .ok ()
  coordinatorId : (Text.trim s.coordinatorId).isEmpty = false
  threshold : isPercentage s.successThreshold = true
  scenarios : s.scenarios ≠ []
  profile : ∀ p ∈ s.scenarios, checkProfile p = .ok ()
  shards : s.payload.threshold ≤ s.payload.totalShards

theorem forM_checkProfile_iff {profiles : List Profile} :
    profiles.forM checkProfile = .ok () ↔ ∀ p ∈ profiles, checkProfile p = .ok () := by
  induction profiles with
  | nil => exact iff_of_true rfl nofun
  | cons p profiles ih =>
    rw [List.forall_mem_cons, ← ih]
    constructor
    · intro h
      obtain ⟨_, hp, hrest⟩ := bind_eq_ok h
      exact ⟨hp, hrest⟩
    · rintro ⟨hp, hrest⟩
      change (checkProfile p >>= fun _ => profiles.forM checkProfile) = .ok ()
      rw [hp]
      exact hrest

/-- a condition that is checked in front of others -/
theorem require_eq_ok_iff {c : Prop} [Decidable c] {fault : Fault} {rest : Except Fault Unit} :
    (if c then (throw fault : Except Fault Unit) >>= fun _ => rest else rest) = .ok () ↔ ¬c ∧ rest = .ok () := by
  by_cases hc : c
  · rw [if_pos hc]
    exact iff_of_false nofun fun h => h.1 hc
  · rw [if_neg hc]
    exact (and_iff_right hc).symm

theorem check_eq_ok_iff {check rest : Except Fault Unit} :
    (check >>= fun _ => rest) = .ok () ↔ check = .ok () ∧ rest = .ok () := by
  cases check with
  | error f => exact iff_of_false nofun fun h => nomatch h.1
  | ok _ => exact (and_iff_right rfl).symm

theorem validate_eq_ok_iff {s : Settings} : s.validate = .ok () ↔ s.Valid := by
  have hshards : (if s.payload.totalShards < s.payload.threshold then
      (throw (.tooFewShards s.payload.threshold s.payload.totalShards) : Except Fault Unit) else pure ()) = .ok () ↔
        s.payload.threshold ≤ s.payload.totalShards := by
    split_ifs with hlt
    · exact iff_of_false nofun (UInt32.not_le.2 hlt)
    · exact iff_of_true rfl (UInt32.not_lt.1 hlt)
  rw [validate]
  simp only [check_eq_ok_iff, require_eq_ok_iff, forM_checkProfile_iff, hshards]
  constructor
  · rintro ⟨hurl, hid, hthreshold, hscenarios, hprofile, hshards⟩
    exact {
      url := hurl
      coordinatorId := by simpa using hid
      threshold := by simpa using hthreshold
      scenarios := by simpa using hscenarios
      profile := hprofile
      shards := hshards }
  · intro h
    exact ⟨h.url, by simp [h.coordinatorId], by simp [h.threshold], by simp [h.scenarios], h.profile, h.shards⟩

/-- valid settings stay valid with another policy for empty scenarios, and with other profiles, if these are valid -/
theorem Valid.withScenarios {s : Settings} (h : s.Valid) (policy : EmptyPolicy) {scenarios : List Profile}
    (hne : scenarios ≠ []) (hprofile : ∀ p ∈ scenarios, checkProfile p = .ok ()) :
    Valid { s with emptyPolicy := policy, scenarios } where
  url := h.url
  coordinatorId := h.coordinatorId
  threshold := h.threshold
  scenarios := hne
  profile := hprofile
  shards := h.shards

theorem Valid.poolSize {s : Settings} (h : s.Valid) : ∀ p ∈ s.scenarios, 1 ≤ p.connectionPoolSize := by
  intro p hp
  have hprofile := h.profile p hp
  rw [checkProfile] at hprofile
  split_ifs at hprofile with htimeout hpool
  have hne : p.connectionPoolSize ≠ 0 := by simpa using hpool
  rw [UInt64.le_iff_toNat_le]
  exact Nat.one_le_iff_ne_zero.2 fun hzero => hne (UInt64.toNat_inj.1 hzero)

end LoadTrial.Settings
