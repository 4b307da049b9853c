/-
What the warnings before a trial say of its end.

A warning about a scenario without requests names the verdict on it. No client of such a scenario has an outcome to
give (`outcomes_of_isEmpty`), so whatever becomes of the clients, and in whatever order they go on, nothing is tallied
and the policy for empty scenarios decides (`Result.Accounts.idle`). A warning about a missing file says that no client
will start: trust material is loaded only where all its files can be read (`TrustMaterial.contains_of_load`), so every
worker of every scenario fails before its first request, and again nothing is tallied.

Main result: `Settings.warnings_come_true`.
-/
import Mathlib.Tactic
import LoadTrial.Proofs.EnvironmentCheck
import LoadTrial.Proofs.ExitStatus
import LoadTrial.Proofs.Threshold
import LoadTrial.Proofs.Warning

namespace LoadTrial

/-! ## Scenarios in which nothing is tallied -/

/-- a summary of no outcomes -/
def Summary.nothing (duration : Duration) : Summary where
  total := 0
  successful := 0
  failed := 0
  timedOut := 0
  latencySumMs := 0
  minLatencyMs := none
  maxLatencyMs := none
  duration

theorem Summary.Reports.eq_nothing {s : Summary} (h : s.Reports []) : s = .nothing s.duration := by
  have htotal : s.total = 0 := h.total
  rcases h with ⟨-, hsuccessful, hfailed, htimedOut, hsum, hmin, hmax⟩
  rw [if_pos htotal] at hmin hmax
  rcases s with ⟨total, successful, failed, timedOut, latencySumMs, minLatencyMs, maxLatencyMs, duration⟩
  simp_all [nothing, Outcome.latencySum]

/-- without outcomes the policy for empty scenarios decides -/
theorem Criterion.passes_of_total_eq_zero (c : Criterion) {s : Summary} (h : s.total = 0) :
    c.passes s = c.emptyPolicy.passes := by
  rw [passes, Summary.successRate_of_total_eq_zero h]

namespace Scenario

variable {criterion : Criterion} {plan : Plan} {setup : Nat → Setup} {r : Result}

/-- a result of a scenario in which nothing was tallied -/
structure Result.Idle (r : Result) (policy : EmptyPolicy) : Prop where
  summary : r.summary = .nothing r.summary.duration
  passed : r.passed = policy.passes

theorem Result.Accounts.idle (h : r.Accounts criterion plan setup) (hnone : outcomes plan setup = []) :
    r.Idle criterion.emptyPolicy := by
  have hreports := h.summary
  rw [hnone] at hreports
  exact ⟨hreports.eq_nothing, h.passed.trans (criterion.passes_of_total_eq_zero hreports.total)⟩

/-- at the end of a run everything is accounted for, in whatever order the workers went on -/
theorem IsRunOf.accounts {setup : Plan → Nat → Setup} {run : Run} (h : IsRunOf criterion setup plan run) :
    run.result.Accounts criterion plan (setup plan) := by
  obtain ⟨runId, schedule, hdone, rfl⟩ := h
  exact State.result_accounts criterion runId plan (setup plan) hdone

theorem outcomes_zero (setup : Setup) : setup.outcomes 0 = [] := by
  cases setup <;> rfl

/-- where there are no clients, or no requests, there are no outcomes -/
theorem outcomes_of_isEmpty (setup : Nat → Setup) (h : plan.numClients = 0 ∨ plan.requestsPerClient = 0) :
    outcomes plan setup = [] := by
  rcases h with hclients | hrequests
  · rw [outcomes, workerIds, hclients]
    rfl
  · rw [outcomes, hrequests, List.flatMap_eq_nil_iff]
    exact fun id _ => outcomes_zero (setup id)

/-- where no worker has a client, there are no outcomes -/
theorem outcomes_of_no_client (h : ∀ id, (setup id).hasClient = false) : outcomes plan setup = [] := by
  rw [outcomes, List.flatMap_eq_nil_iff]
  intro id _
  have hid := h id
  cases hsetup : setup id with
  | client c => rw [hsetup] at hid; cases hid
  | _ => rfl

/-- where no worker has a client, all of them have failed -/
theorem Result.Accounts.failedWorkers_of_no_client (h : r.Accounts criterion plan setup)
    (hnone : ∀ id, (setup id).hasClient = false) : r.failedWorkers = plan.numClients := by
  have hall : (workerIds plan).countP (fun id => !(setup id).hasClient) = plan.numClients.toNat := by
    rw [List.countP_eq_length.2 fun id _ => by rw [hnone id]; rfl, workerIds, List.length_range]
  have hbroken : (workerIds plan).countP (fun id => (setup id).breaksDown plan.requestsPerClient.toNat) = 0 :=
    List.countP_eq_zero.2 fun id _ => by simp [Setup.breaksDown_of_not_hasClient _ _ (hnone id)]
  rw [← UInt64.toNat_inj, h.failedWorkers, hall, hbroken, Nat.add_zero]

end Scenario

/-! ## Missing files -/

namespace TrustMaterial

variable {files : Files} {paths : TrustPaths}

theorem contains_of_readPart {part : Part} {path : String} {content : Bytes}
    (h : readPart files part path = .ok content) : files.contains path = true := by
  unfold readPart at h
  split at h
  · rename_i hread
    exact Files.contains_of_read hread
  · cases h

/-- trust material is loaded only where all its files are there -/
theorem contains_of_load {m : TrustMaterial} (h : load files paths = .ok m) :
    ∀ f ∈ Warning.trustFiles paths, files.contains f.2 = true := by
  obtain ⟨ca, hca, h⟩ := bind_eq_ok h
  obtain ⟨cert, hcert, h⟩ := bind_eq_ok h
  obtain ⟨key, hkey, -⟩ := bind_eq_ok h
  simp only [Warning.trustFiles, List.forall_mem_cons]
  exact ⟨contains_of_readPart hca, contains_of_readPart hcert, contains_of_readPart hkey, nofun⟩

end TrustMaterial

/-- without one of the files no worker has a client -/
theorem Program.World.no_client_of_missing (w : World) (plan : Plan) {f : String × String}
    (hf : f ∈ Warning.trustFiles plan.trust) (hmissing : w.files.contains f.2 = false) (worker : Nat) :
    (w.clients plan worker).hasClient = false := by
  unfold clients Exchange.factory
  split
  · rename_i m hcheck
    obtain ⟨m', hload, -⟩ := bind_eq_ok hcheck
    have hthere := TrustMaterial.contains_of_load hload f hf
    rw [hmissing] at hthere
    cases hthere
  · rfl

/-! ## Verdicts on suites -/

theorem EmptyPolicy.passes_eq_true_iff {policy : EmptyPolicy} : policy.passes = true ↔ policy = .pass := by
  cases policy <;> simp [passes]

namespace Suite

variable {criterion : Criterion} {setup : Plan → Nat → Setup} {plans : List Plan} {runs : List Scenario.Run}

/-- every run of a suite is a run of one of its plans -/
theorem Executes.exists_plan (h : Executes criterion setup plans runs) :
    ∀ run ∈ runs, ∃ plan ∈ plans, Scenario.IsRunOf criterion setup plan run := by
  induction h with
  | nil => nofun
  | cons head _ ih =>
    rw [List.forall_mem_cons]
    refine ⟨⟨_, List.mem_cons_self, head⟩, fun run hrun => ?_⟩
    obtain ⟨plan, hplan, hof⟩ := ih run hrun
    exact ⟨plan, List.mem_cons_of_mem _ hplan, hof⟩

/-- scenarios with one verdict give it to their suite, if there are any -/
theorem exitCode_of_verdict {passed : Bool} (hne : runs ≠ []) (h : ∀ run ∈ runs, run.result.passed = passed) :
    (ofRuns runs).exitCode = 0 ↔ passed = true := by
  rw [exitCode_eq_zero_iff, ofRuns, List.forall_mem_map]
  obtain ⟨run, hrun⟩ := List.exists_mem_of_ne_nil runs hne
  constructor
  · intro hall
    exact (h run hrun).symm.trans (hall run hrun)
  · rintro rfl run' hrun'
    exact h run' hrun'

end Suite

/-! ## Warnings and runs -/

namespace Settings

open Warning (Cause emptyText ForetellsEmpty EndsIn)
open Scenario (IsRunOf)

variable {s : Settings} {w : Program.World}

/-- a scenario without requests ends without outcomes, whatever becomes of its clients -/
theorem idle_of_isEmpty {p : Profile} (h : p.numClients = 0 ∨ p.requestsPerClient = 0) {setup : Plan → Nat → Setup}
    {run : Scenario.Run} (hrun : IsRunOf s.criterion setup (s.plan p) run) : run.result.Idle s.emptyPolicy := by
  have hnone : Scenario.outcomes (s.plan p) (setup (s.plan p)) = [] := Scenario.outcomes_of_isEmpty _ h
  exact hrun.accounts.idle hnone

/-- a scenario whose workers have no clients ends without outcomes, and with all of them failed -/
theorem idle_of_no_client {plan : Plan} {setup : Plan → Nat → Setup} (h : ∀ id, (setup plan id).hasClient = false)
    {run : Scenario.Run} (hrun : IsRunOf s.criterion setup plan run) :
    run.result.Idle s.emptyPolicy ∧ run.result.failedWorkers = plan.numClients :=
  ⟨hrun.accounts.idle (Scenario.outcomes_of_no_client h), hrun.accounts.failedWorkers_of_no_client h⟩

/-- a suite of valid settings whose workers have no clients ends as the policy for empty scenarios has it -/
theorem exitCode_of_no_client (hvalid : s.validate = .ok ()) {setup : Plan → Nat → Setup}
    (h : ∀ p id, (setup (s.plan p) id).hasClient = false) {runs : List Scenario.Run}
    (hruns : Suite.Executes s.criterion setup s.plans runs) :
    (Suite.ofRuns runs).exitCode = 0 ↔ s.emptyPolicy = .pass := by
  have hne : runs ≠ [] := by
    rintro rfl
    exact (validate_eq_ok_iff.1 hvalid).scenarios (List.map_eq_nil_iff.1 (List.forall₂_nil_right_iff.1 hruns))
  rw [← EmptyPolicy.passes_eq_true_iff]
  refine Suite.exitCode_of_verdict hne fun run hrun => ?_
  obtain ⟨plan, hplan, hof⟩ := hruns.exists_plan run hrun
  obtain ⟨p, -, rfl⟩ := List.mem_map.1 hplan
  exact (idle_of_no_client (h p) hof).1.passed

/-- **Warnings come true.** The words about scenarios without requests are given for these, one by one, and for no
other; each of them ends with an empty summary and the verdict in those words, whatever its clients do. Where a file
is said to be missing, no worker of any scenario gets a client: every scenario ends with all its workers failed and an
empty summary, and the program ends as the policy for empty scenarios has it. -/
theorem warnings_come_true (s : Settings) (w : Program.World) (hvalid : s.validate = .ok ()) :
    ∃ causes, s.warnings w.files = .ok causes ∧
      (causes.map Cause.message).filter ForetellsEmpty =
        ((s.scenarios.filter fun p => p.numClients == 0 || p.requestsPerClient == 0).map fun p =>
          emptyText p.name s.emptyPolicy.passes) ∧
      (∀ p ∈ s.scenarios, p.numClients = 0 ∨ p.requestsPerClient = 0 →
        ∀ setup : Plan → Nat → Setup,
          (∀ runId, IsRunOf s.criterion setup (s.plan p)
            (Scenario.run s.criterion runId (setup (s.plan p)) (s.plan p))) ∧
          ∀ run, IsRunOf s.criterion setup (s.plan p) run →
            run.result.Idle s.emptyPolicy ∧ emptyText p.name run.result.passed ∈ causes.map Cause.message) ∧
      ((∃ text ∈ causes.map Cause.message, EndsIn " not found; every client will fail to start" text) →
        Suite.Executes s.criterion w.clients s.plans (Program.runScenarios w s) ∧
          (∀ runs, Suite.Executes s.criterion w.clients s.plans runs →
            List.Forall₂ (fun p run => run.result.Idle s.emptyPolicy ∧ run.result.failedWorkers = p.numClients)
              s.scenarios runs ∧
            ((Suite.ofRuns runs).exitCode = 0 ↔ s.emptyPolicy = .pass)) ∧
          ∀ env args, Settings.load w.files EnvFile.defaultPath env args = .ok s →
            ((Program.trial w env args).status = 0 ↔ s.emptyPolicy = .pass)) := by
  refine ⟨s.allWarnings w.files, warnings_eq hvalid, filter_foretellsEmpty w.files s, ?_, ?_⟩
  · intro p hp hnone setup
    refine ⟨fun runId => Scenario.run_isRunOf s.criterion runId setup (s.plan p), ?_⟩
    intro run hrun
    have hidle := idle_of_isEmpty hnone hrun
    have hempty : p.isEmpty = true := by simpa [Profile.isEmpty] using hnone
    exact ⟨hidle, hidle.passed ▸ emptyText_mem w.files hp hempty⟩
  · rintro ⟨text, htext, hends⟩
    obtain ⟨f, hf, hmissing⟩ := exists_missing_of_mem htext hends
    have hclient : ∀ p id, (w.clients (s.plan p) id).hasClient = false := fun p id =>
      w.no_client_of_missing (s.plan p) hf hmissing id
    have hexecutes := Program.runScenarios_executes w s
    refine ⟨hexecutes, ?_, ?_⟩
    · intro runs hruns
      have hall := (List.forall₂_map_left_iff.1 hruns).imp fun p run hof => idle_of_no_client (hclient p) hof
      exact ⟨hall, exitCode_of_no_client hvalid hclient hruns⟩
    · intro env args hload
      rw [Program.trial_of_load hload]
      exact exitCode_of_no_client hvalid hclient hexecutes

/-- two clients of a custom scenario, with a number of requests each -/
def customArguments (requests : UInt64) : Arguments where
  clients := some 2
  requests := some requests
  emptyPolicy := some .pass

/-- the settings that they give -/
def customSettings (requests : UInt64) : Settings :=
  { builtin with
    emptyPolicy := .pass
    scenarios := [{ Profile.light with name := "Custom Load", numClients := 2, requestsPerClient := requests }] }

theorem load_custom (requests : UInt64) : (customSettings requests).validate = .ok () ∧
    Settings.load .bare EnvFile.defaultPath {} (customArguments requests) = .ok (customSettings requests) := by
  have hgather : gather {} (customArguments requests) = .ok (customSettings requests) := rfl
  have hvalid : (customSettings requests).Valid :=
    valid_builtin.withScenarios .pass (List.cons_ne_nil _ _) (List.forall_mem_singleton.2 rfl)
  have hvalidate := validate_eq_ok_iff.2 hvalid
  exact ⟨hvalidate, load_of_gather (Files.contains_bare _) hgather hvalidate⟩

/-- a world without files in which nothing listens: a scenario without requests, and one whose clients do not start -/
theorem custom_without_files :
    let w : Program.World := ⟨.bare, fun _ => ⟨0⟩, .silent, fun _ => ""⟩
    (customSettings 0).validate = .ok () ∧ (customSettings 3).validate = .ok () ∧
      (∃ causes, (customSettings 0).warnings w.files = .ok causes ∧
        (causes.map Cause.message).filter ForetellsEmpty =
          ["Scenario 'Custom Load' issues no requests and will pass"]) ∧
      (Program.runScenarios w (customSettings 3)).map (·.result.failedWorkers) = [2] ∧
      (Suite.ofRuns (Program.runScenarios w (customSettings 3))).exitCode = 0 ∧
      (Program.trial w {} (customArguments 3)).status = 0 := by
  intro w
  obtain ⟨hidle, -⟩ := load_custom 0
  obtain ⟨hbusy, hload⟩ := load_custom 3
  obtain ⟨causes, hwarnings, htexts, -, -⟩ := warnings_come_true (customSettings 0) w hidle
  obtain ⟨causes', hwarnings', -, -, hmissing⟩ := warnings_come_true (customSettings 3) w hbusy
  have hcauses : causes' = allWarnings w.files (customSettings 3) :=
    Except.ok.inj (hwarnings'.symm.trans (warnings_eq hbusy))
  have hca := missing_mem (s := customSettings 3) List.mem_cons_self (Files.contains_bare _)
  rw [← hcauses] at hca
  obtain ⟨hexecutes, hends, htrial⟩ := hmissing ⟨_, hca, Cause.endsIn_ending (.missingFile ..)⟩
  obtain ⟨hruns, hexit⟩ := hends _ hexecutes
  obtain ⟨run, runs, ⟨-, hfailed⟩, hnil, hrun⟩ := List.forall₂_cons_left_iff.1 hruns
  have hfailedWorkers : (Program.runScenarios w (customSettings 3)).map (·.result.failedWorkers) = [2] := by
    rw [hrun, List.forall₂_nil_left_iff.1 hnil, List.map_singleton, hfailed]
  exact ⟨hidle, hbusy, ⟨causes, hwarnings, htexts.trans rfl⟩, hfailedWorkers, hexit.2 rfl, (htrial _ _ hload).2 rfl⟩

end Settings

end LoadTrial
