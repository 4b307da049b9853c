/-
The exit status of the program.

A trial whose settings are not loaded runs nothing and ends with the status of a failure of the configuration; one
whose settings are loaded runs every scenario, and ends with what its suite says (`trial_ends`). The second look at
settings that were loaded finds no fault in them (`Settings.validate_of_load`), so it never decides the status. The
statuses of all other failures are not met: no failure of trust material, of the operating system, of encoding or of an
internal kind ends the program.

An environment file that is there and cannot be read is a failure of the configuration as well
(`TrialEnds.unreadable`). What remains is a breach: a value with the character NUL in the environment file aborts the
program, with a status of its own, where any other bad line of that file is a failure of the configuration
(`TrialEnds.breach`).

Premises, each on the surroundings of the program:
- the runtime starts: one that takes the number of its threads from `TOKIO_WORKER_THREADS` ends the process before the
  program looks at anything if that is no positive number;
- the handles of all workers of a scenario fit into memory;
- what is printed can be written.
Where one of them does not hold, the process ends without the program's doing, and nothing is said of its status.

Main result: `Program.exit_status`.
-/
import Mathlib.Tactic
import LoadTrial.Program
import LoadTrial.Proofs.Loading
import LoadTrial.Proofs.Verdicts

namespace LoadTrial.Program

/-- the clients of a world; they do not look at what ran before -/
def World.clients (w : World) : Plan → Nat → Setup :=
  Exchange.factory w.files w.network w.timestamp []

variable {w : World} {env : Environment} {args : Arguments} {s : Settings}

theorem runScenarios_executes (w : World) (s : Settings) :
    Suite.Executes s.criterion w.clients s.plans (runScenarios w s) :=
  Suite.runAfter_executes s.criterion w.runIds w.clients [] s.plans

theorem status_failed {f : Failure} (hf : f.kind = .config) (p : Console.Painter) : (failed p f).status = 2 := by
  simp only [failed, Failure.exitCode, hf, Failure.Kind.exitCode]

/-! ## Trials -/

/-- what a trial comes to, as its settings are loaded or not -/
structure TrialEnds (w : World) (env : Environment) (args : Arguments) : Prop where
  /-- settings that are not loaded are a failure of the configuration; nothing is run, so the network, the clock and
  the identifiers of runs do not count -/
  notLoaded : ∀ f, Settings.load w.files EnvFile.defaultPath env args = .error (.failure f) →
    f.kind = .config ∧ (trial w env args).status = 2 ∧ (trial w env args).stdout = "" ∧
      ∀ w' : World, w'.files = w.files → trial w' env args = trial w env args
  /-- settings that are loaded pass the second check; every scenario is run to its end, and the verdicts on them are
  the status -/
  loaded : ∀ s, Settings.load w.files EnvFile.defaultPath env args = .ok s →
    (∃ warnings, s.warnings w.files = .ok warnings) ∧
      Suite.Executes s.criterion w.clients s.plans (runScenarios w s) ∧
      trial w env args = finished (trialEnvironment w.files env) s (runScenarios w s) ∧
      (trial w env args).status = if (runScenarios w s).all (·.result.passed) then 0 else 1
  /-- an environment file that is there and cannot be read is a failure of the configuration, never a missing file -/
  unreadable : ∀ e, w.files.contains EnvFile.defaultPath = true → w.files.read EnvFile.defaultPath = .error e →
    Settings.load w.files EnvFile.defaultPath env args =
      .error (.failure (.config ("Failed to load " ++ EnvFile.defaultPath ++ ": " ++ e.message)))
  /-- nothing else can happen but the one breach -/
  breach : Settings.load w.files EnvFile.defaultPath env args = .error .abort ↔
    ∃ content, w.files.read EnvFile.defaultPath = .ok content ∧ EnvFile.ReachesNul env (EnvFile.lines content)
  aborted : Settings.load w.files EnvFile.defaultPath env args = .error .abort →
    (trial w env args).status = abortStatus

theorem trial_of_halt {halt : Halt} (h : Settings.load w.files EnvFile.defaultPath env args = .error halt) :
    trial w env args = halted (painter env (trialEnvironment w.files env) args) halt := by
  simp only [trial, h]

theorem trial_of_load (h : Settings.load w.files EnvFile.defaultPath env args = .ok s) :
    trial w env args = finished (trialEnvironment w.files env) s (runScenarios w s) := by
  obtain ⟨warnings, hwarnings⟩ := Settings.warnings_of_validate (Settings.validate_of_load h) w.files
  simp only [trial, h, hwarnings]

theorem status_finished (now : Environment) (s : Settings) (runs : List Scenario.Run) :
    (finished now s runs).status = if runs.all (·.result.passed) then 0 else 1 := by
  simp only [finished, Suite.exitCode, Suite.allPassed, Suite.ofRuns, List.all_map]
  rfl

theorem trial_ends (w : World) (env : Environment) (args : Arguments) : TrialEnds w env args where
  notLoaded f h := by
    have hkind := Settings.load_failure_kind h
    have htrial := trial_of_halt h
    refine ⟨hkind, htrial ▸ status_failed hkind _, htrial ▸ rfl, fun w' hfiles => ?_⟩
    rw [htrial, trial_of_halt (hfiles ▸ h), hfiles]
  loaded s h :=
    ⟨Settings.warnings_of_validate (Settings.validate_of_load h) w.files, runScenarios_executes w s, trial_of_load h,
      trial_of_load h ▸ status_finished _ s _⟩
  unreadable _ hthere hread := Settings.load_eq_of_unreadable hthere hread
  breach := Settings.load_eq_abort_iff
  aborted h := by rw [trial_of_halt h]; rfl

/-! ## All tasks -/

/-- the statuses that the program has for failures of trust material, of the operating system, of encoding and
decoding, and of an internal kind -/
def foreignStatuses : List Nat :=
  [Failure.Kind.tls, .io, .encode, .decode, .internal].map Failure.Kind.exitCode

theorem status_trial (w : World) (env : Environment) (args : Arguments) :
    (trial w env args).status ∈ [0, 1, 2, abortStatus] := by
  obtain ⟨hnot, hloaded, -, -, haborted⟩ := trial_ends w env args
  cases hload : Settings.load w.files EnvFile.defaultPath env args with
  | error halt =>
    cases halt with
    | failure f => simp [(hnot f hload).2.1]
    | abort => simp [haborted hload]
  | ok s =>
    rw [(hloaded s hload).2.2.2]
    split_ifs <;> decide

theorem status_exampleWritten (env : Environment) (args : Arguments) (path : String)
    (written : Except ReadError Unit) :
    (exampleWritten env args path written).status = if written.isOk then 0 else 2 := by
  cases written <;> rfl

/-- **The exit status.** With `--env-help` it tells whether every variable that is set has a value it takes, with
`--init-env` whether the example file was written, and else how the trial ends. It is never that of a failure that is
not one of the configuration. -/
theorem exit_status (w : World) (env : Environment) (argv : List String) (args : Arguments)
    (hargs : CommandLine.parse env argv = .ok args) :
    (∀ dir : Directory, dir.files = w.files →
      ∃ written, (run w.runIds w.network w.timestamp env dir argv).1 = report w env args written) ∧
    ∀ written,
      (args.envHelp = true →
        (report w env args written).status = if (Variable.complaints env).isEmpty then 0 else 2) ∧
      (args.envHelp = false → args.initEnv.isSome = true →
        (report w env args written).status = if written.isOk then 0 else 2) ∧
      (args.envHelp = false → args.initEnv = none →
        report w env args written = trial w env args ∧ TrialEnds w env args) ∧
      (report w env args written).status ∉ foreignStatuses := by
  refine ⟨fun dir hdir => ?_, fun written => ?_⟩
  · rw [run, hargs]
    simp only [hdir]
    cases directoryAfter dir args with
    | ok dir' => exact ⟨.ok (), rfl⟩
    | error e => exact ⟨.error e, rfl⟩
  · rw [report, taskOf]
    cases args.envHelp with
    | true =>
      refine ⟨fun _ => rfl, nofun, nofun, ?_⟩
      simp only [explained, ite_true]
      split_ifs <;> decide
    | false =>
      cases args.initEnv with
      | some path =>
        refine ⟨nofun, fun _ _ => status_exampleWritten env args path written, nofun, ?_⟩
        simp only [status_exampleWritten, Bool.false_eq_true, if_false]
        split_ifs <;> decide
      | none =>
        refine ⟨nofun, nofun, fun _ _ => ⟨rfl, trial_ends w env args⟩, ?_⟩
        have hstatus := status_trial w env args
        simp only [Bool.false_eq_true, if_false]
        simp only [List.mem_cons, List.not_mem_nil, or_false] at hstatus
        rcases hstatus with h | h | h | h <;> rw [h] <;> decide

/-- a world with an environment file and nothing else, in which nothing listens -/
def bareWorld (envFile : Entry) : World where
  files := ⟨fun path => if path = EnvFile.defaultPath then .ok envFile else .error .noSuchFile⟩
  runIds _ := ⟨0⟩
  network := .silent
  timestamp _ := ""

/-- a threshold that is no number, with an empty environment file and with one that may not be opened -/
theorem unreadable_settings :
    let env := Environment.ofList [("SUCCESS_THRESHOLD", "abc")]
    let args : Arguments := { clients := some 1, requests := some 2, json := true }
    let empty := bareWorld (.file [])
    let locked := bareWorld (.unreadable .permissionDenied)
    CommandLine.parse env ["--clients", "1", "--requests", "2", "--json"] = .ok args ∧
      ((report empty env args (.ok ())).status = 2 ∧ (report empty env args (.ok ())).stdout = "") ∧
      locked.files.contains EnvFile.defaultPath = true ∧
      (report locked env args (.ok ())).status = 2 ∧ (report locked env args (.ok ())).stdout = "" := by
  intro env args empty locked
  have hargs : CommandLine.parse env ["--clients", "1", "--requests", "2", "--json"] = .ok args := by decide +kernel
  have hends (w : World) : report w env args (.ok ()) = trial w env args ∧ TrialEnds w env args :=
    ((exit_status w env _ args hargs).2 (.ok ())).2.2.1 rfl rfl
  have hthreshold : Settings.load empty.files EnvFile.defaultPath env args = .error (.failure
      (.config "Invalid SUCCESS_THRESHOLD value 'abc': invalid float literal")) := by rfl
  have hthere : locked.files.contains EnvFile.defaultPath = true := by rfl
  have hread : locked.files.read EnvFile.defaultPath = .error (.os .permissionDenied) := by rfl
  obtain ⟨-, hstatus, hstdout, -⟩ := (hends empty).2.notLoaded _ hthreshold
  obtain ⟨-, hstatus', hstdout', -⟩ := (hends locked).2.notLoaded _ ((hends locked).2.unreadable _ hthere hread)
  rw [← (hends empty).1] at hstatus hstdout
  rw [← (hends locked).1] at hstatus' hstdout'
  exact ⟨hargs, ⟨hstatus, hstdout⟩, hthere, hstatus', hstdout'⟩

/-- the line `A=1` with a NUL at its end aborts the program; the line `A`, which gives nothing a value, is a failure of
the configuration -/
theorem nul_in_env_file :
    CommandLine.parse {} [] = .ok {} ∧
      (report (bareWorld (.file [0x41, 0x3D, 0x31, 0x00, 0x0A])) {} {} (.ok ())).status = 101 ∧
      (report (bareWorld (.file [0x41, 0x0A])) {} {} (.ok ())).status = 2 := by
  decide +kernel

end LoadTrial.Program
