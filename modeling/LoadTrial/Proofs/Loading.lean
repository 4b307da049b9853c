/-
How loading settings can end.

Every failure on the way is one of the configuration, whichever source it comes from (`load_failure_kind`); an
environment file that is there and cannot be read is one of them, and not taken for one that is missing
(`load_eq_of_unreadable`). Settings that are loaded pass the check once more (`validate_of_load`), so the look for
warnings finds no fault in them. The one end that is neither is a breach: a line of the environment file gives a variable
that is not set a value with the character NUL, which no environment can hold (`load_eq_abort_iff`).
-/
import Mathlib.Tactic
import LoadTrial.Settings.Load
import LoadTrial.Settings.Warning

namespace LoadTrial

/-! ## Failures of the configuration -/

/-- if it fails, the failure is one of the configuration -/
def FailsAsConfig {α : Type} (r : Except Failure α) : Prop :=
  ∀ f, r = .error f → f.kind = .config

namespace FailsAsConfig

variable {α β : Type}

theorem ok (a : α) : FailsAsConfig (.ok a) := by
  rintro f ⟨⟩

theorem config (text : String) : FailsAsConfig (.error (.config text) : Except Failure α) := by
  rintro f ⟨⟩
  rfl

theorem map {r : Except Failure α} (h : FailsAsConfig r) (g : α → β) : FailsAsConfig (r.map g) := by
  cases r with
  | ok a => exact ok (g a)
  | error e =>
    rintro f ⟨⟩
    exact h e rfl

theorem bind {r : Except Failure α} (h : FailsAsConfig r) {g : α → Except Failure β} (hg : ∀ a, FailsAsConfig (g a)) :
    FailsAsConfig (r >>= g) := by
  cases r with
  | ok a => exact hg a
  | error e =>
    rintro f ⟨⟩
    exact h e rfl

end FailsAsConfig

theorem EmptyPolicy.read_failsAsConfig (s : String) : FailsAsConfig (EmptyPolicy.read s) := by
  unfold EmptyPolicy.read
  extract_lets
  split_ifs
  · exact .ok _
  · exact .ok _
  · exact .config _

theorem LogFormat.read_failsAsConfig (s : String) : FailsAsConfig (LogFormat.read s) := by
  unfold LogFormat.read
  extract_lets
  split_ifs
  · exact .ok _
  · exact .ok _
  · exact .ok _
  · exact .config _

namespace Variable

theorem readNumber_failsAsConfig (name value : String) : FailsAsConfig (readNumber name value) := by
  unfold readNumber
  split
  · exact .ok _
  · exact .config _

theorem readBool_failsAsConfig (name value : String) : FailsAsConfig (readBool name value) := by
  unfold readBool
  extract_lets
  split_ifs
  · exact .ok _
  · exact .ok _
  · exact .config _

theorem assign_failsAsConfig (v : Variable) (value : String) (s : Settings) : FailsAsConfig (v.assign value s) := by
  unfold assign
  cases v with
  | successThreshold => exact (readNumber_failsAsConfig _ value).map _
  | emptyScenarioPolicy => exact (EmptyPolicy.read_failsAsConfig value).map _
  | enableColor => exact (readBool_failsAsConfig _ value).map _
  | _ => exact .ok _

theorem mergeAll_failure_kind (env : Environment) (s : Settings) (vs : List Variable) {f : Failure}
    (h : (mergeAll env s vs).2 = some f) : f.kind = .config := by
  induction vs generalizing s with
  | nil => cases h
  | cons v vs ih =>
    rw [mergeAll] at h
    split at h
    · exact ih s h
    · split at h
      · exact ih _ h
      · rename_i hassign
        cases h
        exact v.assign_failsAsConfig _ s f hassign

end Variable

namespace Settings

theorem override_failsAsConfig (args : Arguments) (s : Settings) : FailsAsConfig (s.override args) := by
  unfold override
  split
  · exact .config _
  · split
    · exact (LogFormat.read_failsAsConfig _).bind fun _ => .ok _
    · exact .ok _

theorem gather_failsAsConfig (env : Environment) (args : Arguments) : FailsAsConfig (gather env args) := by
  unfold gather
  split
  · rename_i f hmerge
    rintro _ ⟨⟩
    exact Variable.mergeAll_failure_kind env {} Variable.all (congrArg Prod.snd hmerge)
  · exact override_failsAsConfig args _

theorem checked_failsAsConfig (s : Settings) : FailsAsConfig s.checked := by
  unfold checked
  split
  · exact .ok _
  · exact .config _

theorem ofEnvironment_failsAsConfig (env : Environment) (args : Arguments) : FailsAsConfig (ofEnvironment env args) :=
  (gather_failsAsConfig env args).bind checked_failsAsConfig

end Settings

/-! ## The environment file -/

theorem Files.contains_of_read {files : Files} {path : String} {content : Bytes}
    (h : files.read path = .ok content) : files.contains path = true := by
  unfold Files.read at h
  unfold Files.contains
  split at h
  · cases h
  · rename_i hnul
    split at h <;> cases h
    rename_i hfind
    simp only [hnul, hfind]
    rfl

namespace EnvFile

variable {files : Files} {path : String} {env : Environment}

/-- without a file the environment stays as it is -/
theorem load_eq_of_absent (h : files.contains path = false) (env : Environment) :
    EnvFile.load files path env = (env, .ok false) := by
  rw [EnvFile.load, h]
  rfl

/-- a file that is there and cannot be read is a failure, before any variable is set -/
theorem load_eq_of_unreadable {e : ReadError} (hthere : files.contains path = true) (h : files.read path = .error e)
    (env : Environment) : EnvFile.load files path env =
      (env, .error (.failure (.config ("Failed to load " ++ path ++ ": " ++ e.message)))) := by
  rw [EnvFile.load, hthere, h]
  rfl

theorem load_failure_kind {f : Failure} (h : (EnvFile.load files path env).2 = .error (.failure f)) :
    f.kind = .config := by
  unfold EnvFile.load at h
  split at h
  · cases h
  · split at h
    · cases h
      rfl
    · split at h <;> cases h
      rfl

/-- a line gives a variable that is not set a value with the character NUL -/
def AssignsNul (env : Environment) (line : Bytes) : Prop :=
  ∃ text name value, Text.ofUtf8? line = some text ∧ readLine env text = .ok (some (name, value)) ∧
    env.isSet name = false ∧ '\x00' ∈ value.toList

/-- lines are taken up to one that gives a variable a value with NUL -/
def ReachesNul (env : Environment) (ls : List Bytes) : Prop :=
  ∃ before line after, ls = before ++ line :: after ∧ (applyLines env before).2 = none ∧
    AssignsNul (applyLines env before).1 line

theorem readValue_ne_nul (env : Environment) (cs : List Char) : readValue env cs ≠ .error .nulInValue := by
  unfold readValue
  split <;> rintro ⟨⟩

/-- a line can be read whatever characters it gives to a variable; it is to set the variable that can fail -/
theorem readLine_ne_nul (env : Environment) (line : String) : readLine env line ≠ .error .nulInValue := by
  unfold readLine
  extract_lets trimmed cs
  split
  · rintro ⟨⟩
  · split
    · rintro ⟨⟩
    · extract_lets value
      split
      · rintro ⟨⟩
      · have hvalue := readValue_ne_nul env value
        cases hread : readValue env value with
        | ok v => rintro ⟨⟩
        | error fault =>
          rintro ⟨⟩
          exact hvalue hread

theorem applyLine_nul_iff {line : Bytes} : applyLine env line = .error .nulInValue ↔ AssignsNul env line := by
  unfold applyLine AssignsNul
  cases htext : Text.ofUtf8? line with
  | none => simp
  | some text =>
    cases hread : readLine env text with
    | error fault =>
      have hne : fault ≠ .nulInValue := fun h => readLine_ne_nul env text (h ▸ hread)
      simp [hread, hne]
    | ok assignment =>
      rcases assignment with _ | ⟨name, value⟩
      · simp [hread]
      · simp [hread]

/-- lines stop at the first bad one; what it meets is the environment that those before it left -/
theorem applyLines_fault_iff {ls : List Bytes} {fault : Fault} :
    (applyLines env ls).2 = some fault ↔ ∃ before line after, ls = before ++ line :: after ∧
      (applyLines env before).2 = none ∧ applyLine (applyLines env before).1 line = .error fault := by
  induction ls generalizing env with
  | nil => simp [applyLines]
  | cons l ls ih =>
    cases hl : applyLine env l with
    | error fault' =>
      have hfirst : (applyLines env (l :: ls)).2 = some fault' := by rw [applyLines, hl]
      rw [hfirst]
      constructor
      · rintro ⟨⟩
        exact ⟨[], l, ls, rfl, rfl, hl⟩
      · rintro ⟨before, line, after, hsplit, hnone, hline⟩
        cases before with
        | nil =>
          cases hsplit
          exact congrArg _ (Except.error.inj (hl.symm.trans hline))
        | cons b before =>
          cases hsplit
          rw [applyLines, hl] at hnone
          cases hnone
    | ok env' =>
      have hrest (more : List Bytes) : applyLines env (l :: more) = applyLines env' more := by rw [applyLines, hl]
      rw [hrest, ih]
      constructor
      · rintro ⟨before, line, after, rfl, hnone, hline⟩
        exact ⟨l :: before, line, after, rfl, by rwa [hrest], by rwa [hrest]⟩
      · rintro ⟨before, line, after, hsplit, hnone, hline⟩
        cases before with
        | nil =>
          cases hsplit
          rw [applyLines, hl] at hline
          cases hline
        | cons b before =>
          cases hsplit
          rw [hrest] at hnone hline
          exact ⟨before, line, after, rfl, hnone, hline⟩

theorem applyLines_nul_iff {ls : List Bytes} : (applyLines env ls).2 = some .nulInValue ↔ ReachesNul env ls := by
  simp only [applyLines_fault_iff, applyLine_nul_iff, ReachesNul]

theorem load_eq_abort_iff :
    (EnvFile.load files path env).2 = .error .abort ↔
      ∃ content, files.read path = .ok content ∧ ReachesNul env (lines content) := by
  simp only [← applyLines_nul_iff]
  unfold EnvFile.load
  cases hread : files.read path with
  | error e => cases files.contains path <;> simp
  | ok content =>
    simp only [Files.contains_of_read hread, apply]
    rcases happly : applyLines env (lines content) with ⟨env', _ | _ | _ | _⟩ <;> simp [happly]

end EnvFile

namespace Settings

variable {files : Files} {path : String} {env : Environment} {args : Arguments}

/-- loading ends as reading the file does, or as putting the settings together does -/
theorem load_eq (files : Files) (path : String) (env : Environment) (args : Arguments) :
    load files path env args = match (EnvFile.load files path env).2 with
      | .error halt => .error halt
      | .ok _ => match ofEnvironment (EnvFile.load files path env).1 args with
        | .ok s => .ok s
        | .error f => .error (.failure f) := by
  unfold load
  rcases EnvFile.load files path env with ⟨env', _ | _⟩ <;> rfl

theorem load_failure_kind {f : Failure} (h : load files path env args = .error (.failure f)) : f.kind = .config := by
  rw [load_eq] at h
  split at h
  · rename_i halt hfile
    cases h
    exact EnvFile.load_failure_kind hfile
  · split at h
    · cases h
    · rename_i f' hsettings
      cases h
      exact ofEnvironment_failsAsConfig _ args f hsettings

/-- an environment file that is there and cannot be read ends the loading -/
theorem load_eq_of_unreadable {e : ReadError} (hthere : files.contains path = true) (h : files.read path = .error e) :
    load files path env args = .error (.failure (.config ("Failed to load " ++ path ++ ": " ++ e.message))) := by
  rw [load_eq, EnvFile.load_eq_of_unreadable hthere h]

/-- the one breach there is -/
theorem load_eq_abort_iff :
    load files path env args = .error .abort ↔
      ∃ content, files.read path = .ok content ∧ EnvFile.ReachesNul env (EnvFile.lines content) := by
  rw [← EnvFile.load_eq_abort_iff, load_eq]
  cases (EnvFile.load files path env).2 with
  | error halt => simp
  | ok _ => cases ofEnvironment (EnvFile.load files path env).1 args <;> simp

theorem validate_of_checked {s s' : Settings} (h : s'.checked = .ok s) : s.validate = .ok () := by
  unfold checked at h
  split at h
  · rename_i hvalidate
    cases h
    exact hvalidate
  · cases h

/-- settings that were loaded have been checked -/
theorem validate_of_load {s : Settings} (h : load files path env args = .ok s) : s.validate = .ok () := by
  rw [load_eq] at h
  split at h
  · cases h
  · split at h
    · rename_i hsettings
      cases h
      unfold ofEnvironment at hsettings
      cases hgather : gather (EnvFile.load files path env).1 args with
      | error f =>
        rw [hgather] at hsettings
        cases hsettings
      | ok s' =>
        rw [hgather] at hsettings
        exact validate_of_checked hsettings
    · cases h

/-- valid settings are loaded as the variables and arguments give them, if there is no file -/
theorem load_of_gather {s : Settings} (hfile : files.contains path = false) (hgather : gather env args = .ok s)
    (hvalid : s.validate = .ok ()) : load files path env args = .ok s := by
  have hchecked : s.checked = .ok s := by
    rw [checked, hvalid]
  have hsettings : ofEnvironment env args = .ok s := by
    rw [ofEnvironment, hgather]
    exact hchecked
  rw [load, EnvFile.load_eq_of_absent hfile]
  simp only [hsettings]

/-- the look for warnings finds no fault where the check finds none -/
theorem warnings_of_validate {s : Settings} (h : s.validate = .ok ()) (files : Files) :
    ∃ warnings, s.warnings files = .ok warnings := by
  unfold warnings
  rw [h]
  exact ⟨_, rfl⟩

end Settings

end LoadTrial
