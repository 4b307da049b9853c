/-
Which source a setting comes from.

The command line goes before the environment, and the environment before the built-in values (`ComesFrom`). A variable
decides its own setting and no other: `Variable.follows_assign` says so of merging one variable, and
`Variable.follows_mergeAll`, by induction, of merging several. The arguments go over the result (`sources_override`).
As nothing else of the environment is looked at, two environments that agree on the variables give the same settings
(`ofEnvironment_congr`).

Main result: `Settings.sources_of_load`, with the witness `file_below_environment`.
-/
import Mathlib.Tactic
import LoadTrial.Proofs.EnvironmentFile

namespace LoadTrial

/-! ## Sources -/

section Sources

variable {α : Type}

/-- a value comes from a flag if it is given, else from the text of a variable if it is set, as that is read, and else
it is the built-in one -/
def ComesFrom (flag : Option α) (text : Option String) (read : String → Except Failure α) (builtIn value : α) : Prop :=
  match flag, text with
  | some given, _ => value = given
  | none, some text => read text = .ok value
  | none, none => value = builtIn

theorem ComesFrom.override {text : Option String} {read : String → Except Failure α} {builtIn value : α}
    (h : ComesFrom none text read builtIn value) (flag : Option α) :
    ComesFrom flag text read builtIn (flag.getD value) := by
  cases flag with
  | none => exact h
  | some given => rfl

end Sources

theorem map_eq_ok {ε α β : Type} {r : Except ε α} {f : α → β} {b : β} (h : r.map f = .ok b) :
    ∃ a, r = .ok a ∧ f a = b := by
  cases r with
  | error e => cases h
  | ok a => exact ⟨a, rfl, Except.ok.inj h⟩

theorem bind_eq_ok {ε α β : Type} {r : Except ε α} {f : α → Except ε β} {b : β} (h : (r >>= f) = .ok b) :
    ∃ a, r = .ok a ∧ f a = .ok b := by
  cases r with
  | error e => cases h
  | ok a => exact ⟨a, rfl, h⟩

/-- a text is taken without the blanks at its ends -/
def readTrimmed (text : String) : Except Failure String :=
  .ok (Text.trim text)

/-! ## Variables -/

namespace Variable

/-- the setting of a variable is what its text says, or what it was if there is no text -/
def Decides (v : Variable) (text : Option String) (before after : Settings) : Prop :=
  match v with
  | .coordinatorUrl => ComesFrom none text readTrimmed before.coordinatorUrl after.coordinatorUrl
  | .caCertPath => ComesFrom none text readTrimmed before.trust.caCert after.trust.caCert
  | .clientCertPath => ComesFrom none text readTrimmed before.trust.clientCert after.trust.clientCert
  | .clientKeyPath => ComesFrom none text readTrimmed before.trust.clientKey after.trust.clientKey
  | .coordinatorId => ComesFrom none text readTrimmed before.coordinatorId after.coordinatorId
  | .successThreshold => ComesFrom none text (readNumber v.name) before.successThreshold after.successThreshold
  | .emptyScenarioPolicy => ComesFrom none text EmptyPolicy.read before.emptyPolicy after.emptyPolicy
  | .enableColor => ComesFrom none text (readBool v.name) before.enableColor after.enableColor
  | .logFormat => after.logFormat = before.logFormat

end Variable

/-- settings follow from others by what the variables say: each decides its own setting, and the rest stays -/
structure Settings.Follows (text : Variable → Option String) (before after : Settings) : Prop where
  decides : ∀ v : Variable, v.Decides (text v) before after
  payload : after.payload = before.payload
  scenarios : after.scenarios = before.scenarios
  jsonOutput : after.jsonOutput = before.jsonOutput
  verbose : after.verbose = before.verbose
  debug : after.debug = before.debug

namespace Variable

variable {env : Environment} {v : Variable} {text : Option String} {value : String} {s s1 s2 : Settings}

theorem decides_none_self (v : Variable) (s : Settings) : v.Decides none s s := by
  cases v <;> rfl

/-- at most one of two steps has something to say about a variable -/
theorem Decides.trans {text' : Option String} (h : v.Decides text s s1) (h' : v.Decides text' s1 s2)
    (hone : text = none ∨ text' = none) : v.Decides (text <|> text') s s2 := by
  rcases hone with rfl | rfl
  · cases text' <;> cases v <;> simp_all [Decides, ComesFrom]
  · cases text <;> cases v <;> simp_all [Decides, ComesFrom]

/-- a variable decides its own setting -/
theorem decides_assign (h : v.assign value s = .ok s1) : v.Decides (some value) s s1 := by
  cases v with
  | successThreshold | emptyScenarioPolicy | enableColor =>
    rw [assign] at h
    obtain ⟨setting, hread, hs⟩ := map_eq_ok h
    subst hs
    exact hread
  | _ =>
    rw [assign] at h
    cases h
    rfl

/-- a variable decides its own setting and no other -/
theorem follows_assign (h : v.assign value s = .ok s1) :
    Settings.Follows (fun w => if w = v then some value else none) s s1 := by
  have hown := decides_assign h
  have hall (hothers : ∀ w, w ≠ v → w.Decides none s s1) (w : Variable) :
      w.Decides (if w = v then some value else none) s s1 := by
    by_cases hw : w = v
    · subst hw
      rwa [if_pos rfl]
    · rw [if_neg hw]
      exact hothers w hw
  cases v with
  | successThreshold | emptyScenarioPolicy | enableColor =>
    rw [assign] at h
    obtain ⟨setting, -, hs⟩ := map_eq_ok h
    subst hs
    exact ⟨hall fun w hw => by cases w <;> first | exact absurd rfl hw | rfl, rfl, rfl, rfl, rfl, rfl⟩
  | _ =>
    rw [assign] at h
    cases h
    exact ⟨hall fun w hw => by cases w <;> first | exact absurd rfl hw | rfl, rfl, rfl, rfl, rfl, rfl⟩

/-- nothing follows where nothing is said -/
theorem follows_self (s : Settings) : Settings.Follows (fun _ => none) s s :=
  ⟨fun v => decides_none_self v s, rfl, rfl, rfl, rfl, rfl⟩

theorem follows_trans {text text' : Variable → Option String} (h : Settings.Follows text s s1)
    (h' : Settings.Follows text' s1 s2) (hone : ∀ v, text v = none ∨ text' v = none) :
    Settings.Follows (fun v => text v <|> text' v) s s2 where
  decides v := (h.decides v).trans (h'.decides v) (hone v)
  payload := h'.payload.trans h.payload
  scenarios := h'.scenarios.trans h.scenarios
  jsonOutput := h'.jsonOutput.trans h.jsonOutput
  verbose := h'.verbose.trans h.verbose
  debug := h'.debug.trans h.debug

/-- several variables, each at most once, decide each its own setting -/
theorem follows_mergeAll {vs : List Variable} (hnodup : vs.Nodup) (h : (mergeAll env s vs).2 = none) :
    Settings.Follows (fun v => if v ∈ vs then env.get? v.name else none) s (mergeAll env s vs).1 := by
  induction vs generalizing s with
  | nil => exact follows_self s
  | cons v vs ih =>
    obtain ⟨hv, hnodup⟩ := List.nodup_cons.1 hnodup
    have htext : (fun w => if w ∈ v :: vs then env.get? w.name else none) =
        fun w => (if w = v then env.get? v.name else none) <|> (if w ∈ vs then env.get? w.name else none) := by
      funext w
      by_cases hw : w = v
      · subst hw
        simp [hv]
      · simp [hw]
    have hone (w : Variable) : (if w = v then env.get? v.name else none) = none ∨
        (if w ∈ vs then env.get? w.name else none) = none := by
      by_cases hw : w = v
      · subst hw
        exact .inr (if_neg hv)
      · exact .inl (if_neg hw)
    rw [htext]
    cases hvalue : env.get? v.name with
    | none =>
      have hrest : mergeAll env s (v :: vs) = mergeAll env s vs := by simp only [mergeAll, hvalue]
      rw [hrest] at h ⊢
      simpa using ih hnodup h
    | some value =>
      rw [hvalue] at hone
      cases hassign : v.assign value s with
      | error f => simp [mergeAll, hvalue, hassign] at h
      | ok s1 =>
        have hrest : mergeAll env s (v :: vs) = mergeAll env s1 vs := by simp only [mergeAll, hvalue, hassign]
        rw [hrest] at h ⊢
        exact follows_trans (follows_assign hassign) (ih hnodup h) hone

/-- the environment counts through the variables only, and not through the one for the log format -/
theorem mergeAll_congr {env' : Environment} (h : ∀ v : Variable, v ≠ .logFormat → env'.get? v.name = env.get? v.name)
    (s : Settings) (vs : List Variable) : mergeAll env' s vs = mergeAll env s vs := by
  induction vs generalizing s with
  | nil => rfl
  | cons v vs ih =>
    by_cases hv : v = .logFormat
    · subst hv
      have hskip (e : Environment) : mergeAll e s (.logFormat :: vs) = mergeAll e s vs := by
        rw [mergeAll]
        cases e.get? Variable.logFormat.name <;> rfl
      rw [hskip, hskip, ih]
    · rw [mergeAll, mergeAll, h v hv]
      simp only [ih]

end Variable

/-! ## Settings -/

namespace Settings

variable {files : Files} {path : String} {env env' : Environment} {args : Arguments} {s merged : Settings}

/-- the settings that hold where nothing else is said -/
def builtin : Settings := {}

/-- merging that succeeds takes all variables that are set -/
theorem follows_merge (h : (merge env s).2 = none) : Follows (fun v => env.get? v.name) s (merge env s).1 := by
  simpa [Variable.mem_all, merge] using Variable.follows_mergeAll Variable.nodup_all h

/-- where each setting comes from, given the texts of the variables and the arguments -/
structure Sources (text : Variable → Option String) (args : Arguments) (s : Settings) : Prop where
  coordinatorUrl : ComesFrom (args.url.map Text.trim) (text .coordinatorUrl) readTrimmed builtin.coordinatorUrl
    s.coordinatorUrl
  caCert : ComesFrom args.caCert (text .caCertPath) readTrimmed builtin.trust.caCert s.trust.caCert
  clientCert : ComesFrom args.clientCert (text .clientCertPath) readTrimmed builtin.trust.clientCert s.trust.clientCert
  clientKey : ComesFrom args.clientKey (text .clientKeyPath) readTrimmed builtin.trust.clientKey s.trust.clientKey
  coordinatorId : ComesFrom (args.coordinatorId.map Text.trim) (text .coordinatorId) readTrimmed builtin.coordinatorId
    s.coordinatorId
  successThreshold : ComesFrom args.threshold (text .successThreshold)
    (Variable.readNumber Variable.successThreshold.name) builtin.successThreshold s.successThreshold
  emptyPolicy : ComesFrom args.emptyPolicy (text .emptyScenarioPolicy) EmptyPolicy.read builtin.emptyPolicy s.emptyPolicy
  enableColor : ComesFrom (if args.noColor then some false else none) (text .enableColor)
    (Variable.readBool Variable.enableColor.name) true s.enableColor
  payload : s.payload = { builtin.payload with keyId := args.keyId.getD builtin.payload.keyId }
  scenarios : s.scenarios = applyTimeout args.timeout (chooseScenarios args Profile.builtin)
  /-- the text of an argument only, whatever the variables say -/
  logFormat : ComesFrom none args.logFormat LogFormat.read .console s.logFormat
  jsonOutput : s.jsonOutput = args.json
  verbose : s.verbose = args.verbose
  debug : s.debug = args.debug

theorem checked_eq_ok (h : merged.checked = .ok s) : merged = s := by
  unfold checked at h
  cases hvalidate : merged.validate with
  | ok _ =>
    rw [hvalidate] at h
    exact Except.ok.inj h
  | error fault =>
    rw [hvalidate] at h
    cases h

/-- settings with the arguments over them, and with a format for the log -/
def overridden (args : Arguments) (format : LogFormat) (s : Settings) : Settings where
  coordinatorUrl := (args.url.map Text.trim).getD s.coordinatorUrl
  trust := {
    caCert := args.caCert.getD s.trust.caCert
    clientCert := args.clientCert.getD s.trust.clientCert
    clientKey := args.clientKey.getD s.trust.clientKey }
  coordinatorId := (args.coordinatorId.map Text.trim).getD s.coordinatorId
  payload := { s.payload with keyId := args.keyId.getD s.payload.keyId }
  scenarios := applyTimeout args.timeout (chooseScenarios args s.scenarios)
  successThreshold := args.threshold.getD s.successThreshold
  emptyPolicy := args.emptyPolicy.getD s.emptyPolicy
  logFormat := format
  enableColor := s.enableColor && !args.noColor
  jsonOutput := args.json
  verbose := args.verbose
  debug := args.debug

/-- the log format that the arguments ask for -/
def formatOver (args : Arguments) (format : LogFormat) : Except Failure LogFormat :=
  match args.logFormat with
  | some text => LogFormat.read text
  | none => .ok format

theorem override_eq (args : Arguments) (s : Settings) : s.override args = match args.validate with
    | .error fault => .error (.config fault.message)
    | .ok () => (formatOver args s.logFormat).map (overridden args · s) := by
  unfold override formatOver
  cases args.validate with
  | error fault => rfl
  | ok _ =>
    cases args.logFormat with
    | none => rfl
    | some text =>
      dsimp only
      cases LogFormat.read text <;> rfl

theorem comesFrom_formatOver {format builtIn : LogFormat} (h : formatOver args builtIn = .ok format) :
    ComesFrom none args.logFormat LogFormat.read builtIn format := by
  unfold formatOver at h
  unfold ComesFrom
  cases htext : args.logFormat with
  | none =>
    rw [htext] at h
    exact (Except.ok.inj h).symm
  | some text =>
    rw [htext] at h
    exact h

/-- the arguments go over what the variables say -/
theorem sources_override {text : Variable → Option String} (hfollows : Follows text builtin merged)
    (h : merged.override args = .ok s) : Sources text args s := by
  rw [override_eq] at h
  cases hargs : args.validate with
  | error fault =>
    rw [hargs] at h
    cases h
  | ok _ =>
    simp only [hargs] at h
    obtain ⟨format, hformat, hs⟩ := map_eq_ok h
    have hlogFormat : merged.logFormat = .console := hfollows.decides .logFormat
    rw [hlogFormat] at hformat
    subst hs
    exact {
      coordinatorUrl := (hfollows.decides .coordinatorUrl).override _
      caCert := (hfollows.decides .caCertPath).override _
      clientCert := (hfollows.decides .clientCertPath).override _
      clientKey := (hfollows.decides .clientKeyPath).override _
      coordinatorId := (hfollows.decides .coordinatorId).override _
      successThreshold := (hfollows.decides .successThreshold).override _
      emptyPolicy := (hfollows.decides .emptyScenarioPolicy).override _
      enableColor := by
        have hcolor : ComesFrom none (text .enableColor) (Variable.readBool Variable.enableColor.name) true
            merged.enableColor := hfollows.decides .enableColor
        cases hnoColor : args.noColor with
        | true => simp [ComesFrom, overridden, hnoColor]
        | false => simpa [overridden, hnoColor] using hcolor
      payload := by simp only [overridden, hfollows.payload]
      scenarios := by simp only [overridden, hfollows.scenarios]; rfl
      logFormat := comesFrom_formatOver hformat
      jsonOutput := rfl
      verbose := rfl
      debug := rfl }

theorem gather_eq (env : Environment) (args : Arguments) : gather env args = match (merge env builtin).2 with
    | some f => .error f
    | none => (merge env builtin).1.override args := by
  have hbuiltin : merge env builtin = merge env {} := rfl
  rw [gather, hbuiltin]
  rcases merge env {} with ⟨merged, _ | f⟩ <;> rfl

theorem override_of_ofEnvironment (h : ofEnvironment env args = .ok s) :
    (merge env builtin).2 = none ∧ (merge env builtin).1.override args = .ok s := by
  rw [ofEnvironment, gather_eq] at h
  cases hmerge : (merge env builtin).2 with
  | some f =>
    rw [hmerge] at h
    cases h
  | none =>
    simp only [hmerge] at h
    cases hoverride : (merge env builtin).1.override args with
    | error f =>
      rw [hoverride] at h
      cases h
    | ok gathered =>
      rw [hoverride] at h
      exact ⟨rfl, congrArg _ (checked_eq_ok h)⟩

theorem ofEnvironment_congr (h : ∀ v : Variable, v ≠ .logFormat → env'.get? v.name = env.get? v.name)
    (args : Arguments) : ofEnvironment env' args = ofEnvironment env args := by
  rw [ofEnvironment, ofEnvironment, gather, gather, merge, merge, Variable.mergeAll_congr h]

theorem load_eq_ok_iff : load files path env args = .ok s ↔
    (∃ found, (EnvFile.load files path env).2 = .ok found) ∧
      ofEnvironment (EnvFile.load files path env).1 args = .ok s := by
  rw [load_eq]
  cases (EnvFile.load files path env).2 with
  | error halt => simp
  | ok found => cases ofEnvironment (EnvFile.load files path env).1 args <;> simp

/-- **Arguments go before variables, and variables before built-in values.** Behind the environment file the variables
that were set have their values, and the others those that the file gives them first; from this environment, the
arguments and the built-in values each setting comes as `Sources` says. All other sources of an environment in which
the variables for settings have these values, the one for the log format excepted, lead to the same settings. -/
theorem sources_of_load (h : load files path env args = .ok s) :
    let reached := (EnvFile.load files path env).1
    EnvFile.Extends files path env reached ∧ Sources (fun v => reached.get? v.name) args s ∧
      ∀ files' path' env' found, (EnvFile.load files' path' env').2 = .ok found →
        (∀ v : Variable, v ≠ .logFormat → (EnvFile.load files' path' env').1.get? v.name = reached.get? v.name) →
        load files' path' env' args = .ok s := by
  obtain ⟨⟨found, hfile⟩, hsettings⟩ := load_eq_ok_iff.1 h
  obtain ⟨hmerge, hoverride⟩ := override_of_ofEnvironment hsettings
  refine ⟨EnvFile.load_extends hfile, sources_override (follows_merge hmerge) hoverride, ?_⟩
  intro files' path' env' found' hfile' hagree
  exact load_eq_ok_iff.2 ⟨⟨found', hfile'⟩, (ofEnvironment_congr hagree args).trans hsettings⟩

/-- a file gives the coordinator a name, and a threshold that the environment has given already -/
theorem file_below_environment :
    let files := Files.lone ".env" (Text.utf8 "COORDINATOR_ID=' probe '\nSUCCESS_THRESHOLD=50\n")
    let env := Environment.ofList [("SUCCESS_THRESHOLD", "95"), ("COORDINATOR_URL", "http://example.org")]
    let filled := Environment.ofList [("COORDINATOR_ID", " probe "), ("SUCCESS_THRESHOLD", "95"),
      ("COORDINATOR_URL", "http://example.org"), ("LOG_FORMAT", "json")]
    let args : Arguments := { url := some " http://[::1]:9080", noColor := true }
    let s : Settings := {
      coordinatorUrl := "http://[::1]:9080", coordinatorId := "probe", successThreshold := .ofNat 95,
      enableColor := false }
    load files ".env" env args = .ok s ∧ Sources (fun v => (EnvFile.load files ".env" env).1.get? v.name) args s ∧
      load .bare ".env" filled args = .ok s := by
  intro files env filled args s
  have hload : load files ".env" env args = .ok s := by decide +kernel
  obtain ⟨-, hsources, hothers⟩ := sources_of_load hload
  refine ⟨hload, hsources, hothers .bare ".env" filled false rfl fun v hv => ?_⟩
  cases v <;> first | exact absurd rfl hv | decide +kernel

end Settings

end LoadTrial
