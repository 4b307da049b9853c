/-
Flags over variables.

Where a flag is given, what the environment has to say about its setting does not count (`overridden_congr`): two
environments that differ in that variable alone give the same settings (`ofEnvironment_congr_of_masks`). But the
environment is merged as a whole before the command line is looked at, and a variable whose text is not taken ends the
merging. So a variable under a flag still shows, where it changes which failure is the first (`firstRefusal?`): that
can be with a number, a policy or a truth value, and with no other variable (`refusal?_eq_none`). A failure of the
merging is never mistaken for one that comes later, as the ninth letter of its text tells (`BlamesVariable`).

Main result: `flag_masks_iff`, with the witness `threshold_masked`. Command lines with a flag under which the
variable shows are in `variable_shows_under_flag`.
-/
import Mathlib.Tactic
import LoadTrial.Proofs.CommandLine
import LoadTrial.Proofs.VariableInFile

namespace LoadTrial

/-! ## Refusals -/

section Failures

variable {α β : Type}

/-- the failure that a result is, if it is one -/
def failure? : Except Failure α → Option Failure
  | .ok _ => none
  | .error f => some f

@[simp] theorem failure?_map (r : Except Failure α) (g : α → β) : failure? (r.map g) = failure? r := by
  cases r <;> rfl

theorem failure?_eq_some_iff {r : Except Failure α} {f : Failure} : failure? r = some f ↔ r = .error f := by
  cases r <;> simp [failure?]

end Failures

namespace Variable

/-- the failure of a variable that is set to a text it does not take -/
def refusal? (v : Variable) (text : Option String) : Option Failure :=
  text.bind fun value => failure? (v.assign value Settings.builtin)

/-- the failure of the first variable that is set to a text it does not take -/
def firstRefusal? (env : Environment) : Option Failure :=
  all.findSome? fun v => v.refusal? (env.get? v.name)

/-- a variable that takes every text -/
def takesEveryText : Variable → Bool
  | .successThreshold | .emptyScenarioPolicy | .enableColor => false
  | _ => true

/-- the flag for the setting that a variable holds -/
def flag : Variable → Argument
  | .coordinatorUrl => .url
  | .caCertPath => .caCert
  | .clientCertPath => .clientCert
  | .clientKeyPath => .clientKey
  | .coordinatorId => .coordinatorId
  | .successThreshold => .threshold
  | .emptyScenarioPolicy => .emptyPolicy
  | .enableColor => .noColor
  | .logFormat => .logFormat

variable {v : Variable} {env env' : Environment}

theorem refusal?_eq_none (h : v.takesEveryText = true) (text : Option String) : v.refusal? text = none := by
  rcases text with _ | value
  · rfl
  · cases v with
    | successThreshold | emptyScenarioPolicy | enableColor => cases h
    | _ => rfl

/-- whether a text is taken does not depend on the settings that it goes into -/
theorem failure?_assign (v : Variable) (value : String) (s : Settings) :
    failure? (v.assign value s) = v.refusal? (some value) := by
  cases v with
  | successThreshold | emptyScenarioPolicy | enableColor =>
    rw [refusal?, Option.bind_some, assign, assign, failure?_map, failure?_map]
  | _ => rfl

/-- merging fails with the first variable that is not taken -/
theorem mergeAll_failure (env : Environment) (s : Settings) (vs : List Variable) :
    (mergeAll env s vs).2 = vs.findSome? fun v => v.refusal? (env.get? v.name) := by
  induction vs generalizing s with
  | nil => rfl
  | cons v vs ih =>
    rw [List.findSome?_cons]
    cases hvalue : env.get? v.name with
    | none =>
      simp only [mergeAll, hvalue]
      exact ih s
    | some value =>
      rw [← failure?_assign v value s]
      cases hassign : v.assign value s with
      | error f => simp only [mergeAll, hvalue, hassign, failure?]
      | ok s' =>
        simp only [mergeAll, hvalue, hassign, failure?]
        exact ih s'

theorem firstRefusal?_congr (hv : v.takesEveryText = true)
    (h : ∀ w : Variable, w ≠ v → env'.get? w.name = env.get? w.name) : firstRefusal? env' = firstRefusal? env := by
  have hsame : (fun w : Variable => w.refusal? (env'.get? w.name)) = fun w => w.refusal? (env.get? w.name) := by
    funext w
    by_cases hw : w = v
    · rw [hw, refusal?_eq_none hv, refusal?_eq_none hv]
    · rw [h w hw]
  rw [firstRefusal?, firstRefusal?, hsame]

end Variable

/-! ## Whose failure it is -/

/-- a text that begins with the name of a variable behind "Invalid ", or with the word for an empty policy there; no
other failure of the configuration has these letters in the ninth place -/
def Failure.BlamesVariable (f : Failure) : Prop :=
  f.text.toList[8]? ∈ [some 'S', some 'e', some 'E']

instance (f : Failure) : Decidable f.BlamesVariable :=
  inferInstanceAs (Decidable (_ ∈ _))

/-- only the first letters of a text count -/
theorem Failure.blamesVariable_append {front : String} (h : 8 < front.toList.length) (rest : String) :
    (Failure.config (front ++ rest)).BlamesVariable ↔ (Failure.config front).BlamesVariable := by
  rw [BlamesVariable, BlamesVariable, config, config, String.toList_append, List.getElem?_append_left h]

/-- the name of a variable that is not valid -/
theorem Failure.blamesVariable_invalid {name : String} (h : 0 < name.toList.length) (rest : String) :
    (Failure.config ("Invalid " ++ (name ++ rest))).BlamesVariable ↔
      (Failure.config ("Invalid " ++ name)).BlamesVariable := by
  rw [← String.append_assoc]
  refine blamesVariable_append ?_ rest
  rw [String.toList_append, List.length_append]
  exact Nat.lt_add_of_pos_right h

namespace Variable

theorem blames_of_readNumber {value : String} {f : Failure} (h : readNumber successThreshold.name value = .error f) :
    f.BlamesVariable := by
  rw [readNumber] at h
  split at h
  · cases h
  · cases h
    simp only [String.append_assoc]
    exact (Failure.blamesVariable_invalid (by decide +kernel) _).2 (by decide +kernel)

theorem blames_of_readBool {value : String} {f : Failure} (h : readBool enableColor.name value = .error f) :
    f.BlamesVariable := by
  rw [readBool] at h
  split_ifs at h
  cases h
  simp only [String.append_assoc]
  exact (Failure.blamesVariable_invalid (by decide +kernel) _).2 (by decide +kernel)

theorem blames_of_readPolicy {value : String} {f : Failure} (h : EmptyPolicy.read value = .error f) :
    f.BlamesVariable := by
  rw [EmptyPolicy.read] at h
  split_ifs at h
  cases h
  rw [String.append_assoc]
  exact (Failure.blamesVariable_append (by decide +kernel) _).2 (by decide +kernel)

/-- a variable that is not taken is blamed -/
theorem blames_of_refusal? {v : Variable} {text : Option String} {f : Failure} (h : v.refusal? text = some f) :
    f.BlamesVariable := by
  obtain ⟨value, -, hvalue⟩ := Option.bind_eq_some_iff.1 h
  cases v with
  | successThreshold =>
    rw [assign, failure?_map, failure?_eq_some_iff] at hvalue
    exact blames_of_readNumber hvalue
  | emptyScenarioPolicy =>
    rw [assign, failure?_map, failure?_eq_some_iff] at hvalue
    exact blames_of_readPolicy hvalue
  | enableColor =>
    rw [assign, failure?_map, failure?_eq_some_iff] at hvalue
    exact blames_of_readBool hvalue
  | _ => cases hvalue

theorem blames_of_firstRefusal? {env : Environment} {f : Failure} (h : firstRefusal? env = some f) :
    f.BlamesVariable := by
  obtain ⟨v, -, hv⟩ := List.exists_of_findSome?_eq_some h
  exact blames_of_refusal? hv

end Variable

theorem Arguments.not_blames_fault (fault : Fault) : ¬(Failure.config fault.message).BlamesVariable := by
  cases fault <;> decide +kernel

theorem LogFormat.not_blames_read {text : String} {f : Failure} (h : LogFormat.read text = .error f) :
    ¬f.BlamesVariable := by
  rw [LogFormat.read] at h
  split_ifs at h
  cases h
  exact (Failure.blamesVariable_append (by decide +kernel) _).not.2 (by decide +kernel)

theorem Settings.not_blames_fault (fault : Fault) : ¬(Failure.config fault.message).BlamesVariable := by
  cases fault with
  | emptyUrl | emptyCoordinatorId | noScenario => decide +kernel
  | _ =>
    -- the equations of `message` would take longer to derive than the proof
    delta Fault.message
    simp only [String.append_assoc]
    exact (Failure.blamesVariable_append (by decide +kernel) _).not.2 (by decide +kernel)

/-! ## Settings under flags -/

/-- the arguments have a value for the setting of a variable -/
def Arguments.masks (args : Arguments) : Variable → Bool
  | .coordinatorUrl => args.url.isSome
  | .caCertPath => args.caCert.isSome
  | .clientCertPath => args.clientCert.isSome
  | .clientKeyPath => args.clientKey.isSome
  | .coordinatorId => args.coordinatorId.isSome
  | .successThreshold => args.threshold.isSome
  | .emptyScenarioPolicy => args.emptyPolicy.isSome
  | .enableColor => args.noColor
  | .logFormat => args.logFormat.isSome

/-- two settings agree in what a variable decides -/
def Variable.Agree (v : Variable) (s s' : Settings) : Prop :=
  match v with
  | .coordinatorUrl => s.coordinatorUrl = s'.coordinatorUrl
  | .caCertPath => s.trust.caCert = s'.trust.caCert
  | .clientCertPath => s.trust.clientCert = s'.trust.clientCert
  | .clientKeyPath => s.trust.clientKey = s'.trust.clientKey
  | .coordinatorId => s.coordinatorId = s'.coordinatorId
  | .successThreshold => s.successThreshold = s'.successThreshold
  | .emptyScenarioPolicy => s.emptyPolicy = s'.emptyPolicy
  | .enableColor => s.enableColor = s'.enableColor
  | .logFormat => s.logFormat = s'.logFormat

theorem ComesFrom.unique {α : Type} {flag : Option α} {text : Option String} {read : String → Except Failure α}
    {builtIn value value' : α} (h : ComesFrom flag text read builtIn value)
    (h' : ComesFrom flag text read builtIn value') : value = value' := by
  rcases flag with _ | given
  · rcases text with _ | text
    · exact Eq.trans h (Eq.symm h')
    · exact Except.ok.inj ((Eq.symm h).trans h')
  · exact Eq.trans h (Eq.symm h')

theorem Variable.Decides.agree {v : Variable} {text : Option String} {before s s' : Settings}
    (h : v.Decides text before s) (h' : v.Decides text before s') : v.Agree s s' := by
  cases v with
  | logFormat => exact Eq.trans h (Eq.symm h')
  | _ => exact ComesFrom.unique h h'

namespace CommandLine

variable {argv : List String} {args : Arguments}

theorem Accepts.masks (h : Accepts argv args) {v : Variable} (hv : v ≠ .logFormat) (hgives : Gives argv v.flag) :
    args.masks v = true := by
  have hsome {α : Type} {value : Option α} (hne : value.toList ≠ []) : value.isSome = true := by
    cases value with
    | none => exact absurd rfl hne
    | some given => rfl
  have hread {α : Type} {value : Option α} {read : String → Except Argument.ValueFault α} {texts : List String}
      (hne : texts ≠ []) (htexts : texts.map read = value.toList.map .ok) : value.isSome = true := by
    refine hsome fun hnil => hne ?_
    rwa [hnil, List.map_nil, List.map_eq_nil_iff] at htexts
  have htells := h.tells v.flag (by cases v <;> first | exact absurd rfl hv | nofun)
  cases v with
  | logFormat => exact absurd rfl hv
  | coordinatorUrl => exact hsome fun hnil => hgives (Eq.trans htells hnil)
  | coordinatorId => exact hsome fun hnil => hgives (Eq.trans htells hnil)
  | enableColor =>
    have hnoColor : args.noColor = !(textsOf .noColor (occurrences argv)).isEmpty := htells
    have hnotEmpty : (textsOf .noColor (occurrences argv)).isEmpty = false :=
      List.isEmpty_eq_false_iff.2 hgives
    rw [Arguments.masks, hnoColor, hnotEmpty]
    rfl
  | _ => exact hread hgives htells

end CommandLine

namespace Settings

variable {env env' : Environment} {args : Arguments} {v : Variable} {s s' : Settings}

/-- what the arguments have a value for does not count -/
theorem overridden_congr (h : ∀ v, args.masks v = true ∨ v.Agree s s') (hpayload : s.payload = s'.payload)
    (hscenarios : s.scenarios = s'.scenarios) (format : LogFormat) :
    overridden args format s = overridden args format s' := by
  have hgetD {α : Type} {flag : Option α} {a a' : α} (hflag : flag.isSome = true ∨ a = a') :
      flag.getD a = flag.getD a' := by
    cases flag with
    | none => exact hflag.resolve_left nofun
    | some given => rfl
  have hurl : (args.url.map Text.trim).getD s.coordinatorUrl = (args.url.map Text.trim).getD s'.coordinatorUrl :=
    hgetD ((h .coordinatorUrl).imp_left Option.isSome_map.trans)
  have hid : (args.coordinatorId.map Text.trim).getD s.coordinatorId =
      (args.coordinatorId.map Text.trim).getD s'.coordinatorId :=
    hgetD ((h .coordinatorId).imp_left Option.isSome_map.trans)
  have hcolor : (s.enableColor && !args.noColor) = (s'.enableColor && !args.noColor) := by
    rcases h .enableColor with hnoColor | hsame
    · rw [show args.noColor = true from hnoColor, Bool.not_true, Bool.and_false, Bool.and_false]
    · rw [show s.enableColor = s'.enableColor from hsame]
  rw [overridden, overridden, hurl, hid, hcolor, hpayload, hscenarios, hgetD (h .caCertPath), hgetD (h .clientCertPath),
    hgetD (h .clientKeyPath), hgetD (h .successThreshold), hgetD (h .emptyScenarioPolicy)]

/-- settings that are merged from two environments are the same under a flag for the variable in which these differ -/
theorem override_merge_congr (hmasks : args.masks v = true)
    (hothers : ∀ w : Variable, w ≠ v → env'.get? w.name = env.get? w.name) (h : (merge env builtin).2 = none)
    (h' : (merge env' builtin).2 = none) :
    (merge env' builtin).1.override args = (merge env builtin).1.override args := by
  have hfollows := follows_merge h
  have hfollows' := follows_merge h'
  have hformat : (merge env' builtin).1.logFormat = (merge env builtin).1.logFormat :=
    Eq.trans (hfollows'.decides .logFormat) (Eq.symm (hfollows.decides .logFormat))
  have hagree (w : Variable) : args.masks w = true ∨ w.Agree (merge env' builtin).1 (merge env builtin).1 := by
    by_cases hw : w = v
    · exact .inl (hw ▸ hmasks)
    · refine .inr (Variable.Decides.agree (hfollows'.decides w) ?_)
      rw [hothers w hw]
      exact hfollows.decides w
  have hoverridden := overridden_congr hagree (hfollows'.payload.trans hfollows.payload.symm)
    (hfollows'.scenarios.trans hfollows.scenarios.symm)
  rw [override_eq, override_eq, hformat]
  simp only [hoverridden]

theorem merge_failure (env : Environment) : (merge env builtin).2 = Variable.firstRefusal? env :=
  Variable.mergeAll_failure env builtin Variable.all

/-- under a flag, a variable counts only through the first failure -/
theorem ofEnvironment_congr_of_masks (hmasks : args.masks v = true)
    (hothers : ∀ w : Variable, w ≠ v → env'.get? w.name = env.get? w.name)
    (hfirst : Variable.firstRefusal? env' = Variable.firstRefusal? env) :
    ofEnvironment env' args = ofEnvironment env args := by
  rw [ofEnvironment, ofEnvironment, gather_eq, gather_eq, merge_failure, merge_failure, hfirst]
  cases hmerge : Variable.firstRefusal? env with
  | some f => rfl
  | none =>
    dsimp only
    rw [override_merge_congr hmasks hothers ((merge_failure env).trans hmerge)
      ((merge_failure env').trans (hfirst.trans hmerge))]

/-- where merging fails, loading does -/
theorem ofEnvironment_of_firstRefusal? {f : Failure} (h : Variable.firstRefusal? env = some f) (args : Arguments) :
    ofEnvironment env args = .error f := by
  rw [ofEnvironment, gather_eq, merge_failure, h]
  rfl

theorem not_blames_override {f : Failure} (h : s.override args = .error f) : ¬f.BlamesVariable := by
  rw [override_eq] at h
  cases hargs : args.validate with
  | error fault =>
    rw [hargs] at h
    cases h
    exact Arguments.not_blames_fault fault
  | ok _ =>
    simp only [hargs] at h
    cases hformat : formatOver args s.logFormat with
    | ok format =>
      rw [hformat] at h
      cases h
    | error f' =>
      rw [hformat] at h
      cases h
      rw [formatOver] at hformat
      split at hformat
      · exact LogFormat.not_blames_read hformat
      · cases hformat

theorem not_blames_checked {f : Failure} (h : s.checked = .error f) : ¬f.BlamesVariable := by
  rw [checked] at h
  split at h
  · cases h
  · cases h
    exact not_blames_fault _

/-- a failure behind the merging is not one of a variable -/
theorem not_blames_ofEnvironment {f : Failure} (hnone : Variable.firstRefusal? env = none)
    (h : ofEnvironment env args = .error f) : ¬f.BlamesVariable := by
  rw [ofEnvironment, gather_eq, merge_failure, hnone] at h
  dsimp only at h
  cases hoverride : (merge env builtin).1.override args with
  | error f' =>
    rw [hoverride] at h
    cases h
    exact not_blames_override hoverride
  | ok gathered =>
    rw [hoverride] at h
    exact not_blames_checked h

/-- what loading comes to shows which variable was refused first -/
theorem firstRefusal?_eq_of_ofEnvironment (h : ofEnvironment env' args = ofEnvironment env args) :
    Variable.firstRefusal? env' = Variable.firstRefusal? env := by
  cases hfirst : Variable.firstRefusal? env with
  | some f =>
    have hfails' := h.trans (ofEnvironment_of_firstRefusal? hfirst args)
    cases hfirst' : Variable.firstRefusal? env' with
    | some f' => exact congrArg some (Except.error.inj ((ofEnvironment_of_firstRefusal? hfirst' args).symm.trans hfails'))
    | none => exact absurd (Variable.blames_of_firstRefusal? hfirst) (not_blames_ofEnvironment hfirst' hfails')
  | none =>
    cases hfirst' : Variable.firstRefusal? env' with
    | some f' =>
      have hfails := h.symm.trans (ofEnvironment_of_firstRefusal? hfirst' args)
      exact absurd (Variable.blames_of_firstRefusal? hfirst') (not_blames_ofEnvironment hfirst hfails)
    | none => rfl

end Settings

/-! ## Processes under flags -/

namespace CommandLine

/-- a flag for the log format leaves nothing for the environment to say -/
theorem parse_congr_of_gives {argv : List String} (h : Gives argv .logFormat) (env env' : Environment) :
    parse env' argv = parse env argv := by
  rw [parse, parse]
  cases hwords : Progress.words {} argv with
  | error refusal => rfl
  | ok p =>
    have hholds : p.Holds (occurrences argv) := holds_words (Progress.holds_start.reads rfl) hwords
    have hgiven : p.given.contains .logFormat = true := List.contains_iff_mem.2 ((hholds.given _).2 h)
    have htexts : textsOf .logFormat (occurrences argv) = p.values.logFormat.toList := hholds.tells .logFormat
    obtain ⟨text, htext⟩ : ∃ text, p.values.logFormat = some text := by
      rw [Gives, htexts] at h
      cases hformat : p.values.logFormat with
      | none => exact absurd (by rw [hformat]; rfl) h
      | some text => exact ⟨text, rfl⟩
    dsimp only [bind, Except.bind]
    rw [hgiven, htext]
    simp

end CommandLine

/-- what a process comes to from its arguments: a refusal of the command line, which it reads first, or the settings, or
what keeps it from loading them -/
def configure (files : Files) (env : Environment) (argv : List String) :
    Except CommandLine.Refusal (Except Halt Settings) :=
  (CommandLine.parse env argv).map (Settings.load files EnvFile.defaultPath env)

section Processes

variable {files : Files} {env env' : Environment} {argv : List String} {v : Variable}

open Settings

theorem load_eq_iff_of_absent (hfile : files.contains EnvFile.defaultPath = false) {args : Arguments} :
    load files EnvFile.defaultPath env' args = load files EnvFile.defaultPath env args ↔
      ofEnvironment env' args = ofEnvironment env args := by
  rw [load_eq, load_eq, EnvFile.load_eq_of_absent hfile, EnvFile.load_eq_of_absent hfile]
  cases ofEnvironment env' args <;> cases ofEnvironment env args <;> simp

/-- the command line is read the same -/
theorem parse_congr_of_flag (hgives : CommandLine.Gives argv v.flag)
    (hothers : ∀ w : Variable, w ≠ v → env'.get? w.name = env.get? w.name) :
    CommandLine.parse env' argv = CommandLine.parse env argv := by
  by_cases hv : v = .logFormat
  · subst hv
    exact CommandLine.parse_congr_of_gives hgives env env'
  · exact CommandLine.parse_congr (hothers .logFormat (Ne.symm hv)) argv

/-- settings come to the same just if the same variable is refused first -/
theorem ofEnvironment_eq_iff (hgives : CommandLine.Gives argv v.flag)
    (hothers : ∀ w : Variable, w ≠ v → env'.get? w.name = env.get? w.name) {args : Arguments}
    (hparse : CommandLine.parse env argv = .ok args) :
    ofEnvironment env' args = ofEnvironment env args ↔ Variable.firstRefusal? env' = Variable.firstRefusal? env := by
  refine ⟨firstRefusal?_eq_of_ofEnvironment, fun hfirst => ?_⟩
  by_cases hv : v = .logFormat
  · subst hv
    exact ofEnvironment_congr hothers args
  · exact ofEnvironment_congr_of_masks ((CommandLine.accepts_of_parse hparse).masks hv hgives) hothers hfirst

/-- **A flag masks its variable, but for the failures of the variable's text.** A command line has a flag for the
setting of a variable, there is no environment file, and two environments differ in that variable alone. Then the
process comes to the same in both, to the same settings or the same end, if the variable is one that takes every text;
and for all variables, it does if and only if the command line is refused, or the first variable that is set to a text
that it does not take is the same in both environments, with the same failure, or in neither there is one. -/
theorem flag_masks_iff (hgives : CommandLine.Gives argv v.flag) (hfile : files.contains EnvFile.defaultPath = false)
    (hothers : ∀ name, name ≠ v.name → env'.get? name = env.get? name) :
    (v.takesEveryText = true → configure files env' argv = configure files env argv) ∧
      (configure files env' argv = configure files env argv ↔
        ∀ args, CommandLine.parse env argv = .ok args → Variable.firstRefusal? env' = Variable.firstRefusal? env) := by
  have hvariables (w : Variable) (hw : w ≠ v) : env'.get? w.name = env.get? w.name :=
    hothers w.name (Variable.name_ne hw)
  have hiff : configure files env' argv = configure files env argv ↔
      ∀ args, CommandLine.parse env argv = .ok args → Variable.firstRefusal? env' = Variable.firstRefusal? env := by
    rw [configure, configure, parse_congr_of_flag hgives hvariables]
    cases hparse : CommandLine.parse env argv with
    | error refusal =>
      rw [Except.map, Except.map]
      exact iff_of_true rfl fun _ h => nomatch h
    | ok args =>
      rw [Except.map, Except.map, Except.ok.injEq, load_eq_iff_of_absent hfile,
        ofEnvironment_eq_iff hgives hvariables hparse]
      exact ⟨fun hfirst _ _ => hfirst, fun h => h args rfl⟩
  exact ⟨fun hv => hiff.2 fun _ _ => Variable.firstRefusal?_congr hv hvariables, hiff⟩

/-- under a flag for the threshold, a threshold that can be read does not count -/
theorem threshold_masked :
    let argv := ["--threshold", "50", "--url", "http://[::1]:9080"]
    let env := Environment.ofList [("SUCCESS_THRESHOLD", " 1e2 ")]
    let s : Settings := { coordinatorUrl := "http://[::1]:9080", successThreshold := .ofNat 50 }
    configure .bare env argv = configure .bare {} argv ∧ configure .bare {} argv = .ok (.ok s) := by
  intro argv env s
  have hothers (name : String) (hname : name ≠ Variable.successThreshold.name) :
      env.get? name = ({} : Environment).get? name :=
    (Environment.get?_single _ _ name).trans (if_neg hname)
  have hgives : CommandLine.Gives argv Variable.successThreshold.flag := by decide +kernel
  have hsame := (flag_masks_iff hgives (Files.contains_bare EnvFile.defaultPath) hothers).2
  exact ⟨hsame.2 fun _ _ => by decide +kernel, by decide +kernel⟩

/-- a flag for the setting of a variable is given, and still the variable counts -/
def ShowsUnderFlag (argv : List String) (v : Variable) (value : String) : Prop :=
  CommandLine.Gives argv v.flag ∧ configure .bare (.ofList [(v.name, value)]) argv ≠ configure .bare {} argv

instance (argv : List String) (v : Variable) (value : String) : Decidable (ShowsUnderFlag argv v value) :=
  inferInstanceAs (Decidable (_ ∧ _))

/-- a number, a policy and a truth value that cannot be read -/
theorem variable_shows_under_flag :
    ShowsUnderFlag ["--threshold", "50", "--url", "http://[::1]:9080"] .successThreshold "abc" ∧
      ShowsUnderFlag ["--empty-policy", "pass", "--url", "http://[::1]:9080"] .emptyScenarioPolicy "maybe" ∧
      ShowsUnderFlag ["--no-color", "--url", "http://[::1]:9080"] .enableColor "yes" := by
  decide +kernel

end Processes

end LoadTrial
