/-
The scenarios that are run.

Which scenarios a trial runs is a matter of the command line alone: what is written there (`CommandLine.occurrences`)
asks for one custom scenario, for built-in ones by name, or, where it is silent, for all of them (`Asks`). Neither the
environment nor an environment file can add a scenario, drop one or change its numbers, and the names that the reader
of arguments lets through are names of profiles (`byName_of_readChoice`), so none is lost on the way.

Main result: `Settings.scenarios_follow_command_line`, with the witness `light_twice_and_stress`.
-/
import LoadTrial.Proofs.CommandLine
import LoadTrial.Proofs.Loading
import LoadTrial.Proofs.Timeout
import LoadTrial.Proofs.Validation

namespace LoadTrial

namespace CommandLine

/-! ## What is asked for -/

/-- the number that is written behind an argument, if there is one -/
def Counts (argv : List String) (a : Argument) (n : Option UInt64) : Prop :=
  (textsOf a (occurrences argv)).map Argument.readCount = n.toList.map .ok

/-- the profiles that a command line asks for, but for their timeouts -/
inductive Asks (argv : List String) : List Profile → Prop
  | custom {clients requests delayMs poolSize : Option UInt64} (given : Gives argv .clients ∨ Gives argv .requests)
    (hclients : Counts argv .clients clients) (hrequests : Counts argv .requests requests)
    (hdelay : Counts argv .delayMs delayMs) (hpool : Counts argv .poolSize poolSize) :
    Asks argv [{
      name := "Custom Load"
      numClients := clients.getD Profile.light.numClients
      requestsPerClient := requests.getD Profile.light.requestsPerClient
      requestDelayMs := delayMs.getD Profile.light.requestDelayMs
      connectionPoolSize := poolSize.getD Profile.light.connectionPoolSize }]
  | chosen {profiles : List Profile} (notCustom : ¬(Gives argv .clients ∨ Gives argv .requests))
    (given : Gives argv .scenario)
    (each : List.Forall₂ (fun text p => p ∈ Profile.builtin ∧ Profile.byName text = .ok p)
      (textsOf .scenario (occurrences argv)) profiles) : Asks argv profiles
  | all (notCustom : ¬(Gives argv .clients ∨ Gives argv .requests)) (notGiven : ¬Gives argv .scenario) :
    Asks argv [.light, .medium, .high, .stress]

/-- the timeout that a command line asks for, in seconds -/
inductive AsksTimeout (argv : List String) : UInt64 → Prop
  | given {text : String} {secs : UInt64} (only : textsOf .timeout (occurrences argv) = [text])
    (read : Argument.readTimeout text = .ok secs) (low : 1 ≤ secs) (high : secs ≤ 300) : AsksTimeout argv secs
  | silent (notGiven : ¬Gives argv .timeout) : AsksTimeout argv 30

variable {argv : List String} {args : Arguments}

theorem Counts.gives_iff {a : Argument} {n : Option UInt64} (h : Counts argv a n) :
    Gives argv a ↔ n.isSome = true := by
  have hlength := congrArg List.length h
  rw [List.length_map, List.length_map] at hlength
  rw [Gives, ← List.length_pos_iff, hlength]
  cases n <;> simp

theorem readTimeout_bounds {text : String} {secs : UInt64} (h : Argument.readTimeout text = .ok secs) :
    1 ≤ secs ∧ secs ≤ 300 := by
  obtain ⟨-, -, hlow, hhigh⟩ := Argument.readTimeout_eq_ok_iff.1 h
  rw [UInt64.le_iff_toNat_le, UInt64.le_iff_toNat_le]
  exact ⟨hlow, hhigh⟩

/-- the names that are let through are those of built-in profiles -/
theorem byName_of_readChoice {text : String} {preset : Preset}
    (h : Argument.readChoice Preset.ofName? text = .ok preset) :
    preset.profile ∈ Profile.builtin ∧ Profile.byName text = .ok preset.profile := by
  rw [Argument.readChoice] at h
  split_ifs at h
  rcases hname : Preset.ofName? text with _ | found
  · rw [hname] at h
    cases h
  · rw [hname] at h
    cases h
    have htext : preset.name = text := by simpa using List.find?_some hname
    subst htext
    cases preset <;> decide +kernel

theorem Accepts.asks (h : Accepts argv args) : Asks argv (Settings.chooseScenarios args Profile.builtin) := by
  have hclients : Counts argv .clients args.clients := h.tells .clients nofun
  have hrequests : Counts argv .requests args.requests := h.tells .requests nofun
  have hcustom : args.isCustom = true ↔ Gives argv .clients ∨ Gives argv .requests := by
    rw [hclients.gives_iff, hrequests.gives_iff, Arguments.isCustom, Bool.or_eq_true]
  rw [Settings.chooseScenarios, Arguments.customProfile?]
  have hscenarios : (textsOf .scenario (occurrences argv)).map (Argument.readChoice Preset.ofName?) =
      args.scenarios.map .ok := h.tells .scenario nofun
  by_cases hgiven : args.isCustom = true
  · rw [if_pos hgiven]
    exact .custom (hcustom.1 hgiven) hclients hrequests (h.tells .delayMs nofun) (h.tells .poolSize nofun)
  rw [if_neg hgiven]
  dsimp only
  split_ifs with hnone
  · rw [List.isEmpty_iff.1 hnone] at hscenarios
    exact .all (hcustom.not.1 hgiven) (not_not.2 (List.map_eq_nil_iff.1 hscenarios))
  · have heach : List.Forall₂ (fun text preset => Argument.readChoice Preset.ofName? text = .ok preset)
        (textsOf .scenario (occurrences argv)) args.scenarios := by
      rw [← List.forall₂_eq_eq_eq, List.forall₂_map_left_iff, List.forall₂_map_right_iff] at hscenarios
      exact hscenarios
    have hwritten : Gives argv .scenario := by
      intro hnil
      rw [hnil, List.forall₂_nil_left_iff] at heach
      exact hnone (List.isEmpty_iff.2 heach)
    exact .chosen (hcustom.not.1 hgiven) hwritten
      (List.forall₂_map_right_iff.2 (heach.imp fun text preset hread => byName_of_readChoice hread))

theorem Accepts.asksTimeout (h : Accepts argv args) : AsksTimeout argv (args.timeout.getD 30) := by
  have htimeout : (textsOf .timeout (occurrences argv)).map Argument.readTimeout = args.timeout.toList.map .ok :=
    h.tells .timeout nofun
  cases hsecs : args.timeout with
  | none =>
    rw [hsecs] at htimeout
    exact .silent (not_not.2 (List.map_eq_nil_iff.1 htimeout))
  | some secs =>
    rw [hsecs] at htimeout
    obtain ⟨text, htext, hread⟩ := List.map_eq_singleton_iff.1 htimeout
    obtain ⟨hlow, hhigh⟩ := readTimeout_bounds hread
    exact .given htext hread hlow hhigh

end CommandLine

/-- a plan has the numbers of a profile -/
structure Plan.Carries (plan : Plan) (p : Profile) : Prop where
  label : plan.label = p.name
  numClients : plan.numClients = p.numClients
  requestsPerClient : plan.requestsPerClient = p.requestsPerClient
  requestDelay : plan.requestDelay = .ofMillis p.requestDelayMs
  requestTimeout : plan.requestTimeout = .ofSecs p.requestTimeoutSecs
  connectionPoolSize : plan.connectionPoolSize = p.connectionPoolSize

namespace Settings

variable {env : Environment} {argv : List String} {args : Arguments}

theorem plans_carry (s : Settings) : List.Forall₂ Plan.Carries s.plans s.scenarios :=
  List.forall₂_map_left_iff.2 (List.forall₂_same.2 fun _ _ => ⟨rfl, rfl, rfl, rfl, rfl, rfl⟩)

/-- built-in values for the timeout are the same in all scenarios that can be asked for -/
theorem applyTimeout_eq {profiles : List Profile} (h : CommandLine.Asks argv profiles) (timeout : Option UInt64) :
    applyTimeout timeout profiles = profiles.map fun p => { p with requestTimeoutSecs := timeout.getD 30 } := by
  cases timeout with
  | some secs => rfl
  | none =>
    have hbuiltin : ∀ p ∈ Profile.builtin, { p with requestTimeoutSecs := 30 } = p := by decide
    have hthirty : ∀ p ∈ profiles, { p with requestTimeoutSecs := 30 } = p := by
      cases h with
      | custom => simp
      | chosen notCustom given each =>
        exact fun p hp => hbuiltin p (((List.forall₂_and_left _ _).1 each.flip).1 p hp)
      | all => exact hbuiltin
    rw [applyTimeout, Option.getD_none, List.map_congr_left hthirty, List.map_id']

/-- **The command line alone decides what is run.** A command line that is accepted never asks for a custom scenario
and for built-in ones together. If settings are loaded with it, whatever the environment and its file, the scenarios are
those that it asks for, in order and each as often as it is written there, all with the timeout that it asks for and with
a pool of one connection at least; and there is one plan for each scenario, in order and with its numbers. -/
theorem scenarios_follow_command_line (hparse : CommandLine.parse env argv = .ok args) :
    (∀ a : Argument, a.isCustom = true → CommandLine.Gives argv a → ¬CommandLine.Gives argv .scenario) ∧
    ∀ files path s, load files path env args = .ok s →
      (∃ profiles secs, CommandLine.Asks argv profiles ∧ CommandLine.AsksTimeout argv secs ∧
        s.scenarios = profiles.map fun p => { p with requestTimeoutSecs := secs }) ∧
      (∀ p ∈ s.scenarios, 1 ≤ p.connectionPoolSize) ∧
      List.Forall₂ Plan.Carries s.plans s.scenarios := by
  have haccepts := CommandLine.accepts_of_parse hparse
  refine ⟨fun a ha hcustom hchosen => ?_, fun files path s hload => ?_⟩
  · have hexcludes := haccepts.compatible .scenario a hchosen hcustom
    rw [Argument.excludes, ha] at hexcludes
    cases hexcludes
  · obtain ⟨-, hsettings⟩ := load_eq_ok_iff.1 hload
    obtain ⟨hmerge, hoverride⟩ := override_of_ofEnvironment hsettings
    have hscenarios := (sources_override (follows_merge hmerge) hoverride).scenarios
    rw [applyTimeout_eq haccepts.asks] at hscenarios
    exact ⟨⟨_, _, haccepts.asks, haccepts.asksTimeout, hscenarios⟩,
      (validate_eq_ok_iff.1 (validate_of_load hload)).poolSize, plans_carry s⟩

/-- the light profile twice, with the stress profile between -/
theorem light_twice_and_stress :
    let argv := ["--scenario", "light", "--scenario=stress", "-t7", "--scenario", "light", "--url", "http://[::1]:9080"]
    let env := Environment.ofList [("COORDINATOR_ID", "probe")]
    let args : Arguments := {
      url := some "http://[::1]:9080", scenarios := [.light, .stress, .light], timeout := some 7 }
    let withSeven (p : Profile) : Profile := { p with requestTimeoutSecs := 7 }
    let s : Settings := {
      coordinatorUrl := "http://[::1]:9080", coordinatorId := "probe"
      scenarios := [withSeven .light, withSeven .stress, withSeven .light] }
    CommandLine.parse env argv = .ok args ∧ load .bare ".env" env args = .ok s ∧
      (∃ profiles secs, CommandLine.Asks argv profiles ∧ CommandLine.AsksTimeout argv secs ∧
        s.scenarios = profiles.map fun p => { p with requestTimeoutSecs := secs }) ∧
      List.Forall₂ Plan.Carries s.plans s.scenarios := by
  intro argv env args withSeven s
  have hparse : CommandLine.parse env argv = .ok args := by decide +kernel
  have hload : load .bare ".env" env args = .ok s := by decide +kernel
  obtain ⟨hasks, -, hplans⟩ := (scenarios_follow_command_line hparse).2 _ _ _ hload
  exact ⟨hparse, hload, hasks, hplans⟩

end Settings

end LoadTrial
