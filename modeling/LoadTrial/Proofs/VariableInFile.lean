/-
A variable set by the environment file instead of the environment.

A line of the file that quotes a value is worth the variable itself (`load_eq_of_moves`): behind the file the
environment gives every name what it gives it where the variable is set. So it makes no difference to the settings
which of the two sets a variable, with one exception. The log format is a matter of the command line, and that is read
before the file is: a log format in the file is lost. It makes a difference just where the command line names no log
format and the file names another one than the built-in, or none at all.

Main result: `configured_in_file`, with the witness `quoted_coordinator_id`; `log_format_in_file_lost` is an input on
which the file and the environment are not worth the same.
-/
import Mathlib.Tactic
import LoadTrial.CommandLine.Parser
import LoadTrial.Proofs.Precedence

namespace LoadTrial

/-! ## Command lines -/

/-- arguments with a log format, unless they have one -/
def Arguments.orLogFormat (args : Arguments) (text : Option String) : Arguments :=
  { args with logFormat := args.logFormat <|> text }

theorem Arguments.orLogFormat_of_isSome {args : Arguments} (h : args.logFormat.isSome) (text : Option String) :
    args.orLogFormat text = args := by
  obtain ⟨given, hgiven⟩ := Option.isSome_iff_exists.1 h
  cases args
  cases hgiven
  rfl

namespace CommandLine

variable {env env' : Environment}

/-- the environment counts through the log format only -/
theorem parse_congr (h : env'.get? Variable.logFormat.name = env.get? Variable.logFormat.name) (argv : List String) :
    parse env' argv = parse env argv := by
  rw [parse, parse, h]

/-- a log format of the environment counts only where the command line names none -/
theorem parse_toOption (hunset : env.get? Variable.logFormat.name = none) (env' : Environment) (argv : List String) :
    (parse env' argv).toOption =
      (parse env argv).toOption.map (·.orLogFormat (env'.get? Variable.logFormat.name)) := by
  unfold parse
  cases Progress.words {} argv with
  | error refusal => rfl
  | ok p =>
    dsimp only [Except.bind, bind]
    cases p.conflict? with
    | some conflict => rfl
    | none => simp [Except.toOption, Arguments.orLogFormat, hunset]

end CommandLine

/-! ## Settings of a process -/

/-- the settings that a process reaches from its arguments: those of its command line, which it reads first, over those
of its environment and of the environment file; none if it refuses one of them -/
def configured? (files : Files) (env : Environment) (argv : List String) : Option Settings :=
  (CommandLine.parse env argv).toOption.bind fun args => (Settings.load files EnvFile.defaultPath env args).toOption

/-- a variable is set in an environment, with no environment file, and is not set in another one that is the same else,
with an environment file whose only line quotes the value -/
structure Moves (v : Variable) (value : String) (noFile : Files) (full : Environment) (files : Files)
    (env : Environment) : Prop where
  noQuote : '\'' ∉ value.toList
  noBreak : '\n' ∉ value.toList
  noNul : '\x00' ∉ value.toList
  unset : env.get? v.name = none
  set : ∀ name, full.get? name = if name = v.name then some value else env.get? name
  absent : noFile.contains EnvFile.defaultPath = false
  line : ∃ ending ∈ EnvFile.lineEnds,
    files.read EnvFile.defaultPath = .ok (Text.utf8 (EnvFile.quotedLine v.name value) ++ ending)

theorem Variable.isName_name (v : Variable) : EnvFile.IsName v.name.toList := by
  cases v <;> exact ⟨⟨_, _, rfl, by decide⟩, List.all_eq_true.1 (by decide)⟩

/-- an environment with one variable -/
theorem Environment.get?_single (name value other : String) :
    (ofList [(name, value)]).get? other = if other = name then some value else none := by
  have hset : ofList [(name, value)] = empty.setIfUnset name value := rfl
  rw [hset, get?_setIfUnset]
  simp [empty, get?]

/-- a directory with an environment file whose only line quotes a value -/
def lineFile (v : Variable) (value : String) : Files :=
  .lone EnvFile.defaultPath (Text.utf8 (EnvFile.quotedLine v.name value) ++ [0x0A])

theorem moves_lineFile (v : Variable) (value : String)
    (h : '\'' ∉ value.toList ∧ '\n' ∉ value.toList ∧ '\x00' ∉ value.toList) :
    Moves v value .bare (.ofList [(v.name, value)]) (lineFile v value) {} where
  noQuote := h.1
  noBreak := h.2.1
  noNul := h.2.2
  unset := rfl
  set := Environment.get?_single v.name value
  absent := Files.contains_bare _
  line := ⟨[0x0A], by decide, Files.read_lone (by decide) _⟩

theorem Variable.name_ne {v w : Variable} (h : v ≠ w) : v.name ≠ w.name := by
  cases v <;> cases w <;> first | exact absurd rfl h | decide

section Moving

variable {v : Variable} {value : String} {noFile files : Files} {full env : Environment}

open Settings

theorem load_of_absent (h : noFile.contains EnvFile.defaultPath = false) (env : Environment) (args : Arguments) :
    (load noFile EnvFile.defaultPath env args).toOption = (ofEnvironment env args).toOption := by
  rw [load_eq, EnvFile.load_eq_of_absent h]
  cases ofEnvironment env args <;> rfl

theorem load_of_moves (h : Moves v value noFile full files env) (args : Arguments) :
    (load files EnvFile.defaultPath env args).toOption =
      (ofEnvironment (env.setIfUnset v.name value) args).toOption := by
  obtain ⟨ending, hending, hread⟩ := h.line
  have hfile : EnvFile.load files EnvFile.defaultPath env = (env.setIfUnset v.name value, .ok true) := by
    rw [EnvFile.load, Files.contains_of_read hread, hread]
    simp only [EnvFile.apply_quoted env v.isName_name h.noQuote h.noBreak h.noNul hending]
    rfl
  rw [load_eq, hfile]
  cases ofEnvironment (env.setIfUnset v.name value) args <;> rfl

/-- the file is worth the variable, as far as loading goes -/
theorem load_eq_of_moves (h : Moves v value noFile full files env) (args : Arguments) :
    (load files EnvFile.defaultPath env args).toOption = (load noFile EnvFile.defaultPath full args).toOption := by
  have hagree (name : String) : (env.setIfUnset v.name value).get? name = full.get? name := by
    rw [Environment.get?_setIfUnset, h.set]
    simp [h.unset]
  rw [load_of_moves h, load_of_absent h.absent, ofEnvironment_congr fun w _ => hagree w.name]

theorem configured_eq_of_moves (h : Moves v value noFile full files env) (hv : v ≠ .logFormat) (argv : List String) :
    configured? noFile full argv = configured? files env argv := by
  have hformat : full.get? Variable.logFormat.name = env.get? Variable.logFormat.name := by
    rw [h.set, if_neg (Variable.name_ne (Ne.symm hv))]
  rw [configured?, configured?, CommandLine.parse_congr hformat]
  simp only [load_eq_of_moves h]

/-! ## The log format -/

/-- a log format in the file changes nothing -/
theorem configured_logFormat (h : Moves .logFormat value noFile full files env) (argv : List String) :
    configured? files env argv = configured? noFile env argv := by
  have hagree (w : Variable) (hw : w ≠ .logFormat) :
      (env.setIfUnset Variable.logFormat.name value).get? w.name = env.get? w.name := by
    rw [Environment.get?_setIfUnset, if_neg fun hname => Variable.name_ne hw hname.1]
  unfold configured?
  simp only [load_of_moves h, load_of_absent h.absent, ofEnvironment_congr hagree]

/-- the check does not look at the log format -/
theorem checked_logFormat (s : Settings) (format : LogFormat) : (checked { s with logFormat := format }).toOption =
    (checked s).toOption.map fun s => { s with logFormat := format } := by
  have hvalidate : validate { s with logFormat := format } = validate s := rfl
  rw [checked, checked, hvalidate]
  cases validate s <;> rfl

/-- the text of a log format decides the log format, if it can be read, and nothing else -/
theorem ofEnvironment_logFormat (env : Environment) {args : Arguments} (hargs : args.logFormat = none) (text : String) :
    (ofEnvironment env (args.orLogFormat (some text))).toOption =
      (ofEnvironment env args).toOption.bind fun s =>
        (LogFormat.read text).toOption.map fun format => { s with logFormat := format } := by
  have hnone : formatOver args (merge env builtin).1.logFormat = .ok (merge env builtin).1.logFormat := by
    rw [formatOver, hargs]
  have htext : formatOver (args.orLogFormat (some text)) (merge env builtin).1.logFormat = LogFormat.read text := by
    rw [formatOver, Arguments.orLogFormat, hargs]
    rfl
  have hvalidate : (args.orLogFormat (some text)).validate = args.validate := rfl
  rw [ofEnvironment, ofEnvironment, gather_eq, gather_eq]
  rcases (merge env builtin).2 with _ | f
  · dsimp only
    rw [override_eq, override_eq, hvalidate]
    cases args.validate with
    | error fault => rfl
    | ok _ =>
      dsimp only
      rw [hnone, htext]
      cases LogFormat.read text with
      | error f => exact (Option.bind_fun_none _).symm
      | ok format => exact (checked_logFormat (overridden args _ _) format).trans Option.map_eq_bind
  · rfl

theorem logFormat_of_ofEnvironment {args : Arguments} {s : Settings} (hargs : args.logFormat = none)
    (h : ofEnvironment env args = .ok s) : s.logFormat = .console := by
  obtain ⟨hmerge, hoverride⟩ := override_of_ofEnvironment h
  have hformat := (sources_override (follows_merge hmerge) hoverride).logFormat
  rwa [hargs] at hformat

/-- a log format that is not given counts, unless it is the built-in one or nothing is reached anyway -/
theorem ofEnvironment_orLogFormat_iff (env : Environment) (args : Arguments) (text : String) :
    (ofEnvironment env (args.orLogFormat (some text))).toOption = (ofEnvironment env args).toOption ↔
      (args.logFormat = none → (ofEnvironment env args).toOption.isSome → LogFormat.read text = .ok .console) := by
  cases hformat : args.logFormat with
  | some given => simp [Arguments.orLogFormat_of_isSome, hformat]
  | none =>
    rw [ofEnvironment_logFormat env hformat]
    cases hsettings : ofEnvironment env args with
    | error f => simp [Except.toOption]
    | ok s =>
      have hconsole := logFormat_of_ofEnvironment hformat hsettings
      cases LogFormat.read text with
      | error f => simp [Except.toOption]
      | ok format =>
        have hsame : { s with logFormat := format } = s ↔ format = .console := by
          refine ⟨fun heq => ?_, fun heq => ?_⟩
          · rw [← hconsole, ← heq]
          · cases s
            cases heq
            cases hconsole
            rfl
        simpa [Except.toOption] using hsame

/-- **A variable in the file is worth the variable, the log format excepted.** Whatever the command line, the
environment and the value, settings are reached from a line of the file just as from the variable itself. A log format
in the file changes nothing; so it is not worth the variable just where settings are reached from a command line that
names no log format, and the value is not the built-in one. -/
theorem configured_in_file (h : Moves v value noFile full files env) (argv : List String) :
    (v ≠ .logFormat → configured? noFile full argv = configured? files env argv) ∧
    (v = .logFormat → configured? files env argv = configured? noFile env argv ∧
      (configured? noFile full argv = configured? files env argv ↔
        ∀ args, CommandLine.parse env argv = .ok args → args.logFormat = none →
          (configured? files env argv).isSome → LogFormat.read value = .ok .console)) := by
  refine ⟨fun hv => configured_eq_of_moves h hv argv, ?_⟩
  rintro rfl
  have hfile := configured_logFormat h argv
  refine ⟨hfile, ?_⟩
  have hvalue : full.get? Variable.logFormat.name = some value := by rw [h.set, if_pos rfl]
  have hagree (w : Variable) (hw : w ≠ .logFormat) : full.get? w.name = env.get? w.name := by
    rw [h.set, if_neg (Variable.name_ne hw)]
  rw [hfile, configured?, configured?, CommandLine.parse_toOption h.unset full, hvalue]
  simp only [load_of_absent h.absent, ofEnvironment_congr hagree]
  cases CommandLine.parse env argv with
  | error refusal => simp [Except.toOption]
  | ok args =>
    have hok : (.ok args : Except CommandLine.Refusal Arguments).toOption = some args := rfl
    rw [hok, Option.map_some, Option.bind_some, Option.bind_some, ofEnvironment_orLogFormat_iff]
    exact ⟨fun hread args' hargs => by cases hargs; exact hread, fun hread => hread args rfl⟩

end Moving

/-- a value with blanks, an escape, a reference and a comment in it -/
theorem quoted_coordinator_id :
    let value := " a\\b $HOME # \"c\" "
    let argv := ["--url", "http://[::1]:9080", "--json"]
    let files := lineFile .coordinatorId value
    configured? .bare (.ofList [("COORDINATOR_ID", value)]) argv = configured? files {} argv ∧
      (configured? files {} argv).map (·.coordinatorId) = some "a\\b $HOME # \"c\"" := by
  intro value argv files
  have hmoves := moves_lineFile .coordinatorId value (by decide +kernel)
  exact ⟨(configured_in_file hmoves argv).1 (by decide), by decide +kernel⟩

/-- the file loses the log format -/
theorem log_format_in_file_lost :
    let argv := ["--url", "http://[::1]:9080"]
    let full := Environment.ofList [("LOG_FORMAT", "json")]
    let files := lineFile .logFormat "json"
    Moves .logFormat "json" .bare full files {} ∧
      (configured? .bare full argv).map (·.logFormat) = some .json ∧
      (configured? files {} argv).map (·.logFormat) = some .console := by
  refine ⟨moves_lineFile .logFormat "json" (by decide +kernel), ?_, ?_⟩ <;> decide +kernel

end LoadTrial
