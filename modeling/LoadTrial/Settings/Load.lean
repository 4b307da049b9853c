/-
Where settings come from. Built-in values hold unless a variable of the environment says otherwise, and the
command line has the last word; an environment file sets the variables that are not set. The result is checked.
-/
import LoadTrial.CommandLine.Arguments
import LoadTrial.Environment.EnvFile
import LoadTrial.Files
import LoadTrial.Settings.Variable

namespace LoadTrial

namespace EnvFile

/-- the environment that a file leaves, and whether there was one, or what stopped the reading -/
def load (files : Files) (path : String) (env : Environment) : Environment × Except Halt Bool :=
  if !files.contains path then (env, .ok false)
  else match files.read path with
    | .error e => (env, .error (.failure (.config ("Failed to load " ++ path ++ ": " ++ e.message))))
    | .ok content => match apply env content with
      | (env', none) => (env', .ok true)
      | (env', some .nulInValue) => (env', .error .abort)
      | (env', some fault) => (env', .error (.failure (.config ("Failed to load " ++ path ++ ": " ++ fault.message))))

/-- the environment file of a working directory -/
def defaultPath : String := ".env"

end EnvFile

namespace Settings

/-- the scenarios that a command line asks for: a custom one, chosen ones, or those of the settings -/
def chooseScenarios (args : Arguments) (scenarios : List Profile) : List Profile :=
  match args.customProfile? with
  | some p => [p]
  | none => if args.scenarios.isEmpty then scenarios else args.selectedProfiles

/-- gives all scenarios the timeout of the command line -/
def applyTimeout (timeout : Option UInt64) (scenarios : List Profile) : List Profile :=
  match timeout with
  | some secs => scenarios.map fun p => { p with requestTimeoutSecs := secs }
  | none => scenarios

/-- puts the arguments of a command line over settings -/
def override (args : Arguments) (s : Settings) : Except Failure Settings := do
  match args.validate with
  | .error fault => .error (.config fault.message)
  | .ok () =>
    let logFormat ← match args.logFormat with
      | some text => LogFormat.read text
      | none => .ok s.logFormat
    .ok { s with
      coordinatorUrl := (args.url.map Text.trim).getD s.coordinatorUrl
      trust := {
        caCert := args.caCert.getD s.trust.caCert
        clientCert := args.clientCert.getD s.trust.clientCert
        clientKey := args.clientKey.getD s.trust.clientKey }
      coordinatorId := (args.coordinatorId.map Text.trim).getD s.coordinatorId
      payload := { s.payload with keyId := args.keyId.getD s.payload.keyId }
      scenarios := applyTimeout args.timeout (chooseScenarios args s.scenarios)
      successThreshold := args.threshold.getD s.successThreshold
      emptyPolicy := args.emptyPolicy.getD s.emptyPolicy
      logFormat
      enableColor := s.enableColor && !args.noColor
      jsonOutput := args.json
      verbose := args.verbose
      debug := args.debug }

/-- the settings that variables and arguments give, before they are checked -/
def gather (env : Environment) (args : Arguments) : Except Failure Settings :=
  match merge env {} with
  | (_, some f) => .error f
  | (s, none) => s.override args

/-- checks settings; a fault is a failure of the configuration -/
def checked (s : Settings) : Except Failure Settings :=
  match s.validate with
  | .ok () => .ok s
  | .error fault => .error (.config fault.message)

/-- the settings that an environment and arguments give, with no file -/
def ofEnvironment (env : Environment) (args : Arguments) : Except Failure Settings := do
  checked (← gather env args)

/-- loads settings from all their sources -/
def load (files : Files) (envFile : String) (env : Environment) (args : Arguments) : Except Halt Settings :=
  match EnvFile.load files envFile env with
  | (_, .error halt) => .error halt
  | (env', .ok _) => match ofEnvironment env' args with
    | .ok s => .ok s
    | .error f => .error (.failure f)

end Settings

end LoadTrial
