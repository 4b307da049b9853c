/-
The environment variables that hold settings: what they mean, which values they take, and how they are merged
into settings.
-/
import LoadTrial.Environment.Basic
import LoadTrial.Settings.Validation

namespace LoadTrial

/-- a variable that holds a setting -/
inductive Variable where
  | coordinatorUrl
  | caCertPath
  | clientCertPath
  | clientKeyPath
  | coordinatorId
  | successThreshold
  | emptyScenarioPolicy
  | enableColor
  | logFormat
  deriving DecidableEq, Repr

namespace Variable

def all : List Variable :=
  [.coordinatorUrl, .caCertPath, .clientCertPath, .clientKeyPath, .coordinatorId, .successThreshold,
    .emptyScenarioPolicy, .enableColor, .logFormat]

theorem mem_all (v : Variable) : v ∈ all := by
  cases v <;> decide

theorem nodup_all : all.Nodup := by
  decide

def name : Variable → String
  | .coordinatorUrl => "COORDINATOR_URL"
  | .caCertPath => "CA_CERT_PATH"
  | .clientCertPath => "CLIENT_CERT_PATH"
  | .clientKeyPath => "CLIENT_KEY_PATH"
  | .coordinatorId => "COORDINATOR_ID"
  | .successThreshold => "SUCCESS_THRESHOLD"
  | .emptyScenarioPolicy => "EMPTY_SCENARIO_POLICY"
  | .enableColor => "ENABLE_COLOR"
  | .logFormat => "LOG_FORMAT"

def description : Variable → String
  | .coordinatorUrl => "Signing coordinator base URL"
  | .caCertPath => "CA certificate used to verify the coordinator"
  | .clientCertPath => "Client certificate for mutual TLS"
  | .clientKeyPath => "Client private key for mutual TLS"
  | .coordinatorId => "Coordinator ID in request headers"
  | .successThreshold => "Pass threshold in percent (0-100)"
  | .emptyScenarioPolicy => "Verdict for scenarios with no requests"
  | .enableColor => "Enable colored output"
  | .logFormat => "Log format for stderr diagnostics"

/-- a value by way of example -/
def sample : Variable → String
  | .coordinatorUrl => "https://127.0.0.1:9080"
  | .caCertPath => "certs/ca-cert.pem"
  | .clientCertPath => "certs/client-cert.pem"
  | .clientKeyPath => "certs/client-key.pem"
  | .coordinatorId => "test-coordinator"
  | .successThreshold => "99.0"
  | .emptyScenarioPolicy => "fail"
  | .enableColor => "true"
  | .logFormat => "console"

def ofName? (name : String) : Option Variable :=
  all.find? (·.name == name)

/-! ## Values -/

/-- reads a number; blanks around it do not count -/
def readNumber (variableName value : String) : Except Failure Number.Binary64 :=
  match Number.Binary64.ofText (Text.trim value).toList with
  | .ok x => .ok x
  | .error fault => .error (.config ("Invalid " ++ variableName ++ " value '" ++ value ++ "': " ++ fault.message))

/-- reads a truth value; blanks around it do not count -/
def readBool (variableName value : String) : Except Failure Bool :=
  let word := Text.trim value
  if word == "true" then .ok true
  else if word == "false" then .ok false
  else .error (.config ("Invalid " ++ variableName ++ " value '" ++ value
    ++ "': provided string was not `true` or `false`"))

def checkNotBlank (variableName value : String) : Except Failure Unit :=
  if (Text.trim value).isEmpty then .error (.config (variableName ++ " cannot be empty")) else .ok ()

/-- refuses a value that a variable does not take -/
def check (v : Variable) (value : String) : Except Failure Unit :=
  match v with
  | .coordinatorUrl => match Url.parse (Text.trim value) with
    | .ok _ => .ok ()
    | .error fault => .error (.config ("Invalid COORDINATOR_URL '" ++ value ++ "': " ++ fault.message))
  | .successThreshold => match readNumber v.name value with
    | .error f => .error f
    | .ok t =>
      if Settings.isPercentage t then .ok ()
      else .error (.config ("SUCCESS_THRESHOLD must be between 0 and 100, got: " ++ t.toText))
  | .emptyScenarioPolicy => (EmptyPolicy.read value).map fun _ => ()
  | .enableColor => (readBool v.name value).map fun _ => ()
  | .logFormat => (LogFormat.read value).map fun _ => ()
  | _ => checkNotBlank v.name value

/-- refuses a value of a variable, given by name; other variables take every value -/
def checkNamed (name value : String) : Except Failure Unit :=
  match ofName? name with
  | some v => v.check value
  | none => .ok ()

/-- the failures of the variables that are set -/
def failures (env : Environment) : List Failure :=
  all.filterMap fun v => match env.get? v.name with
    | none => none
    | some value => match v.check value with
      | .ok () => none
      | .error f => some f

/-- one line for each variable whose value is not taken -/
def complaints (env : Environment) : List String :=
  (failures env).map fun f => "Warning: " ++ f.message

/-! ## Merging -/

/-- puts the value of a variable into settings; the log format is a matter of the command line -/
def assign (v : Variable) (value : String) (s : Settings) : Except Failure Settings :=
  match v with
  | .coordinatorUrl => .ok { s with coordinatorUrl := Text.trim value }
  | .caCertPath => .ok { s with trust := { s.trust with caCert := Text.trim value } }
  | .clientCertPath => .ok { s with trust := { s.trust with clientCert := Text.trim value } }
  | .clientKeyPath => .ok { s with trust := { s.trust with clientKey := Text.trim value } }
  | .coordinatorId => .ok { s with coordinatorId := Text.trim value }
  | .successThreshold => (readNumber v.name value).map fun t => { s with successThreshold := t }
  | .emptyScenarioPolicy => (EmptyPolicy.read value).map fun p => { s with emptyPolicy := p }
  | .enableColor => (readBool v.name value).map fun b => { s with enableColor := b }
  | .logFormat => .ok s

/-- merges some variables in order; at the first value that is not taken it stops, and keeps what is merged -/
def mergeAll (env : Environment) (s : Settings) : List Variable → Settings × Option Failure
  | [] => (s, none)
  | v :: rest => match env.get? v.name with
    | none => mergeAll env s rest
    | some value => match v.assign value s with
      | .ok s' => mergeAll env s' rest
      | .error f => (s, some f)

end Variable

/-- merges the environment into settings: the settings left behind, and the failure of the first bad variable -/
def Settings.merge (env : Environment) (s : Settings) : Settings × Option Failure :=
  Variable.mergeAll env s Variable.all

end LoadTrial
