/-
The settings of a trial, with the values that hold where nothing else is said, and the plans of its scenarios.
-/
import LoadTrial.Criterion
import LoadTrial.Number.Text
import LoadTrial.Settings.LogFormat
import LoadTrial.Settings.Profile
import LoadTrial.Text.Blank
import LoadTrial.Wire.Signing

namespace LoadTrial

/-- where the trust material is read from -/
structure TrustPaths where
  caCert : String := "../../certs/local/ca-cert.pem"
  clientCert : String := "../../certs/local/coordinator-cert.pem"
  clientKey : String := "../../.kms/coordinator-key.pem"
  deriving DecidableEq, Repr

structure Settings where
  coordinatorUrl : String := "https://127.0.0.1:9080"
  trust : TrustPaths := {}
  coordinatorId : String := "test-coordinator"
  payload : SigningPayload := {}
  /-- the least success rate in percent with which a scenario passes -/
  successThreshold : Number.Binary64 := .ofNat 99
  emptyPolicy : EmptyPolicy := .fail
  /-- the scenarios to run, in order -/
  scenarios : List Profile := Profile.builtin
  enableColor : Bool := true
  jsonOutput : Bool := false
  logFormat : LogFormat := .console
  verbose : Bool := false
  debug : Bool := false
  deriving DecidableEq

/-- all that one scenario needs to run; its clients share it -/
structure Plan where
  label : String
  coordinatorUrl : String
  trust : TrustPaths
  coordinatorId : String
  payload : SigningPayload
  numClients : UInt64
  requestsPerClient : UInt64
  requestDelay : Duration
  requestTimeout : Duration
  connectionPoolSize : UInt64
  deriving DecidableEq

namespace Plan

/-- the path of the signing endpoint, below the coordinator's own -/
def signPath : String := "/api/v1/sign"

/-- the URL of the signing endpoint -/
def signUrl (p : Plan) : String :=
  Text.trimEndOf '/' p.coordinatorUrl ++ signPath

/-- how many idle connections each client keeps: an even share of the pool, and one at least -/
def perClientPoolSize (p : Plan) : UInt64 :=
  max (p.connectionPoolSize / max p.numClients 1) 1

def totalRequests (p : Plan) : UInt64 :=
  saturatingMul p.numClients p.requestsPerClient

end Plan

namespace Settings

/-- the plan of the scenario of a profile -/
def plan (s : Settings) (p : Profile) : Plan where
  label := p.name
  coordinatorUrl := s.coordinatorUrl
  trust := s.trust
  coordinatorId := s.coordinatorId
  payload := s.payload
  numClients := p.numClients
  requestsPerClient := p.requestsPerClient
  requestDelay := .ofMillis p.requestDelayMs
  requestTimeout := .ofSecs p.requestTimeoutSecs
  connectionPoolSize := p.connectionPoolSize

/-- the plans of all scenarios, in order -/
def plans (s : Settings) : List Plan :=
  s.scenarios.map s.plan

/-- when a scenario passes -/
def criterion (s : Settings) : Criterion :=
  ⟨s.successThreshold, s.emptyPolicy⟩

/-- how the log is written, and how much of it -/
structure Logging where
  level : LogLevel
  format : LogFormat
  useColor : Bool
  includeLocation : Bool
  deriving DecidableEq, Repr

def logging (s : Settings) : Logging where
  level := if s.debug then .debug else if s.verbose then .info else .warn
  format := s.logFormat
  useColor := s.enableColor
  includeLocation := s.debug

/-- one line for each setting that matters when a trial goes wrong -/
def describe (s : Settings) : String :=
  String.intercalate "\n" [
    "Coordinator URL: " ++ s.coordinatorUrl,
    "Coordinator ID: " ++ s.coordinatorId,
    "CA Certificate: " ++ s.trust.caCert,
    "Client Certificate: " ++ s.trust.clientCert,
    "Client Key: " ++ s.trust.clientKey,
    "Key ID: " ++ s.payload.keyId,
    "Scenarios: " ++ String.intercalate ", " (s.scenarios.map (·.name)),
    "Success Threshold: " ++ s.successThreshold.toFixed 2 ++ "%",
    "Empty Scenario Policy: " ++ (match s.emptyPolicy with | .pass => "Pass" | .fail => "Fail"),
    "Color Output: " ++ (if s.enableColor then "true" else "false"),
    "Verbose: " ++ (if s.verbose then "true" else "false"),
    "Debug: " ++ (if s.debug then "true" else "false")]

end Settings

end LoadTrial
