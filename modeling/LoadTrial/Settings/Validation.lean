/-
Which settings a trial can run with. The conditions are checked in a fixed order, and the first one that does not
hold is the fault.
-/
import LoadTrial.Settings.Basic
import LoadTrial.Url.Parser

namespace LoadTrial.Settings

/-- why no trial can run -/
inductive Fault where
  | emptyUrl
  | invalidUrl (url : String) (fault : Url.Fault)
  | schemeNotHttp (url : String)
  | noHost (url : String)
  | emptyCoordinatorId
  | thresholdOutOfRange (threshold : Number.Binary64)
  | noScenario
  | zeroTimeout (scenario : String)
  | zeroPool (scenario : String)
  | tooFewShards (threshold total : UInt32)
  deriving DecidableEq, Repr

def Fault.message : Fault → String
  | .emptyUrl => "Coordinator URL cannot be empty"
  | .invalidUrl url fault => "Invalid coordinator URL '" ++ url ++ "': " ++ fault.message
  | .schemeNotHttp url => "Coordinator URL must use https (or http for local mocks): " ++ url
  | .noHost url => "Coordinator URL has no host: " ++ url
  | .emptyCoordinatorId => "Coordinator ID cannot be empty"
  | .thresholdOutOfRange t => "Success threshold must be between 0 and 100, got: " ++ t.toText
  | .noScenario => "At least one scenario must be selected"
  | .zeroTimeout scenario => "Scenario '" ++ scenario ++ "': timeout must be greater than 0"
  | .zeroPool scenario => "Scenario '" ++ scenario ++ "': connection pool size must be greater than 0"
  | .tooFewShards threshold total =>
    "Signing threshold " ++ Number.decimal threshold.toNat ++ " exceeds total shards " ++ Number.decimal total.toNat

/-- a share in percent: a number from 0 to 100 -/
def isPercentage (x : Number.Binary64) : Bool :=
  Number.Binary64.zero.le x && x.le (.ofNat 100)

def checkUrl (url : String) : Except Fault Unit :=
  if url.isEmpty then .error .emptyUrl
  else match Url.parse url with
    | .error fault => .error (.invalidUrl url fault)
    | .ok parsed =>
      if parsed.scheme != "https" && parsed.scheme != "http" then .error (.schemeNotHttp url)
      else if parsed.host.isNone then .error (.noHost url)
      else .ok ()

def checkProfile (p : Profile) : Except Fault Unit :=
  if p.requestTimeoutSecs == 0 then .error (.zeroTimeout p.name)
  else if p.connectionPoolSize == 0 then .error (.zeroPool p.name)
  else .ok ()

/-- refuses settings that no trial can run with -/
def validate (s : Settings) : Except Fault Unit := do
  checkUrl s.coordinatorUrl
  if (Text.trim s.coordinatorId).isEmpty then throw .emptyCoordinatorId
  if !isPercentage s.successThreshold then throw (.thresholdOutOfRange s.successThreshold)
  if s.scenarios.isEmpty then throw .noScenario
  s.scenarios.forM checkProfile
  if s.payload.totalShards < s.payload.threshold then throw (.tooFewShards s.payload.threshold s.payload.totalShards)

end LoadTrial.Settings
