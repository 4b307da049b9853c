/-
Warnings: settings with which a trial runs, but perhaps not as meant.
-/
import LoadTrial.Files
import LoadTrial.Settings.Validation

namespace LoadTrial

inductive Warning.Level where
  | info
  | warning
  deriving DecidableEq, Repr

def Warning.Level.name : Warning.Level → String
  | .info => "INFO"
  | .warning => "WARNING"

/-- what may not be as meant -/
inductive Warning.Cause where
  | plainHttp (url : String)
  | localTarget (url : String)
  | pathInUrl (path : String)
  | missingFile (what path : String)
  | strictThreshold
  | lenientThreshold (threshold : Number.Binary64)
  | noRequests (scenario : String) (policy : EmptyPolicy)
  | smallPool (scenario : String) (clients pool : UInt64)
  | shortTimeout (scenario : String) (secs : UInt64)
  deriving DecidableEq, Repr

namespace Warning

def Cause.level : Cause → Level
  | .localTarget _ => .info
  | .strictThreshold => .info
  | .smallPool .. => .info
  | _ => .warning

def Cause.message : Cause → String
  | .plainHttp url => "Coordinator URL '" ++ url ++ "' uses HTTP; mutual TLS will not be exercised"
  | .localTarget url => "Coordinator URL '" ++ url ++ "' targets a local/private network"
  | .pathInUrl path => "Coordinator URL includes path '" ++ path ++ "'; the signing path is appended to it"
  | .missingFile what path => what ++ " '" ++ path ++ "' not found; every client will fail to start"
  | .strictThreshold => "Success threshold of 100% fails a scenario on any single error"
  | .lenientThreshold t => "Success threshold of " ++ t.toFixed 1 ++ "% is unusually permissive"
  | .noRequests scenario policy =>
    "Scenario '" ++ scenario ++ "' issues no requests and will " ++ policy.name
  | .smallPool scenario clients pool =>
    "Scenario '" ++ scenario ++ "': " ++ Number.decimal clients.toNat ++ " clients exceed pool size "
      ++ Number.decimal pool.toNat ++ "; each client keeps 1 idle connection"
  | .shortTimeout scenario secs =>
    "Scenario '" ++ scenario ++ "': timeout of " ++ Number.decimal secs.toNat
      ++ "s may count slow signatures as timeouts"

/-- the message behind its level in brackets -/
def Cause.text (c : Cause) : String :=
  "[" ++ c.level.name ++ "] " ++ c.message

/-- a cause, if a condition holds -/
def onlyIf (condition : Bool) (cause : Cause) : List Cause :=
  if condition then [cause] else []

def ofUrl (url : String) : List Cause :=
  match Url.parse url with
  | .error _ => []
  | .ok parsed =>
    onlyIf (parsed.scheme == "http") (.plainHttp url) ++ onlyIf parsed.isLocal (.localTarget url)
      ++ onlyIf (parsed.path != "" && parsed.path != "/") (.pathInUrl parsed.path)

/-- the trust material by name -/
def trustFiles (t : TrustPaths) : List (String × String) :=
  [("CA certificate", t.caCert), ("Client certificate", t.clientCert), ("Client key", t.clientKey)]

def ofTrust (files : Files) (t : TrustPaths) : List Cause :=
  (trustFiles t).flatMap fun (what, path) => onlyIf (!files.contains path) (.missingFile what path)

def ofThreshold (t : Number.Binary64) : List Cause :=
  if (Number.Binary64.ofNat 100).le t then [.strictThreshold]
  else onlyIf (t.lt (.ofNat 50)) (.lenientThreshold t)

def ofProfile (policy : EmptyPolicy) (p : Profile) : List Cause :=
  onlyIf (p.totalRequests == 0) (.noRequests p.name policy)
    ++ onlyIf (p.connectionPoolSize < p.numClients) (.smallPool p.name p.numClients p.connectionPoolSize)
    ++ onlyIf (p.requestTimeoutSecs < 3) (.shortTimeout p.name p.requestTimeoutSecs)

end Warning

/-- the warnings about settings that a trial can run with -/
def Settings.warnings (files : Files) (s : Settings) : Except Settings.Fault (List Warning.Cause) := do
  s.validate
  return Warning.ofUrl s.coordinatorUrl ++ Warning.ofTrust files s.trust ++ Warning.ofThreshold s.successThreshold
    ++ s.scenarios.flatMap (Warning.ofProfile s.emptyPolicy)

end LoadTrial
