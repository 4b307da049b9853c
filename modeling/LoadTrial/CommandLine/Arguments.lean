/-
What a command line asks for, and which of its combinations make no sense.
-/
import LoadTrial.Environment.Basic
import LoadTrial.Settings.Basic

namespace LoadTrial

structure Arguments where
  url : Option String := none
  caCert : Option String := none
  clientCert : Option String := none
  clientKey : Option String := none
  coordinatorId : Option String := none
  keyId : Option String := none
  /-- the built-in scenarios to run, in the order given -/
  scenarios : List Preset := []
  clients : Option UInt64 := none
  requests : Option UInt64 := none
  delayMs : Option UInt64 := none
  poolSize : Option UInt64 := none
  timeout : Option UInt64 := none
  threshold : Option Number.Binary64 := none
  emptyPolicy : Option EmptyPolicy := none
  json : Bool := false
  noColor : Bool := false
  verbose : Bool := false
  debug : Bool := false
  logFormat : Option String := none
  envHelp : Bool := false
  initEnv : Option String := none
  deriving DecidableEq

namespace Arguments

/-- a combination of arguments that makes no sense -/
inductive Fault where
  | shapeWithoutCustom
  | zeroPool
  | emptyUrl
  deriving DecidableEq, Repr

def Fault.message : Fault → String
  | .shapeWithoutCustom => "--delay-ms and --pool-size require --clients or --requests"
  | .zeroPool => "--pool-size must be greater than 0"
  | .emptyUrl => "--url cannot be empty"

/-- one scenario made for the occasion takes the place of the built-in ones -/
def isCustom (a : Arguments) : Bool :=
  a.clients.isSome || a.requests.isSome

/-- refuses combinations that make no sense -/
def validate (a : Arguments) : Except Fault Unit :=
  if (a.delayMs.isSome || a.poolSize.isSome) && !a.isCustom then .error .shapeWithoutCustom
  else if a.poolSize == some 0 then .error .zeroPool
  else match a.url with
    | some url => if (Text.trim url).isEmpty then .error .emptyUrl else .ok ()
    | none => .ok ()

/-- the profile made for the occasion; what is not given is as in the light profile -/
def customProfile? (a : Arguments) : Option Profile :=
  if a.isCustom then
    some {
      name := "Custom Load"
      numClients := a.clients.getD Profile.light.numClients
      requestsPerClient := a.requests.getD Profile.light.requestsPerClient
      requestDelayMs := a.delayMs.getD Profile.light.requestDelayMs
      connectionPoolSize := a.poolSize.getD Profile.light.connectionPoolSize }
  else none

/-- the profiles of the built-in scenarios asked for -/
def selectedProfiles (a : Arguments) : List Profile :=
  a.scenarios.map Preset.profile

/-- the terminal takes colour, as far as the environment says -/
def terminalTakesColor (env : Environment) : Bool :=
  env.get? "TERM" != some "dumb" && !env.isSet "NO_COLOR"

/-- error messages are coloured -/
def usesColor (env : Environment) (a : Arguments) : Bool :=
  !a.noColor && terminalTakesColor env

end Arguments

end LoadTrial
