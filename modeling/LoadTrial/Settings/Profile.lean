/-
Load profiles: how many clients a scenario has, how many requests each of them issues, and at what pace.
-/
import LoadTrial.Failure
import LoadTrial.Text.Blank
import LoadTrial.Text.Lower

namespace LoadTrial

structure Profile where
  name : String
  numClients : UInt64
  requestsPerClient : UInt64
  requestDelayMs : UInt64
  requestTimeoutSecs : UInt64 := 30
  connectionPoolSize : UInt64
  deriving DecidableEq, Repr

/-- a product, or the largest 64-bit number if it is larger -/
def saturatingMul (a b : UInt64) : UInt64 :=
  UInt64.ofNat (min (a.toNat * b.toNat) (UInt64.size - 1))

namespace Profile

def light : Profile where
  name := "Light Load"
  numClients := 5
  requestsPerClient := 20
  requestDelayMs := 50
  connectionPoolSize := 50

def medium : Profile where
  name := "Medium Load"
  numClients := 20
  requestsPerClient := 50
  requestDelayMs := 10
  connectionPoolSize := 100

def high : Profile where
  name := "High Load"
  numClients := 50
  requestsPerClient := 100
  requestDelayMs := 0
  connectionPoolSize := 200

def stress : Profile where
  name := "Stress"
  numClients := 100
  requestsPerClient := 50
  requestDelayMs := 0
  connectionPoolSize := 300

/-- how many requests a scenario of this profile issues, at most the largest 64-bit number -/
def totalRequests (p : Profile) : UInt64 :=
  saturatingMul p.numClients p.requestsPerClient

end Profile

/-- a built-in profile -/
inductive Preset where
  | light
  | medium
  | high
  | stress
  deriving DecidableEq, Repr

namespace Preset

/-- the built-in profiles, in the order of increasing load -/
def all : List Preset := [.light, .medium, .high, .stress]

/-- the short name of a built-in profile -/
def name : Preset → String
  | .light => "light"
  | .medium => "medium"
  | .high => "high"
  | .stress => "stress"

def profile : Preset → Profile
  | .light => .light
  | .medium => .medium
  | .high => .high
  | .stress => .stress

def ofName? (name : String) : Option Preset :=
  all.find? (·.name == name)

end Preset

namespace Profile

/-- the built-in suite -/
def builtin : List Profile := Preset.all.map Preset.profile

/-- the built-in profile with a short name, whatever the case of its letters and the blanks around it -/
def byName (name : String) : Except Failure Profile :=
  let word := Text.lower (Text.trim name)
  match Preset.ofName? word with
  | some p => .ok p.profile
  | none => .error (.config ("Unknown scenario '" ++ word ++ "': expected light, medium, high or stress"))

end Profile

end LoadTrial
