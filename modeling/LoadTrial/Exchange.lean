/-
The exchange of one signing request with the coordinator. The request is posted once; whatever becomes of it is
folded into one outcome. It counts as a success only if the status of the reply says so, its body was read to
the end, and the response in the body says that the coordinator signed.
-/
import LoadTrial.Outcome
import LoadTrial.Program.Basic
import LoadTrial.Settings.Basic

namespace LoadTrial

/-- a request as it is posted -/
structure Post where
  url : String
  contentType : String
  userAgent : String
  body : Bytes
  deriving DecidableEq

namespace Exchange

/-- what comes of reading the body of a reply -/
inductive Body where
  | complete (bytes : Bytes)
  | timedOut
  | broken
  deriving DecidableEq

/-- what comes of posting a request -/
inductive Reception where
  | timedOut
  | broken
  /-- the head of a reply arrived, with a status -/
  | reply (status : Nat) (body : Body)
  deriving DecidableEq

/-- a reception, and when the head and the body of the reply were there, in milliseconds -/
structure Arrival where
  reception : Reception
  headMs : Nat
  bodyMs : Nat
  deriving DecidableEq

/-- a way to post requests, which may depend on a state and change it -/
abbrev Transport (σ : Type) := Post → σ → Arrival × σ

/-! ## Classification -/

/-- the status of a reply says success -/
def isSuccessStatus (status : Nat) : Bool :=
  200 ≤ status && status < 300

/-- a body says that the coordinator signed -/
def signs (body : Bytes) : Bool :=
  match Wire.decodeResponse body with
  | .ok response => response.isSuccess
  | .error _ => false

/-- the class of the outcome; what becomes of a body does not matter if the status says failure -/
def Reception.kind : Reception → Outcome.Kind
  | .timedOut => .timedOut
  | .broken => .failed
  | .reply status body =>
    if !isSuccessStatus status then .failed
    else match body with
      | .complete bytes => if signs bytes then .success else .failed
      | .timedOut => .timedOut
      | .broken => .failed

/-- the time to the end of the exchange: to the body if there is one to read, else to the failure -/
def Arrival.endMs (a : Arrival) : Nat :=
  match a.reception with
  | .reply .. => a.bodyMs
  | _ => a.headMs

/-- the time that counts as latency: where the status says failure, the body is not waited for -/
def Arrival.latencyMs (a : Arrival) : Nat :=
  match a.reception with
  | .reply status _ => if isSuccessStatus status then a.bodyMs else a.headMs
  | _ => a.headMs

/-- an outcome of a class -/
def outcomeOf (kind : Outcome.Kind) (latency : Duration) : Outcome :=
  match kind with
  | .success => .succeeded latency
  | .failed => .failed latency
  | .timedOut => .ranOut latency

def Arrival.outcome (a : Arrival) : Outcome :=
  outcomeOf a.reception.kind (.ofNanos (a.latencyMs * 1000000))

/-! ## Calls -/

/-- the name and version by which the program makes itself known -/
def userAgent : String := Program.packageName ++ "/" ++ Program.version

/-- the request of a plan with some identifier, made at some time -/
def post (plan : Plan) (requestId timestamp : String) : Except Wire.CapacityFault Post := do
  return {
    url := plan.signUrl
    contentType := Wire.contentType
    userAgent
    body := ← Wire.encodeRequest requestId plan.coordinatorId timestamp plan.payload }

/-- one call: the request is posted, once, if it can be written -/
def call {σ : Type} (transport : Transport σ) (plan : Plan) (requestId timestamp : String) (s : σ) : Arrival × σ :=
  match post plan requestId timestamp with
  | .ok p => transport p s
  | .error _ => (⟨.broken, 0, 0⟩, s)

/-- calls one after the other -/
def calls {σ : Type} (transport : Transport σ) (plan : Plan) (timestamp : String) :
    List String → σ → List Arrival × σ
  | [], s => ([], s)
  | id :: ids, s =>
    let (a, s) := call transport plan id timestamp s
    let (as, s) := calls transport plan timestamp ids s
    (a :: as, s)

theorem kind_outcomeOf (kind : Outcome.Kind) (latency : Duration) : (outcomeOf kind latency).kind = kind := by
  cases kind <;> rfl

end Exchange

end LoadTrial
