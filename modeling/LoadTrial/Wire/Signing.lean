/-
The signing exchange on the wire: the envelope of a request, and the response in a reply.
-/
import LoadTrial.Wire.Envelope

namespace LoadTrial.Wire

/-- the message type of a signing request and its header -/
def signingRequestType : UInt32 := 1001

/-- the content type of requests -/
def contentType : String := "application/protobuf"

end LoadTrial.Wire

namespace LoadTrial

/-- what every request of a trial asks to have signed -/
structure SigningPayload where
  keyId : String := "test-key-123"
  transactionData : String := "0xabcdef1234567890"
  threshold : UInt32 := 2
  totalShards : UInt32 := 3
  requiredShards : List String := ["shard0", "shard1", "shard2"]
  deriving DecidableEq

namespace Wire

/-- the envelope of one request -/
def Envelope.ofRequest (requestId coordinatorId timestamp : String) (p : SigningPayload) : Envelope where
  messageType := signingRequestType
  payload := some (.request {
    header := some { messageType := signingRequestType, requestId, timestamp, coordinatorId }
    keyId := p.keyId
    transactionData := p.transactionData
    threshold := p.threshold
    totalShards := p.totalShards
    requiredShards := p.requiredShards })

/-- the bytes of one request -/
def encodeRequest (requestId coordinatorId timestamp : String) (p : SigningPayload) : Except CapacityFault Bytes :=
  let m := Envelope.ofRequest requestId coordinatorId timestamp p
  m.encodeInto m.size

/-- the response that an envelope carries -/
def Envelope.response? (m : Envelope) : Option SigningResponse :=
  match m.payload with
  | some (.response r) => some r
  | _ => none

/-- the coordinator signed: there is a header, and it says so -/
def SigningResponse.isSuccess (r : SigningResponse) : Bool :=
  match r.header with
  | some h => h.success
  | none => false

/-- the coordinator's own words about a failure -/
def SigningResponse.errorMessage? (r : SigningResponse) : Option String :=
  match r.header with
  | some h => if h.errorMessage.isEmpty then none else some h.errorMessage
  | none => none

/-- why a reply holds no signing response -/
inductive ReplyFault where
  | malformed (fault : Fault)
  | noResponse (messageType : UInt32)
  deriving DecidableEq, Repr

def ReplyFault.message : ReplyFault → String
  | .malformed fault => fault.message
  | .noResponse t => "Envelope (message type " ++ Number.decimal t.toNat ++ ") carries no signing response"

/-- the signing response in a reply -/
def decodeResponse (bytes : Bytes) : Except ReplyFault SigningResponse :=
  match Envelope.decode bytes with
  | .error fault => .error (.malformed fault)
  | .ok m => match m.response? with
    | some r => .ok r
    | none => .error (.noResponse m.messageType)

end Wire

end LoadTrial
