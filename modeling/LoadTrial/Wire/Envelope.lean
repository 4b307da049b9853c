/-
The messages that wallets and the coordinator exchange. An envelope carries a signing request or a signing
response, or nothing; each of the two has a header of its own. `merge` says how a message takes up a later one
of its kind.
-/
import LoadTrial.Wire.Field

namespace LoadTrial.Wire

structure RequestHeader where
  messageType : UInt32 := 0
  requestId : String := ""
  timestamp : String := ""
  coordinatorId : String := ""
  deriving DecidableEq

structure SigningRequest where
  header : Option RequestHeader := none
  keyId : String := ""
  transactionData : String := ""
  threshold : UInt32 := 0
  totalShards : UInt32 := 0
  requiredShards : List String := []
  deriving DecidableEq

structure ResponseHeader where
  messageType : UInt32 := 0
  success : Bool := false
  requestId : String := ""
  timestamp : String := ""
  errorMessage : String := ""
  deriving DecidableEq

structure SigningResponse where
  header : Option ResponseHeader := none
  keyId : String := ""
  finalSignature : String := ""
  successfulShards : UInt32 := 0
  deriving DecidableEq

inductive Payload where
  | request (request : SigningRequest)
  | response (response : SigningResponse)
  deriving DecidableEq

structure Envelope where
  messageType : UInt32 := 0
  payload : Option Payload := none
  deriving DecidableEq

/-! ## Encoding -/

def RequestHeader.encode (h : RequestHeader) : Bytes :=
  encodeUInt32 1 h.messageType ++ encodeString 2 h.requestId ++ encodeString 3 h.timestamp
    ++ encodeString 4 h.coordinatorId

def SigningRequest.encode (r : SigningRequest) : Bytes :=
  encodeOptional 1 RequestHeader.encode r.header ++ encodeString 2 r.keyId ++ encodeString 3 r.transactionData
    ++ encodeUInt32 4 r.threshold ++ encodeUInt32 5 r.totalShards ++ encodeStrings 6 r.requiredShards

def ResponseHeader.encode (h : ResponseHeader) : Bytes :=
  encodeUInt32 1 h.messageType ++ encodeBool 2 h.success ++ encodeString 3 h.requestId
    ++ encodeString 4 h.timestamp ++ encodeString 5 h.errorMessage

def SigningResponse.encode (r : SigningResponse) : Bytes :=
  encodeOptional 1 ResponseHeader.encode r.header ++ encodeString 2 r.keyId ++ encodeString 3 r.finalSignature
    ++ encodeUInt32 4 r.successfulShards

def Payload.encode : Payload → Bytes
  | .request r => encodeDelimited 2 r.encode
  | .response r => encodeDelimited 3 r.encode

def Envelope.encode (m : Envelope) : Bytes :=
  encodeUInt32 1 m.messageType ++ match m.payload with
    | none => []
    | some p => p.encode

/-! ## Sizes, computed without writing -/

def RequestHeader.size (h : RequestHeader) : Nat :=
  uint32Size 1 h.messageType + stringSize 2 h.requestId + stringSize 3 h.timestamp + stringSize 4 h.coordinatorId

def SigningRequest.size (r : SigningRequest) : Nat :=
  optionalSize 1 RequestHeader.size r.header + stringSize 2 r.keyId + stringSize 3 r.transactionData
    + uint32Size 4 r.threshold + uint32Size 5 r.totalShards + stringsSize 6 r.requiredShards

def ResponseHeader.size (h : ResponseHeader) : Nat :=
  uint32Size 1 h.messageType + boolSize 2 h.success + stringSize 3 h.requestId + stringSize 4 h.timestamp
    + stringSize 5 h.errorMessage

def SigningResponse.size (r : SigningResponse) : Nat :=
  optionalSize 1 ResponseHeader.size r.header + stringSize 2 r.keyId + stringSize 3 r.finalSignature
    + uint32Size 4 r.successfulShards

def Payload.size : Payload → Nat
  | .request r => delimitedSize 2 r.size
  | .response r => delimitedSize 3 r.size

def Envelope.size (m : Envelope) : Nat :=
  uint32Size 1 m.messageType + match m.payload with
    | none => 0
    | some p => p.size

/-- a buffer that is too small for a message -/
structure CapacityFault where
  required : Nat
  remaining : Nat
  deriving DecidableEq, Repr

def CapacityFault.message (f : CapacityFault) : String :=
  "failed to encode Protobuf message; insufficient buffer capacity (required: " ++ Number.decimal f.required
    ++ ", remaining: " ++ Number.decimal f.remaining ++ ")"

/-- writes a message into a buffer with room for `capacity` bytes -/
def Envelope.encodeInto (capacity : Nat) (m : Envelope) : Except CapacityFault Bytes :=
  if capacity < m.size then .error ⟨m.size, capacity⟩ else .ok m.encode

/-! ## Decoding -/

def RequestHeader.field (depth : Nat) (h : RequestHeader) (key : Key) : Reader RequestHeader :=
  match key.tag with
  | 1 => ((readUInt32 key.wireType).map fun n => { h with messageType := n }).within
      "WalletRequestHeader" "message_type"
  | 2 => ((readString key.wireType).map fun s => { h with requestId := s }).within
      "WalletRequestHeader" "request_id"
  | 3 => ((readString key.wireType).map fun s => { h with timestamp := s }).within
      "WalletRequestHeader" "timestamp"
  | 4 => ((readString key.wireType).map fun s => { h with coordinatorId := s }).within
      "WalletRequestHeader" "coordinator_id"
  | _ => (skipValue depth key).map fun () => h

def SigningRequest.field (depth : Nat) (r : SigningRequest) (key : Key) : Reader SigningRequest :=
  match key.tag with
  | 1 => ((mergeMessage depth RequestHeader.field (r.header.getD {}) key.wireType).map
      fun h => { r with header := some h }).within "WalletSigningRequest" "header"
  | 2 => ((readString key.wireType).map fun s => { r with keyId := s }).within
      "WalletSigningRequest" "key_id"
  | 3 => ((readString key.wireType).map fun s => { r with transactionData := s }).within
      "WalletSigningRequest" "transaction_data"
  | 4 => ((readUInt32 key.wireType).map fun n => { r with threshold := n }).within
      "WalletSigningRequest" "threshold"
  | 5 => ((readUInt32 key.wireType).map fun n => { r with totalShards := n }).within
      "WalletSigningRequest" "total_shards"
  | 6 => ((readString key.wireType).map fun s => { r with requiredShards := r.requiredShards ++ [s] }).within
      "WalletSigningRequest" "required_shards"
  | _ => (skipValue depth key).map fun () => r

def ResponseHeader.field (depth : Nat) (h : ResponseHeader) (key : Key) : Reader ResponseHeader :=
  match key.tag with
  | 1 => ((readUInt32 key.wireType).map fun n => { h with messageType := n }).within
      "WalletResponseHeader" "message_type"
  | 2 => ((readBool key.wireType).map fun b => { h with success := b }).within
      "WalletResponseHeader" "success"
  | 3 => ((readString key.wireType).map fun s => { h with requestId := s }).within
      "WalletResponseHeader" "request_id"
  | 4 => ((readString key.wireType).map fun s => { h with timestamp := s }).within
      "WalletResponseHeader" "timestamp"
  | 5 => ((readString key.wireType).map fun s => { h with errorMessage := s }).within
      "WalletResponseHeader" "error_message"
  | _ => (skipValue depth key).map fun () => h

def SigningResponse.field (depth : Nat) (r : SigningResponse) (key : Key) : Reader SigningResponse :=
  match key.tag with
  | 1 => ((mergeMessage depth ResponseHeader.field (r.header.getD {}) key.wireType).map
      fun h => { r with header := some h }).within "WalletSigningResponse" "header"
  | 2 => ((readString key.wireType).map fun s => { r with keyId := s }).within
      "WalletSigningResponse" "key_id"
  | 3 => ((readString key.wireType).map fun s => { r with finalSignature := s }).within
      "WalletSigningResponse" "final_signature"
  | 4 => ((readUInt32 key.wireType).map fun n => { r with successfulShards := n }).within
      "WalletSigningResponse" "successful_shards"
  | _ => (skipValue depth key).map fun () => r

/-- the request that a field with a request is merged into: the one at hand, or an empty one -/
def Envelope.requestAtHand (m : Envelope) : SigningRequest :=
  match m.payload with
  | some (.request r) => r
  | _ => {}

/-- the response that a field with a response is merged into: the one at hand, or an empty one -/
def Envelope.responseAtHand (m : Envelope) : SigningResponse :=
  match m.payload with
  | some (.response r) => r
  | _ => {}

def Envelope.field (depth : Nat) (m : Envelope) (key : Key) : Reader Envelope :=
  match key.tag with
  | 1 => ((readUInt32 key.wireType).map fun n => { m with messageType := n }).within
      "WalletCoordinatorMessage" "message_type"
  | 2 => ((mergeMessage depth SigningRequest.field m.requestAtHand key.wireType).map
      fun r => { m with payload := some (.request r) }).within "WalletCoordinatorMessage" "payload"
  | 3 => ((mergeMessage depth SigningResponse.field m.responseAtHand key.wireType).map
      fun r => { m with payload := some (.response r) }).within "WalletCoordinatorMessage" "payload"
  | _ => (skipValue depth key).map fun () => m

/-- how deep messages and groups may be nested -/
def depthLimit : Nat := 100

/-- merges the fields in some bytes into an envelope -/
def Envelope.mergeBytes (m : Envelope) (bytes : Bytes) : Except Fault Envelope :=
  (mergeFields (Envelope.field depthLimit) 0 bytes.length m bytes).map (·.1)

/-- reads an envelope -/
def Envelope.decode (bytes : Bytes) : Except Fault Envelope :=
  Envelope.mergeBytes {} bytes

/-! ## Merging -/

/-- a later number replaces an earlier one unless it is the default -/
def laterNumber (earlier later : UInt32) : UInt32 :=
  if later == 0 then earlier else later

/-- a later text replaces an earlier one unless it is the default -/
def laterText (earlier later : String) : String :=
  if later.isEmpty then earlier else later

/-- an absent message takes the other, two present ones merge -/
def mergeOptional {α : Type} (merge : α → α → α) : Option α → Option α → Option α
  | earlier, none => earlier
  | none, later => later
  | some a, some b => some (merge a b)

def RequestHeader.merge (a b : RequestHeader) : RequestHeader where
  messageType := laterNumber a.messageType b.messageType
  requestId := laterText a.requestId b.requestId
  timestamp := laterText a.timestamp b.timestamp
  coordinatorId := laterText a.coordinatorId b.coordinatorId

def SigningRequest.merge (a b : SigningRequest) : SigningRequest where
  header := mergeOptional RequestHeader.merge a.header b.header
  keyId := laterText a.keyId b.keyId
  transactionData := laterText a.transactionData b.transactionData
  threshold := laterNumber a.threshold b.threshold
  totalShards := laterNumber a.totalShards b.totalShards
  requiredShards := a.requiredShards ++ b.requiredShards

def ResponseHeader.merge (a b : ResponseHeader) : ResponseHeader where
  messageType := laterNumber a.messageType b.messageType
  success := a.success || b.success
  requestId := laterText a.requestId b.requestId
  timestamp := laterText a.timestamp b.timestamp
  errorMessage := laterText a.errorMessage b.errorMessage

def SigningResponse.merge (a b : SigningResponse) : SigningResponse where
  header := mergeOptional ResponseHeader.merge a.header b.header
  keyId := laterText a.keyId b.keyId
  finalSignature := laterText a.finalSignature b.finalSignature
  successfulShards := laterNumber a.successfulShards b.successfulShards

/-- payloads of one kind merge; of two kinds the later one stands -/
def Payload.merge : Payload → Payload → Payload
  | .request a, .request b => .request (a.merge b)
  | .response a, .response b => .response (a.merge b)
  | _, later => later

def Envelope.merge (a b : Envelope) : Envelope where
  messageType := laterNumber a.messageType b.messageType
  payload := mergeOptional Payload.merge a.payload b.payload

end LoadTrial.Wire
