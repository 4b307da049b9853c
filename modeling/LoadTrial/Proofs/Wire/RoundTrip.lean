/-
Envelopes are read back as they were written. Reading the bytes of a message onto a value at hand merges the message
into that value, one level of nesting after the other (`takes_encode`); and merging into an empty message gives the
message itself (`empty_merge`).

Main result: `Envelope.wire_round_trip`.
-/
import Mathlib.Tactic
import LoadTrial.Proofs.Wire.Field

namespace LoadTrial.Wire

/-! ## Merging into nothing -/

theorem laterNumber_zero (n : UInt32) : laterNumber 0 n = n := by
  by_cases h : n = 0 <;> simp [laterNumber, h]

theorem laterText_empty (s : String) : laterText "" s = s := by
  by_cases h : s = "" <;> simp [laterText, h]

theorem mergeOptional_none {α : Type} (merge : α → α → α) (a : Option α) : mergeOptional merge none a = a := by
  cases a <;> rfl

theorem RequestHeader.empty_merge (h : RequestHeader) : ({} : RequestHeader).merge h = h := by
  simp [merge, laterNumber_zero, laterText_empty]

theorem ResponseHeader.empty_merge (h : ResponseHeader) : ({} : ResponseHeader).merge h = h := by
  simp [merge, laterNumber_zero, laterText_empty]

theorem SigningRequest.empty_merge (r : SigningRequest) : ({} : SigningRequest).merge r = r := by
  simp [merge, laterNumber_zero, laterText_empty, mergeOptional_none]

theorem SigningResponse.empty_merge (r : SigningResponse) : ({} : SigningResponse).merge r = r := by
  simp [merge, laterNumber_zero, laterText_empty, mergeOptional_none]

theorem Envelope.empty_merge (m : Envelope) : ({} : Envelope).merge m = m := by
  simp [merge, laterNumber_zero, mergeOptional_none]

/-! ## Reading is merging

One fact for each field, in the order in which they are written; the values in between have some fields merged. -/

theorem RequestHeader.takes_encode (depth : Nat) (a b : RequestHeader) :
    Takes (RequestHeader.field depth) a b.encode (a.merge b) := by
  let a1 : RequestHeader := { a with messageType := laterNumber a.messageType b.messageType }
  let a2 : RequestHeader := { a1 with requestId := laterText a.requestId b.requestId }
  let a3 : RequestHeader := { a2 with timestamp := laterText a.timestamp b.timestamp }
  have h1 : Takes (field depth) a (encodeUInt32 1 b.messageType) a1 :=
    .uint32 (fun n => { a with messageType := n }) rfl (by decide) rfl _
  have h2 : Takes (field depth) a1 (encodeString 2 b.requestId) a2 :=
    .string (fun s => { a1 with requestId := s }) rfl (by decide) rfl _
  have h3 : Takes (field depth) a2 (encodeString 3 b.timestamp) a3 :=
    .string (fun s => { a2 with timestamp := s }) rfl (by decide) rfl _
  have h4 : Takes (field depth) a3 (encodeString 4 b.coordinatorId) (a.merge b) :=
    .string (fun s => { a3 with coordinatorId := s }) rfl (by decide) rfl _
  exact ((h1.append h2).append h3).append h4

/-- the fields of a header of a response as they are written, in order -/
def ResponseHeader.parts (h : ResponseHeader) : List Bytes :=
  [encodeUInt32 1 h.messageType, encodeBool 2 h.success, encodeString 3 h.requestId, encodeString 4 h.timestamp,
    encodeString 5 h.errorMessage]

theorem ResponseHeader.encode_eq_flatten (h : ResponseHeader) : h.encode = h.parts.flatten := by
  simp [encode, parts]

theorem ResponseHeader.takes_parts (depth : Nat) (a b : ResponseHeader) :
    TakesAll (ResponseHeader.field depth) a b.parts (a.merge b) := by
  let a1 : ResponseHeader := { a with messageType := laterNumber a.messageType b.messageType }
  let a2 : ResponseHeader := { a1 with success := a.success || b.success }
  let a3 : ResponseHeader := { a2 with requestId := laterText a.requestId b.requestId }
  let a4 : ResponseHeader := { a3 with timestamp := laterText a.timestamp b.timestamp }
  have h1 : Takes (field depth) a (encodeUInt32 1 b.messageType) a1 :=
    .uint32 (fun n => { a with messageType := n }) rfl (by decide) rfl _
  have h2 : Takes (field depth) a1 (encodeBool 2 b.success) a2 :=
    .bool (fun c => { a1 with success := c }) rfl (by decide) rfl _
  have h3 : Takes (field depth) a2 (encodeString 3 b.requestId) a3 :=
    .string (fun s => { a2 with requestId := s }) rfl (by decide) rfl _
  have h4 : Takes (field depth) a3 (encodeString 4 b.timestamp) a4 :=
    .string (fun s => { a3 with timestamp := s }) rfl (by decide) rfl _
  have h5 : Takes (field depth) a4 (encodeString 5 b.errorMessage) (a.merge b) :=
    .string (fun s => { a4 with errorMessage := s }) rfl (by decide) rfl _
  exact .cons h1 (.cons h2 (.cons h3 (.cons h4 (.cons h5 (.nil _)))))

theorem ResponseHeader.takes_encode (depth : Nat) (a b : ResponseHeader) :
    Takes (ResponseHeader.field depth) a b.encode (a.merge b) := by
  rw [encode_eq_flatten]
  exact (takes_parts depth a b).flatten

theorem SigningRequest.takes_encode (depth : Nat) (a b : SigningRequest) :
    Takes (SigningRequest.field (depth + 1)) a b.encode (a.merge b) := by
  let a1 : SigningRequest := { a with header := mergeOptional RequestHeader.merge a.header b.header }
  let a2 : SigningRequest := { a1 with keyId := laterText a.keyId b.keyId }
  let a3 : SigningRequest := { a2 with transactionData := laterText a.transactionData b.transactionData }
  let a4 : SigningRequest := { a3 with threshold := laterNumber a.threshold b.threshold }
  let a5 : SigningRequest := { a4 with totalShards := laterNumber a.totalShards b.totalShards }
  have h1 : Takes (field (depth + 1)) a (encodeOptional 1 RequestHeader.encode b.header) a1 :=
    .optional (fun h => { a with header := h }) rfl (by decide) rfl (RequestHeader.takes_encode depth)
      RequestHeader.empty_merge _
  have h2 : Takes (field (depth + 1)) a1 (encodeString 2 b.keyId) a2 :=
    .string (fun s => { a1 with keyId := s }) rfl (by decide) rfl _
  have h3 : Takes (field (depth + 1)) a2 (encodeString 3 b.transactionData) a3 :=
    .string (fun s => { a2 with transactionData := s }) rfl (by decide) rfl _
  have h4 : Takes (field (depth + 1)) a3 (encodeUInt32 4 b.threshold) a4 :=
    .uint32 (fun n => { a3 with threshold := n }) rfl (by decide) rfl _
  have h5 : Takes (field (depth + 1)) a4 (encodeUInt32 5 b.totalShards) a5 :=
    .uint32 (fun n => { a4 with totalShards := n }) rfl (by decide) rfl _
  have h6 : Takes (field (depth + 1)) a5 (encodeStrings 6 b.requiredShards) (a.merge b) :=
    .strings (fun texts => { a5 with requiredShards := texts }) rfl (by decide) (fun _ => rfl) _
  exact ((((h1.append h2).append h3).append h4).append h5).append h6

/-- the fields of a response as they are written, in order, with the header written in some way -/
def SigningResponse.parts (encodeHeader : ResponseHeader → Bytes) (r : SigningResponse) : List Bytes :=
  [encodeOptional 1 encodeHeader r.header, encodeString 2 r.keyId, encodeString 3 r.finalSignature,
    encodeUInt32 4 r.successfulShards]

theorem SigningResponse.encode_eq_flatten (r : SigningResponse) :
    r.encode = (r.parts ResponseHeader.encode).flatten := by
  simp [encode, parts]

theorem SigningResponse.takes_parts {depth : Nat} {encodeHeader : ResponseHeader → Bytes}
    (hheader : ∀ x y, Takes (ResponseHeader.field depth) x (encodeHeader y) (x.merge y)) (a b : SigningResponse) :
    TakesAll (SigningResponse.field (depth + 1)) a (b.parts encodeHeader) (a.merge b) := by
  let a1 : SigningResponse := { a with header := mergeOptional ResponseHeader.merge a.header b.header }
  let a2 : SigningResponse := { a1 with keyId := laterText a.keyId b.keyId }
  let a3 : SigningResponse := { a2 with finalSignature := laterText a.finalSignature b.finalSignature }
  have h1 : Takes (field (depth + 1)) a (encodeOptional 1 encodeHeader b.header) a1 :=
    .optional (fun h => { a with header := h }) rfl (by decide) rfl hheader ResponseHeader.empty_merge _
  have h2 : Takes (field (depth + 1)) a1 (encodeString 2 b.keyId) a2 :=
    .string (fun s => { a1 with keyId := s }) rfl (by decide) rfl _
  have h3 : Takes (field (depth + 1)) a2 (encodeString 3 b.finalSignature) a3 :=
    .string (fun s => { a2 with finalSignature := s }) rfl (by decide) rfl _
  have h4 : Takes (field (depth + 1)) a3 (encodeUInt32 4 b.successfulShards) (a.merge b) :=
    .uint32 (fun n => { a3 with successfulShards := n }) rfl (by decide) rfl _
  exact .cons h1 (.cons h2 (.cons h3 (.cons h4 (.nil _))))

theorem SigningResponse.takes_encode (depth : Nat) (a b : SigningResponse) :
    Takes (SigningResponse.field (depth + 1)) a b.encode (a.merge b) := by
  rw [encode_eq_flatten]
  exact (takes_parts (ResponseHeader.takes_encode depth) a b).flatten

/-- a payload as it is written, with a response written in some way -/
def Payload.part (encodeResponse : SigningResponse → Bytes) : Payload → Bytes
  | .request r => encodeDelimited 2 r.encode
  | .response r => encodeDelimited 3 (encodeResponse r)

namespace Envelope

/-- a payload merges into one of its kind, and replaces one of the other kind -/
theorem takes_payload {depth : Nat} {encodeResponse : SigningResponse → Bytes}
    (hresponse : ∀ x y, Takes (SigningResponse.field (depth + 1)) x (encodeResponse y) (x.merge y)) (m : Envelope)
    (p : Payload) : Takes (Envelope.field (depth + 2)) m (p.part encodeResponse)
      { m with payload := mergeOptional Payload.merge m.payload (some p) } := by
  cases p with
  | request r =>
    have hmerge : mergeOptional Payload.merge m.payload (some (.request r)) =
        some (.request (m.requestAtHand.merge r)) := by
      rcases m with ⟨messageType, _ | _ | _⟩ <;>
        simp [mergeOptional, Payload.merge, requestAtHand, SigningRequest.empty_merge]
    have htakes : Takes (field (depth + 2)) m (encodeDelimited 2 r.encode)
        { m with payload := some (.request (m.requestAtHand.merge r)) } :=
      .nested (fun r => { m with payload := some (.request r) }) (by decide) rfl (SigningRequest.takes_encode depth _ r)
    rw [hmerge]
    exact htakes
  | response r =>
    have hmerge : mergeOptional Payload.merge m.payload (some (.response r)) =
        some (.response (m.responseAtHand.merge r)) := by
      rcases m with ⟨messageType, _ | _ | _⟩ <;>
        simp [mergeOptional, Payload.merge, responseAtHand, SigningResponse.empty_merge]
    have htakes : Takes (field (depth + 2)) m (encodeDelimited 3 (encodeResponse r))
        { m with payload := some (.response (m.responseAtHand.merge r)) } :=
      .nested (fun r => { m with payload := some (.response r) }) (by decide) rfl (hresponse _ r)
    rw [hmerge]
    exact htakes

/-- the fields of an envelope as they are written, in order, with a response written in some way -/
def parts (encodeResponse : SigningResponse → Bytes) (m : Envelope) : List Bytes :=
  [encodeUInt32 1 m.messageType, (m.payload.map (Payload.part encodeResponse)).getD []]

theorem encode_eq_flatten (m : Envelope) : m.encode = (m.parts SigningResponse.encode).flatten := by
  rcases m with ⟨messageType, _ | _ | _⟩ <;> simp [encode, parts, Payload.encode, Payload.part]

theorem takes_parts {depth : Nat} {encodeResponse : SigningResponse → Bytes}
    (hresponse : ∀ x y, Takes (SigningResponse.field (depth + 1)) x (encodeResponse y) (x.merge y)) (a b : Envelope) :
    TakesAll (Envelope.field (depth + 2)) a (b.parts encodeResponse) (a.merge b) := by
  let a1 : Envelope := { a with messageType := laterNumber a.messageType b.messageType }
  have h1 : Takes (field (depth + 2)) a (encodeUInt32 1 b.messageType) a1 :=
    .uint32 (fun n => { a with messageType := n }) rfl (by decide) rfl _
  have h2 : Takes (field (depth + 2)) a1 ((b.payload.map (Payload.part encodeResponse)).getD []) (a.merge b) := by
    rcases b with ⟨messageType, _ | p⟩
    · exact .nil _
    · exact takes_payload hresponse a1 p
  exact .cons h1 (.cons h2 (.nil _))

theorem takes_encode (depth : Nat) (a b : Envelope) : Takes (Envelope.field (depth + 2)) a b.encode (a.merge b) := by
  rw [encode_eq_flatten]
  exact (takes_parts (SigningResponse.takes_encode depth) a b).flatten

/-- the bytes of an envelope, read onto another one, are merged into it -/
theorem mergeBytes_encode (a b : Envelope) (h : b.encode.length < UInt64.size) :
    a.mergeBytes b.encode = .ok (a.merge b) := by
  have htakes : Takes (field depthLimit) a b.encode (a.merge b) := takes_encode 98 a b
  rw [mergeBytes, htakes.mergeFields_all h]
  rfl

/-- **Round trip.** An envelope is read back from its bytes, of which memory holds fewer than 2^64. -/
theorem wire_round_trip (m : Envelope) (h : m.encode.length < UInt64.size) : decode m.encode = .ok m := by
  rw [decode, mergeBytes_encode _ _ h, empty_merge]

/-- the largest number, a header with nothing in it, a text of several bytes a character, and empty texts in a list -/
def sparseRequest : Envelope where
  messageType := 0xFFFFFFFF
  payload := some (.request { header := some {}, transactionData := "ключ", requiredShards := ["", "a", ""] })

theorem sparse_round_trip :
    sparseRequest.encode.length < UInt64.size ∧ decode sparseRequest.encode = .ok sparseRequest := by
  have h : sparseRequest.encode.length < UInt64.size := by decide +kernel
  exact ⟨h, wire_round_trip sparseRequest h⟩

end Envelope

end LoadTrial.Wire
