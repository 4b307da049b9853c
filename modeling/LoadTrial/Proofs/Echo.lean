/-
A request says what it should, and is never taken for a reply.

What is posted can always be written, and is read back as an envelope with a request, its header and all that its
payload asks for (`Asks`). An endpoint may send it back, alone or with more envelopes behind it. Envelopes in a row are
read as merged from the left; a merge finds a response in one of the two or not at all (`response?_merge`), so a row
without one is read as an envelope without one (`response?_foldl_merge`), and the fault names the last type in the row
(`decodeResponse_row`).

Main result: `request_echoed`.
-/
import Mathlib.Tactic
import LoadTrial.Failure.Source
import LoadTrial.Proofs.Classification

namespace LoadTrial.Wire.Envelope

/-! ## Rows without a response -/

theorem response?_eq_none_iff {m : Envelope} : m.response? = none ↔ ∀ r, m.payload ≠ some (.response r) := by
  rcases m with ⟨messageType, _ | _ | _⟩ <;> simp [response?]

/-- a merge makes no response out of what is none -/
theorem response?_merge {a b : Envelope} (ha : a.response? = none) (hb : b.response? = none) :
    (a.merge b).response? = none := by
  rw [response?_eq_none_iff] at ha hb ⊢
  intro r h
  rcases (payload_merge_eq_response_iff a b r).1 h with ⟨later, hlater, -⟩ | ⟨-, hearlier⟩
  · exact hb later hlater
  · exact ha r hearlier

theorem response?_foldl_merge {a : Envelope} {ms : List Envelope} (ha : a.response? = none)
    (hms : ∀ m ∈ ms, m.response? = none) : (ms.foldl merge a).response? = none := by
  induction ms generalizing a with
  | nil => exact ha
  | cons m ms ih =>
    rw [List.forall_mem_cons] at hms
    exact ih (response?_merge ha hms.1) hms.2

/-- the type of a row of envelopes behind a type: the last one that is not the default -/
def lastType (first : UInt32) (ms : List Envelope) : UInt32 :=
  ms.foldl (fun t m => laterNumber t m.messageType) first

theorem messageType_foldl_merge (a : Envelope) (ms : List Envelope) :
    (ms.foldl merge a).messageType = lastType a.messageType ms := by
  induction ms generalizing a with
  | nil => rfl
  | cons m ms ih => exact ih (a.merge m)

/-- a row of envelopes without a response holds no response, and the fault names the last type in it -/
theorem decodeResponse_row {a : Envelope} {ms : List Envelope} (ha : a.response? = none)
    (hms : ∀ m ∈ ms, m.response? = none) (h : (a.encode ++ ms.flatMap encode).length < UInt64.size) :
    decodeResponse (a.encode ++ ms.flatMap encode) = .error (.noResponse (lastType a.messageType ms)) := by
  rw [← List.flatMap_cons] at h ⊢
  have hread : decode ((a :: ms).flatMap encode) = .ok (ms.foldl merge a) := by
    rw [decode_flatMap _ h, List.foldl_cons, empty_merge]
  rw [decodeResponse, hread]
  simp only [response?_foldl_merge ha hms, messageType_foldl_merge]

end LoadTrial.Wire.Envelope

namespace LoadTrial.Exchange

open Wire (Envelope SigningRequest RequestHeader)

/-- an envelope of a signing request, with what the request says and what its header says -/
structure Asks (requestId coordinatorId timestamp : String) (p : SigningPayload) (m : Envelope) (r : SigningRequest)
    (h : RequestHeader) : Prop where
  messageType : m.messageType = 1001
  payload : m.payload = some (.request r)
  header : r.header = some h
  headerType : h.messageType = 1001
  requestId : h.requestId = requestId
  timestamp : h.timestamp = timestamp
  coordinatorId : h.coordinatorId = coordinatorId
  keyId : r.keyId = p.keyId
  transactionData : r.transactionData = p.transactionData
  threshold : r.threshold = p.threshold
  totalShards : r.totalShards = p.totalShards
  requiredShards : r.requiredShards = p.requiredShards

/-- an endpoint that answers every post with a status and the body it got, with some envelopes behind it -/
def echo (status headMs bodyMs : Nat) (behind : List Envelope) : Transport Unit := fun p s =>
  (⟨.reply status (.complete (p.body ++ behind.flatMap Envelope.encode)), headMs, bodyMs⟩, s)

/-- a body without a response is no success, whatever the status says -/
theorem kind_reply_of_error {bytes : Bytes} {fault : Wire.ReplyFault} (h : Wire.decodeResponse bytes = .error fault)
    (status : Nat) : (Reception.reply status (.complete bytes)).kind = .failed := by
  have hsigns : signs bytes = false := by rw [signs, h]
  simp [Reception.kind, hsigns]

/-- **A request says what it should, and is never taken for a reply.** It can be written, whatever it asks for, and is
read back as just that. With nothing behind it, or with envelopes that carry no response, it is no reply, and an
endpoint that sends that back has not signed, with any status. -/
theorem request_echoed (requestId coordinatorId timestamp : String) (p : SigningPayload) :
    ∃ bytes, Wire.encodeRequest requestId coordinatorId timestamp p = .ok bytes ∧
      (bytes.length < UInt64.size →
        ∃ m r h, Envelope.decode bytes = .ok m ∧ Asks requestId coordinatorId timestamp p m r h) ∧
      ∀ behind : List Envelope, (∀ m ∈ behind, m.response? = none) →
        (bytes ++ behind.flatMap Envelope.encode).length < UInt64.size →
        (∃ fault, Wire.decodeResponse (bytes ++ behind.flatMap Envelope.encode) = .error fault ∧
          fault = .noResponse (Envelope.lastType 1001 behind) ∧ (Failure.ofReply fault).kind = .decode) ∧
        ∀ (plan : Plan) (status headMs bodyMs : Nat),
          (call (echo status headMs bodyMs behind) { plan with coordinatorId, payload := p } requestId timestamp
            ()).1.outcome.kind = .failed := by
  let asked := Envelope.ofRequest requestId coordinatorId timestamp p
  refine ⟨asked.encode, encodeRequest_eq .., ?_, ?_⟩
  · intro hlength
    have hread : Envelope.decode asked.encode = .ok asked := by
      rw [Envelope.decode, Envelope.mergeBytes_encode _ _ hlength, Envelope.empty_merge]
    exact ⟨asked, _, _, hread, rfl, rfl, rfl, rfl, rfl, rfl, rfl, rfl, rfl, rfl, rfl, rfl⟩
  · intro behind hbehind hlength
    have hreply := Envelope.decodeResponse_row (a := asked) rfl hbehind hlength
    refine ⟨⟨_, hreply, rfl, rfl⟩, ?_⟩
    intro plan status headMs bodyMs
    rw [kind_outcome, call_eq]
    exact kind_reply_of_error hreply status

/-- a request in no one's name, for nothing but a shard without a name, comes back with a request of another type behind
it -/
theorem blank_request_echoed :
    let p : SigningPayload := ⟨"", "", 0, 0, [""]⟩
    let plan : Plan := ⟨"echoed", "http://localhost", {}, "", p, 2, 1, .zero, .zero, 1⟩
    let other : Envelope := { messageType := 7, payload := some (.request { threshold := 2 }) }
    ∃ bytes, Wire.encodeRequest "" "" "" p = .ok bytes ∧ bytes.length < UInt64.size ∧
      (∃ m r h, Envelope.decode bytes = .ok m ∧ Asks "" "" "" p m r h) ∧ other.response? = none ∧
      (bytes ++ other.encode).length < UInt64.size ∧
      (∃ fault, Wire.decodeResponse (bytes ++ other.encode) = .error fault ∧ fault = .noResponse 7 ∧
        (Failure.ofReply fault).kind = .decode) ∧
      (call (echo 200 3 5 [other]) plan "" "" ()).1.outcome.kind = .failed := by
  intro p plan other
  obtain ⟨bytes, hencode, hasks, hechoed⟩ := request_echoed "" "" "" p
  have hsame : bytes = (Envelope.ofRequest "" "" "" p).encode :=
    Except.ok.inj (hencode.symm.trans (encodeRequest_eq "" "" "" p))
  have hlength : bytes.length < UInt64.size := by
    rw [hsame]
    decide +kernel
  have hboth : (bytes ++ other.encode).length < UInt64.size := by
    rw [hsame]
    decide +kernel
  have hother : [other].flatMap Envelope.encode = other.encode := List.flatMap_singleton Envelope.encode other
  obtain ⟨hreply, hfailed⟩ := hechoed [other] (List.forall_mem_singleton.2 rfl) (hother ▸ hboth)
  rw [hother] at hreply
  exact ⟨bytes, hencode, hlength, hasks hlength, rfl, hboth, hreply, hfailed plan 200 3 5⟩

end LoadTrial.Exchange
