/-
Envelopes written one behind the other. The reader knows no end of a message but the end of the bytes, so it goes on
into the second envelope with the first one at hand, and what comes out is the two merged (`decode_append`); a row of
envelopes is merged from the left (`decode_flatMap`). Whether a response is found is decided by the last payload that
is there (`payload_merge_eq_response_iff`).

Main result: `concatenation_merges`.
-/
import Mathlib.Tactic
import LoadTrial.Proofs.Wire.RoundTrip
import LoadTrial.Wire.Signing

namespace LoadTrial.Wire

/-- a response is found where the envelope that was read carries it -/
theorem decodeResponse_eq_ok_iff {bytes : Bytes} {m : Envelope} (h : Envelope.decode bytes = .ok m)
    (r : SigningResponse) : decodeResponse bytes = .ok r ↔ m.payload = some (.response r) := by
  rw [decodeResponse, h]
  rcases m with ⟨messageType, _ | _ | _⟩ <;> simp [Envelope.response?]

namespace Envelope

/-- a row of envelopes is taken one by one, and merged into what is at hand -/
theorem takes_flatMap (depth : Nat) (a : Envelope) (ms : List Envelope) :
    Takes (Envelope.field (depth + 2)) a (ms.flatMap encode) (ms.foldl merge a) := by
  induction ms generalizing a with
  | nil => exact .nil a
  | cons m ms ih =>
    rw [List.flatMap_cons, List.foldl_cons]
    exact (takes_encode depth a m).append (ih (a.merge m))

/-- reading a row of envelopes merges them, from the left -/
theorem decode_flatMap (ms : List Envelope) (h : (ms.flatMap encode).length < UInt64.size) :
    decode (ms.flatMap encode) = .ok (ms.foldl merge {}) := by
  have htakes : Takes (field depthLimit) {} (ms.flatMap encode) (ms.foldl merge {}) := takes_flatMap 98 {} ms
  rw [decode, mergeBytes, htakes.mergeFields_all h]
  rfl

-- Merging cannot be regrouped: the response in the middle wipes the request before it, but only if it comes first.
example :
    let a : Envelope := { payload := some (.request { keyId := "a" }) }
    let b : Envelope := { payload := some (.response {}) }
    let c : Envelope := { payload := some (.request { threshold := 2 }) }
    (a.merge b).merge c = c ∧ a.merge (b.merge c) ≠ c := by
  decide

theorem decode_append (a b : Envelope) (h : (a.encode ++ b.encode).length < UInt64.size) :
    decode (a.encode ++ b.encode) = .ok (a.merge b) := by
  have hrow : [a, b].flatMap encode = a.encode ++ b.encode := by simp
  rw [← hrow] at h ⊢
  rw [decode_flatMap [a, b] h, List.foldl_cons, List.foldl_cons, List.foldl_nil, empty_merge]

/-- the later envelope decides, unless it carries nothing -/
theorem payload_merge_eq_response_iff (a b : Envelope) (r : SigningResponse) :
    (a.merge b).payload = some (.response r) ↔
      (∃ later, b.payload = some (.response later) ∧ r = a.responseAtHand.merge later) ∨
        (b.payload = none ∧ a.payload = some (.response r)) := by
  rcases a with ⟨typeA, payloadA⟩
  rcases b with ⟨typeB, _ | later | later⟩
  · simp [merge, mergeOptional]
  · rcases payloadA with _ | _ | _ <;> simp [merge, mergeOptional, Payload.merge]
  · rcases payloadA with _ | _ | _ <;>
      simp [merge, mergeOptional, Payload.merge, responseAtHand, SigningResponse.empty_merge, eq_comm]

/-- **Concatenation is merging.** Two envelopes, one behind the other, are read as the two merged. A response is found
if the later one carries it, then merged into the response of the earlier one if that is its payload; or if only the
earlier one carries a payload, and that is a response. -/
theorem concatenation_merges (a b : Envelope) (h : (a.encode ++ b.encode).length < UInt64.size) :
    decode (a.encode ++ b.encode) = .ok (a.merge b) ∧
      (∀ r, decodeResponse (a.encode ++ b.encode) = .ok r ↔
        (∃ later, b.payload = some (.response later) ∧ r = a.responseAtHand.merge later) ∨
          (b.payload = none ∧ a.payload = some (.response r))) ∧
      ((∃ r, decodeResponse (a.encode ++ b.encode) = .ok r) ↔
        (∃ r, b.payload = some (.response r)) ∨ (b.payload = none ∧ ∃ r, a.payload = some (.response r))) := by
  have hread := decode_append a b h
  have hfound : ∀ r, decodeResponse (a.encode ++ b.encode) = .ok r ↔
      (∃ later, b.payload = some (.response later) ∧ r = a.responseAtHand.merge later) ∨
        (b.payload = none ∧ a.payload = some (.response r)) :=
    fun r => (decodeResponse_eq_ok_iff hread r).trans (payload_merge_eq_response_iff a b r)
  refine ⟨hread, hfound, ?_⟩
  constructor
  · rintro ⟨r, hr⟩
    rcases (hfound r).1 hr with ⟨later, hb, -⟩ | ⟨hb, ha⟩
    · exact .inl ⟨later, hb⟩
    · exact .inr ⟨hb, r, ha⟩
  · rintro (⟨later, hb⟩ | ⟨hb, r, ha⟩)
    · exact ⟨_, (hfound _).2 (.inl ⟨later, hb, rfl⟩)⟩
    · exact ⟨r, (hfound r).2 (.inr ⟨hb, ha⟩)⟩

/-- a response that arrives in two parts, and an envelope with nothing but a type behind it -/
theorem split_response_merges :
    let first : Envelope := { messageType := 1001, payload := some (.response {
      header := some { success := true, requestId := "client_0_req_0" }, finalSignature := "early" }) }
    let second : Envelope := { payload := some (.response { header := some { messageType := 7 }, finalSignature := "sig" }) }
    let third : Envelope := { messageType := 7 }
    let whole : SigningResponse := {
      header := some { messageType := 7, success := true, requestId := "client_0_req_0" }, finalSignature := "sig" }
    (first.encode ++ second.encode).length < UInt64.size ∧ (first.encode ++ third.encode).length < UInt64.size ∧
      decode (first.encode ++ second.encode) = .ok { messageType := 1001, payload := some (.response whole) } ∧
      decodeResponse (first.encode ++ second.encode) = .ok whole ∧
      ∃ r, decodeResponse (first.encode ++ third.encode) = .ok r := by
  intro first second third whole
  have h2 : (first.encode ++ second.encode).length < UInt64.size := by decide +kernel
  have h3 : (first.encode ++ third.encode).length < UInt64.size := by decide +kernel
  obtain ⟨hread, hfound, -⟩ := concatenation_merges first second h2
  obtain ⟨-, -, hsome⟩ := concatenation_merges first third h3
  have hwhole : first.merge second = { messageType := 1001, payload := some (.response whole) } := by decide
  refine ⟨h2, h3, hread.trans (congrArg _ hwhole), (hfound whole).2 (.inl ⟨_, rfl, by decide⟩), ?_⟩
  exact hsome.2 (.inr ⟨rfl, _, rfl⟩)

end Envelope

end LoadTrial.Wire
