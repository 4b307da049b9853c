/-
A reply that is cut off is never taken for a signing response.

`RefusesCuts r bytes`: however much is cut off the end of `bytes`, `r` fails. A number refuses cuts because its last
byte is missing, and a message because its length is not reached; so does every field, from the second byte of its key
on (`mergeFields_cut`). The cuts left are those between fields, where the beginning is a message itself: in front of
its payload an envelope carries no response.

Main result: `truncated_reply_refused`.
-/
import Mathlib.Tactic
import LoadTrial.Exchange
import LoadTrial.Failure.Source
import LoadTrial.Proofs.Wire.RoundTrip

namespace LoadTrial.Wire

variable {α β : Type}

/-- reading fails on every proper beginning of `bytes` -/
def RefusesCuts (r : Reader α) (bytes : Bytes) : Prop :=
  ∀ k < bytes.length, ∃ fault, r (bytes.take k) = .error fault

/-- a proper beginning of two parts is one of the first, or the first and a proper beginning of the second -/
theorem take_append_cases {bytes bytes' : Bytes} {k : Nat} (h : k < (bytes ++ bytes').length) :
    (k < bytes.length ∧ (bytes ++ bytes').take k = bytes.take k) ∨
      ∃ j < bytes'.length, (bytes ++ bytes').take k = bytes ++ bytes'.take j := by
  by_cases hk : k < bytes.length
  · exact .inl ⟨hk, List.take_append_of_le_length hk.le⟩
  · rw [List.length_append] at h
    refine .inr ⟨k - bytes.length, by omega, ?_⟩
    rw [List.take_append, List.take_of_length_le (Nat.le_of_not_lt hk)]

namespace RefusesCuts

theorem readVarint (n : Nat) : RefusesCuts readVarint (Varint.encode n) := by
  intro k hk
  exact ⟨_, by rw [Wire.readVarint, Varint.decode_take n hk, Reader.fail]⟩

theorem readKey (key : Key) : RefusesCuts readKey key.encode := by
  intro k hk
  obtain ⟨fault, hfault⟩ := readVarint (8 * key.tag + key.wireType.code) k hk
  exact ⟨fault, by simp only [Wire.readKey, Key.encode, hfault]⟩

theorem map {r : Reader α} {bytes : Bytes} (h : RefusesCuts r bytes) (g : α → β) : RefusesCuts (r.map g) bytes := by
  intro k hk
  obtain ⟨fault, hfault⟩ := h k hk
  exact ⟨fault, by simp only [Reader.map, hfault]⟩

theorem within {r : Reader α} {bytes : Bytes} (h : RefusesCuts r bytes) (message name : String) :
    RefusesCuts (r.within message name) bytes := by
  intro k hk
  obtain ⟨fault, hfault⟩ := h k hk
  exact ⟨_, by simp only [Reader.within, hfault]; rfl⟩

theorem expecting {r : Reader α} {bytes : Bytes} (h : RefusesCuts r bytes) (expected actual : WireType) :
    RefusesCuts (expecting expected actual r) bytes := by
  intro k hk
  obtain ⟨fault, hfault⟩ := h k hk
  unfold Wire.expecting
  split_ifs
  · exact ⟨fault, hfault⟩
  · exact ⟨_, rfl⟩

/-- a message is refused if its length is cut, and if there is less than its length says -/
theorem mergeMessage (depth : Nat) (field : Nat → α → Key → Reader α) (a : α) (wireType : WireType) (content : Bytes) :
    RefusesCuts (mergeMessage depth field a wireType) (Varint.encode content.length ++ content) := by
  apply expecting
  intro k hk
  cases depth with
  | zero => exact ⟨_, rfl⟩
  | succ depth =>
    rcases take_append_cases hk with ⟨hlt, htake⟩ | ⟨j, hj, htake⟩
    · obtain ⟨fault, hfault⟩ := readVarint content.length k hlt
      exact ⟨fault, by simp only [htake, hfault]⟩
    · rw [htake]
      by_cases hsize : content.length < UInt64.size
      · have hshort : (content.take j).length < content.length := by
          rw [List.length_take]
          omega
        exact ⟨_, by simp only [readVarint_encode hsize, hshort, if_true]; rfl⟩
      · exact ⟨_, by simp only [Wire.readVarint, Varint.decode_encode, hsize, if_false]; rfl⟩

end RefusesCuts

/-- fields up to a cut within one of them are refused; a cut in front of it leaves nothing -/
theorem mergeFields_cut {field : α → Key → Reader α} {a : α} {key : Key} {body : Bytes} (htag : IsTag key.tag)
    (h : RefusesCuts (field a key) body) (fuel : Nat) {k : Nat} (hpos : 0 < k)
    (hk : k < (key.encode ++ body).length) :
    ∃ fault, mergeFields field 0 fuel a ((key.encode ++ body).take k) = .error fault := by
  have hlen : ((key.encode ++ body).take k).length = k := List.length_take_of_le hk.le
  cases fuel with
  | zero => exact ⟨_, by simp only [mergeFields, checkEnd, hlen]; rw [if_neg (by simpa using hpos.ne')]; rfl⟩
  | succ fuel =>
    rw [mergeFields, if_neg (by omega)]
    rcases take_append_cases hk with ⟨hlt, htake⟩ | ⟨j, hj, htake⟩
    · obtain ⟨fault, hfault⟩ := RefusesCuts.readKey key k hlt
      exact ⟨fault, by simp only [htake, hfault]⟩
    · obtain ⟨fault, hfault⟩ := h j hj
      exact ⟨fault, by simp only [htake, readKey_encode htag, hfault]⟩

/-! ## Envelopes -/

/-- no response is found where reading fails, or where there is none -/
theorem decodeResponse_error {bytes : Bytes}
    (h : (∃ fault, mergeFields (Envelope.field depthLimit) 0 bytes.length {} bytes = .error fault) ∨
      ∃ m, mergeFields (Envelope.field depthLimit) 0 bytes.length {} bytes = .ok (m, []) ∧ m.payload = none) :
    ∃ fault, decodeResponse bytes = .error fault := by
  rcases h with ⟨fault, hfault⟩ | ⟨m, hm, hnone⟩
  · refine ⟨.malformed fault, ?_⟩
    simp only [decodeResponse, Envelope.decode, Envelope.mergeBytes, hfault, Except.map]
  · refine ⟨.noResponse m.messageType, ?_⟩
    simp only [decodeResponse, Envelope.decode, Envelope.mergeBytes, hm, Except.map, Envelope.response?, hnone]

theorem decodeResponse_encode {m : Envelope} {r : SigningResponse} (hm : m.payload = some (.response r))
    (hfits : m.encode.length < UInt64.size) : decodeResponse m.encode = .ok r := by
  rw [decodeResponse, Envelope.decode, Envelope.mergeBytes_encode _ _ hfits, Envelope.empty_merge]
  simp only [Envelope.response?, hm]

/-- in front of the payload there is the message type, or a part of it -/
theorem cut_messageType (n : UInt32) {k : Nat} (hk : k < (encodeUInt32 1 n).length) :
    ∃ fault, decodeResponse ((encodeUInt32 1 n).take k) = .error fault := by
  apply decodeResponse_error
  by_cases hn : n = 0
  · simp [encodeUInt32, hn] at hk
  · have hencode : encodeUInt32 1 n = Key.encode ⟨1, .varint⟩ ++ Varint.encode n.toNat := by simp [encodeUInt32, hn]
    rw [hencode] at hk ⊢
    rcases Nat.eq_zero_or_pos k with rfl | hpos
    · exact .inr ⟨{}, rfl, rfl⟩
    · have hbody : RefusesCuts (Envelope.field depthLimit {} ⟨1, .varint⟩) (Varint.encode n.toNat) :=
        (((RefusesCuts.readVarint n.toNat).map UInt32.ofNat).expecting .varint .varint |>.map _).within _ _
      exact .inl (mergeFields_cut (by decide) hbody _ hpos hk)

/-- behind the message type there is a part of the response, or nothing -/
theorem cut_response (n : UInt32) (r : SigningResponse) {k : Nat} (hk : k < (encodeDelimited 3 r.encode).length)
    (hfits : (encodeUInt32 1 n ++ (encodeDelimited 3 r.encode).take k).length < UInt64.size) :
    ∃ fault, decodeResponse (encodeUInt32 1 n ++ (encodeDelimited 3 r.encode).take k) = .error fault := by
  apply decodeResponse_error
  let m : Envelope := { messageType := laterNumber 0 n }
  have htakes : Takes (Envelope.field depthLimit) {} (encodeUInt32 1 n) m :=
    .uint32 (fun n => ({ messageType := n } : Envelope)) rfl (by decide) rfl n
  obtain ⟨fuel, -, hfuel⟩ := htakes 0 _ _ (Nat.zero_le _) le_rfl hfits
  rw [hfuel]
  rw [encodeDelimited, List.append_assoc] at hk ⊢
  rcases Nat.eq_zero_or_pos k with rfl | hpos
  · refine .inr ⟨m, ?_, rfl⟩
    rw [List.take_zero]
    cases fuel <;> rfl
  · have hbody : RefusesCuts (Envelope.field depthLimit m ⟨3, .lengthDelimited⟩)
        (Varint.encode r.encode.length ++ r.encode) :=
      ((RefusesCuts.mergeMessage depthLimit SigningResponse.field {} .lengthDelimited r.encode).map _).within _ _
    exact .inl (mergeFields_cut (by decide) hbody _ hpos hk)

/-- **A truncated reply is never accepted.** The bytes of an envelope with a response give that response, and any
proper beginning of them is a decoding failure, whatever the status of the reply. -/
theorem truncated_reply_refused (m : Envelope) (r : SigningResponse) (hm : m.payload = some (.response r))
    (hfits : m.encode.length < UInt64.size) :
    decodeResponse m.encode = .ok r ∧
      ∀ k < m.encode.length,
        (∃ fault, decodeResponse (m.encode.take k) = .error fault ∧ (Failure.ofReply fault).kind = .decode) ∧
          ∀ status, (Exchange.Reception.reply status (.complete (m.encode.take k))).kind = .failed := by
  refine ⟨decodeResponse_encode hm hfits, fun k hk => ?_⟩
  have hencode : m.encode = encodeUInt32 1 m.messageType ++ encodeDelimited 3 r.encode := by
    simp only [Envelope.encode, hm, Payload.encode]
  obtain ⟨fault, hfault⟩ : ∃ fault, decodeResponse (m.encode.take k) = .error fault := by
    rw [hencode] at hk hfits ⊢
    rcases take_append_cases hk with ⟨hlt, htake⟩ | ⟨j, hj, htake⟩
    · rw [htake]
      exact cut_messageType m.messageType hlt
    · rw [htake]
      apply cut_response m.messageType r hj
      rw [← htake, List.length_take_of_le hk.le]
      exact hk.trans hfits
  refine ⟨⟨fault, hfault, rfl⟩, fun status => ?_⟩
  simp [Exchange.Reception.kind, Exchange.signs, hfault]

/-- a response that says success -/
def signedResponse : SigningResponse where
  header := some { messageType := 1001, success := true, requestId := "client_0_req_0" }
  finalSignature := "sig"

/-- cut behind the message type, and within the header behind its success flag -/
theorem signed_reply_cut :
    let m : Envelope := { messageType := 1001, payload := some (.response signedResponse) }
    m.encode.length < UInt64.size ∧ 3 < m.encode.length ∧ 12 < m.encode.length ∧
      decodeResponse m.encode = .ok signedResponse ∧
      (∃ fault, decodeResponse (m.encode.take 3) = .error fault ∧ (Failure.ofReply fault).kind = .decode) ∧
      (Exchange.Reception.reply 200 (.complete (m.encode.take 12))).kind = .failed := by
  intro m
  have hfits : m.encode.length < UInt64.size := by decide +kernel
  have h3 : 3 < m.encode.length := by decide +kernel
  have h12 : 12 < m.encode.length := by decide +kernel
  obtain ⟨hall, hcut⟩ := truncated_reply_refused m signedResponse rfl hfits
  exact ⟨hfits, h3, h12, hall, (hcut 3 h3).1, (hcut 12 h12).2 200⟩

end LoadTrial.Wire
