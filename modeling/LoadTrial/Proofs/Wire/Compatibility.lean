/-
Replies of later versions. A later coordinator may put fields that are not known here between the known ones, in the
envelope, in the response and in its header; the lengths in front of the two messages grow by that. `weave` puts
strays around the fields of one message, and `Envelope.encodeAmid` writes an envelope with strays at all three levels.
Since strays leave every value as it is, a reader that takes the fields takes them among strays as well
(`TakesAll.weave`).

Main result: `strays_ignored`.
-/
import Mathlib.Tactic
import LoadTrial.Proofs.Wire.Merging
import LoadTrial.Proofs.Wire.Stray

namespace LoadTrial.Wire

/-- chunks one behind the other, with strays in front of each and behind the last; there may be none in a gap -/
def weave (gaps : Nat → Strays) : List Bytes → Bytes
  | [] => (gaps 0).encode
  | chunk :: chunks => (gaps 0).encode ++ chunk ++ weave (fun i => gaps (i + 1)) chunks

theorem TakesAll.weave {α : Type} {field : α → Key → Reader α} {a b : α} {chunks : List Bytes}
    (h : TakesAll field a chunks b) {gaps : Nat → Strays} (hgaps : ∀ i x, Takes field x (gaps i).encode x) :
    Takes field a (weave gaps chunks) b := by
  induction h generalizing gaps with
  | nil a => exact hgaps 0 a
  | cons head _ ih => exact ((hgaps 0 _).append head).append (ih fun i => hgaps (i + 1))

theorem weave_nil (chunks : List Bytes) : weave (fun _ => .nil) chunks = chunks.flatten := by
  induction chunks with
  | nil => rfl
  | cons chunk chunks ih => simp [weave, ih, Strays.encode]

/-- strays add to the length, and so do longer chunks -/
theorem length_flatten_le_weave {chunks chunks' : List Bytes}
    (h : List.Forall₂ (fun c c' => c.length ≤ c'.length) chunks chunks') (gaps : Nat → Strays) :
    chunks.flatten.length ≤ (weave gaps chunks').length := by
  induction h generalizing gaps with
  | nil => exact Nat.zero_le _
  | cons hle _ ih =>
    have := ih fun i => gaps (i + 1)
    simp only [weave, List.flatten_cons, List.length_append]
    omega

theorem length_encodeDelimited_le (tag : Nat) {content content' : Bytes} (h : content.length ≤ content'.length) :
    (encodeDelimited tag content).length ≤ (encodeDelimited tag content').length := by
  have := Varint.length_encode_le h
  simp only [encodeDelimited, List.length_append]
  omega

/-! ## Envelopes among strays -/

/-- the strays in each gap of the three messages of a reply -/
structure Gaps where
  envelope : Nat → Strays := fun _ => .nil
  response : Nat → Strays := fun _ => .nil
  header : Nat → Strays := fun _ => .nil

/-- no stray has a tag that its message knows, and groups are nested less deep than the reader may go, where the
messages around them count as well -/
structure Gaps.Foreign (gaps : Gaps) : Prop where
  envelope_tags : ∀ i, ∀ tag ∈ (gaps.envelope i).tags, tag ∉ [1, 2, 3]
  response_tags : ∀ i, ∀ tag ∈ (gaps.response i).tags, tag ∉ [1, 2, 3, 4]
  header_tags : ∀ i, ∀ tag ∈ (gaps.header i).tags, tag ∉ [1, 2, 3, 4, 5]
  envelope_nesting : ∀ i, (gaps.envelope i).nesting < depthLimit
  response_nesting : ∀ i, 1 + (gaps.response i).nesting < depthLimit
  header_nesting : ∀ i, 2 + (gaps.header i).nesting < depthLimit

namespace ResponseHeader

def encodeAmid (gaps : Gaps) (h : ResponseHeader) : Bytes :=
  weave gaps.header h.parts

theorem field_of_unknown (depth : Nat) (h : ResponseHeader) (key : Key) (hkey : key.tag ∉ [1, 2, 3, 4, 5]) :
    field depth h key = (skipValue depth key).map fun () => h := by
  unfold field
  split <;> simp_all

theorem takes_encodeAmid {gaps : Gaps} (hgaps : gaps.Foreign) (a b : ResponseHeader) :
    Takes (field (depthLimit - 2)) a (b.encodeAmid gaps) (a.merge b) :=
  (takes_parts _ a b).weave fun i x =>
    .strays (field_of_unknown _) _ (hgaps.header_tags i) (Nat.lt_sub_iff_add_lt'.2 (hgaps.header_nesting i)) x

end ResponseHeader

namespace SigningResponse

def encodeAmid (gaps : Gaps) (r : SigningResponse) : Bytes :=
  weave gaps.response (r.parts (ResponseHeader.encodeAmid gaps))

theorem field_of_unknown (depth : Nat) (r : SigningResponse) (key : Key) (hkey : key.tag ∉ [1, 2, 3, 4]) :
    field depth r key = (skipValue depth key).map fun () => r := by
  unfold field
  split <;> simp_all

theorem takes_encodeAmid {gaps : Gaps} (hgaps : gaps.Foreign) (a b : SigningResponse) :
    Takes (field (depthLimit - 1)) a (b.encodeAmid gaps) (a.merge b) :=
  (takes_parts (ResponseHeader.takes_encodeAmid hgaps) a b).weave fun i x =>
    .strays (field_of_unknown _) _ (hgaps.response_tags i) (Nat.lt_sub_iff_add_lt'.2 (hgaps.response_nesting i)) x

theorem length_encode_le (gaps : Gaps) (r : SigningResponse) : r.encode.length ≤ (r.encodeAmid gaps).length := by
  have hheader : (encodeOptional 1 ResponseHeader.encode r.header).length ≤
      (encodeOptional 1 (ResponseHeader.encodeAmid gaps) r.header).length := by
    cases r.header with
    | none => exact le_rfl
    | some h =>
      apply length_encodeDelimited_le
      rw [h.encode_eq_flatten]
      exact length_flatten_le_weave (List.forall₂_same.2 fun _ _ => le_rfl) gaps.header
  rw [encode_eq_flatten]
  apply length_flatten_le_weave
  exact .cons hheader (List.forall₂_same.2 fun _ _ => le_rfl)

end SigningResponse

namespace Envelope

/-- writes an envelope with strays in the gaps; the fields of a request stay as they are -/
def encodeAmid (gaps : Gaps) (m : Envelope) : Bytes :=
  weave gaps.envelope (m.parts (SigningResponse.encodeAmid gaps))

/-- without strays an envelope is written as it is -/
theorem encodeAmid_nil (m : Envelope) : m.encodeAmid {} = m.encode := by
  have hheader : ResponseHeader.encodeAmid {} = ResponseHeader.encode := by
    funext h
    rw [ResponseHeader.encodeAmid, weave_nil, h.encode_eq_flatten]
  have hresponse : SigningResponse.encodeAmid {} = SigningResponse.encode := by
    funext r
    rw [SigningResponse.encodeAmid, weave_nil, hheader, r.encode_eq_flatten]
  rw [encodeAmid, weave_nil, hresponse, encode_eq_flatten]

theorem field_of_unknown (depth : Nat) (m : Envelope) (key : Key) (hkey : key.tag ∉ [1, 2, 3]) :
    field depth m key = (skipValue depth key).map fun () => m := by
  unfold field
  split <;> simp_all

theorem takes_encodeAmid {gaps : Gaps} (hgaps : gaps.Foreign) (a b : Envelope) :
    Takes (field depthLimit) a (b.encodeAmid gaps) (a.merge b) :=
  (takes_parts (SigningResponse.takes_encodeAmid hgaps) a b).weave fun i x =>
    .strays (field_of_unknown _) _ (hgaps.envelope_tags i) (hgaps.envelope_nesting i) x

theorem decode_encodeAmid {gaps : Gaps} (hgaps : gaps.Foreign) (m : Envelope)
    (hfits : (m.encodeAmid gaps).length < UInt64.size) : decode (m.encodeAmid gaps) = .ok m := by
  rw [decode, mergeBytes, (takes_encodeAmid hgaps {} m).mergeFields_all hfits, empty_merge]
  rfl

theorem length_encode_le (gaps : Gaps) (m : Envelope) : m.encode.length ≤ (m.encodeAmid gaps).length := by
  have hpayload : ((m.payload.map (Payload.part SigningResponse.encode)).getD []).length ≤
      ((m.payload.map (Payload.part (SigningResponse.encodeAmid gaps))).getD []).length := by
    rcases m.payload with _ | _ | r
    · exact le_rfl
    · exact le_rfl
    · exact length_encodeDelimited_le 3 (r.length_encode_le gaps)
  rw [encode_eq_flatten]
  apply length_flatten_le_weave
  exact .cons le_rfl (.cons hpayload .nil)

end Envelope

/-- **Forward compatibility.** Strays between the fields of a reply do not change the response that is found in it. -/
theorem strays_ignored (m : Envelope) (r : SigningResponse) (hm : m.payload = some (.response r)) (gaps : Gaps)
    (hgaps : gaps.Foreign) (hfits : (m.encodeAmid gaps).length < UInt64.size) :
    decodeResponse (m.encodeAmid gaps) = .ok r ∧ decodeResponse (m.encodeAmid gaps) = decodeResponse m.encode := by
  have hread := Envelope.decode_encodeAmid hgaps m hfits
  have hplain := Envelope.mergeBytes_encode {} m ((m.length_encode_le gaps).trans_lt hfits)
  rw [Envelope.empty_merge] at hplain
  have hfound := (decodeResponse_eq_ok_iff hread r).2 hm
  exact ⟨hfound, hfound.trans ((decodeResponse_eq_ok_iff hplain r).2 hm).symm⟩

/-- a number in more groups than it needs, a group with known tags and a group of its own in it, and fields of fixed
length -/
def laterFields : Gaps where
  envelope _ := .scalar ⟨4, by decide⟩ { more := 2 } (.varint (n := 5) { more := 9 }) .nil
  response _ := .group ⟨5, by decide⟩ { more := 0 }
    (.scalar ⟨1, by decide⟩ { more := 0 } (.lengthDelimited [0xFF, 0x2C] { more := 0 })
      (.group ⟨5, by decide⟩ { more := 0 } .nil { more := 1 } .nil))
    { more := 0 } .nil
  header i := if i = 1 then .nil else
    .scalar ⟨6, by decide⟩ { more := 0 } (.sixtyFourBit (.replicate 8 0xFF))
      (.scalar ⟨536870911, by decide⟩ { more := 4 } (.thirtyTwoBit (.replicate 4 0)) .nil)

theorem later_fields_ignored :
    let r : SigningResponse := { header := some { messageType := 1001, success := true }, finalSignature := "sig" }
    let m : Envelope := { messageType := 1001, payload := some (.response r) }
    laterFields.Foreign ∧ (m.encodeAmid laterFields).length < UInt64.size ∧
      m.encode.length < (m.encodeAmid laterFields).length ∧ decodeResponse (m.encodeAmid laterFields) = .ok r := by
  intro r m
  have hforeign : laterFields.Foreign := by
    constructor <;> intro i <;> by_cases hi : i = 1 <;>
      simp [laterFields, hi, Strays.tags, Strays.nesting, depthLimit]
  have hfits : (m.encodeAmid laterFields).length < UInt64.size := by decide +kernel
  exact ⟨hforeign, hfits, by decide +kernel, (strays_ignored m r rfl laterFields hforeign hfits).1⟩

end LoadTrial.Wire
