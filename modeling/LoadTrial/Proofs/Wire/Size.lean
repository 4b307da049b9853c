/-
Sizes that are computed without writing are those of the bytes that are written.

Each size is a sum of the sizes of fields, and each field has one lemma (`length_encodeUInt32` and its like). What a
writer needs of this is that it may put the computed size of a nested message in front of it before a byte of the
message is there: `Envelope.stream` writes so, text by text and message by message at every level, and the bytes are
those of `Envelope.encode`, which measures what it has written (`Envelope.stream_eq`). The size is the room that a
message needs: there is no buffer that is smaller and large enough, and none that is refused for nothing
(`Envelope.encodeInto_eq`).

Main result: `sizes_exact`.
-/
import Mathlib.Tactic
import LoadTrial.Proofs.Wire.Varint
import LoadTrial.Wire.Envelope

namespace LoadTrial

theorem Text.length_utf8 (s : String) : (utf8 s).length = s.utf8ByteSize := by
  rw [utf8_eq, Array.length_toList]
  rfl

namespace Wire

open Text (utf8 length_utf8)

/-! ## Numbers -/

namespace Varint

theorem size_of_lt {n : Nat} (h : n < 128) : size n = 1 := by
  rw [size, if_pos h]

theorem size_of_ge {n : Nat} (h : ¬ n < 128) : size n = 1 + size (n / 128) := by
  rw [size, if_neg h]

theorem length_encode (n : Nat) : (encode n).length = size n := by
  induction n using Nat.strong_induction_on with
  | _ n ih =>
    by_cases h : n < 128
    · rw [encode_of_lt h, size_of_lt h, List.length_singleton]
    · rw [encode_of_ge h, size_of_ge h, List.length_cons, ih (n / 128) (by omega), Nat.add_comm]

/-- a number takes a byte for each of its digits to base 128 -/
theorem size_eq_log (n : Nat) : size n = Nat.log 128 n + 1 := by
  induction n using Nat.strong_induction_on with
  | _ n ih =>
    by_cases h : n < 128
    · rw [size_of_lt h, Nat.log_of_lt h]
    · have hlog : Nat.log 128 n = Nat.log 128 (n / 128) + 1 := Nat.log_of_one_lt_of_le (by decide) (Nat.le_of_not_lt h)
      rw [size_of_ge h, ih (n / 128) (by omega), hlog, Nat.add_comm]

end Varint

/-- the wire type does not count for the size of a key -/
theorem length_key (key : Key) : key.encode.length = keySize key.tag := by
  have hcode : key.wireType.code < 8 := by
    cases key.wireType <;> decide
  have hdiv : (8 * key.tag + key.wireType.code) / 128 = 8 * key.tag / 128 := by omega
  rw [Key.encode, Varint.length_encode, keySize]
  by_cases h : 8 * key.tag < 128
  · rw [Varint.size_of_lt h, Varint.size_of_lt (by omega)]
  · rw [Varint.size_of_ge h, Varint.size_of_ge (by omega), hdiv]

/-! ## Fields -/

theorem length_encodeUInt32 (tag : Nat) (n : UInt32) : (encodeUInt32 tag n).length = uint32Size tag n := by
  rw [encodeUInt32, uint32Size]
  split_ifs
  · rfl
  · rw [List.length_append, length_key, Varint.length_encode]

theorem length_encodeBool (tag : Nat) (b : Bool) : (encodeBool tag b).length = boolSize tag b := by
  cases b with
  | false => rfl
  | true => simp [encodeBool, boolSize, length_key, Varint.encode_of_lt]

theorem length_encodeDelimited (tag : Nat) (content : Bytes) :
    (encodeDelimited tag content).length = delimitedSize tag content.length := by
  rw [encodeDelimited, List.length_append, List.length_append, length_key, Varint.length_encode, delimitedSize]

theorem length_encodeString (tag : Nat) (s : String) : (encodeString tag s).length = stringSize tag s := by
  rw [encodeString, stringSize]
  split_ifs
  · rfl
  · rw [length_encodeDelimited, length_utf8]

theorem length_encodeStrings (tag : Nat) (texts : List String) :
    (encodeStrings tag texts).length = stringsSize tag texts := by
  simp only [encodeStrings, stringsSize, Number.length_flatMap, length_encodeDelimited, length_utf8]

theorem length_encodeOptional {α : Type} (tag : Nat) {encode : α → Bytes} {size : α → Nat}
    (h : ∀ a, (encode a).length = size a) (a : Option α) :
    (encodeOptional tag encode a).length = optionalSize tag size a := by
  cases a with
  | none => rfl
  | some a => rw [encodeOptional, length_encodeDelimited, h, optionalSize]

/-! ## Messages -/

theorem RequestHeader.length_encode (h : RequestHeader) : h.encode.length = h.size := by
  simp only [encode, size, List.length_append, length_encodeUInt32, length_encodeString]

theorem ResponseHeader.length_encode (h : ResponseHeader) : h.encode.length = h.size := by
  simp only [encode, size, List.length_append, length_encodeUInt32, length_encodeBool, length_encodeString]

theorem SigningRequest.length_encode (r : SigningRequest) : r.encode.length = r.size := by
  simp only [encode, size, List.length_append, length_encodeOptional _ RequestHeader.length_encode,
    length_encodeUInt32, length_encodeString, length_encodeStrings]

theorem SigningResponse.length_encode (r : SigningResponse) : r.encode.length = r.size := by
  simp only [encode, size, List.length_append, length_encodeOptional _ ResponseHeader.length_encode,
    length_encodeUInt32, length_encodeString]

theorem Payload.length_encode (p : Payload) : p.encode.length = p.size := by
  cases p with
  | request r => rw [encode, length_encodeDelimited, r.length_encode, size]
  | response r => rw [encode, length_encodeDelimited, r.length_encode, size]

theorem Envelope.length_encode (m : Envelope) : m.encode.length = m.size := by
  rcases m with ⟨messageType, _ | p⟩
  · simp [encode, size, length_encodeUInt32]
  · simp [encode, size, length_encodeUInt32, p.length_encode]

/-! ## Writing behind sizes

The same fields, with every length computed before what it is the length of is written. -/

/-- some content behind a length that was computed beforehand -/
def streamDelimited (tag size : Nat) (content : Bytes) : Bytes :=
  Key.encode ⟨tag, .lengthDelimited⟩ ++ Varint.encode size ++ content

def streamString (tag : Nat) (s : String) : Bytes :=
  if s.isEmpty then [] else streamDelimited tag s.utf8ByteSize (utf8 s)

def streamStrings (tag : Nat) (texts : List String) : Bytes :=
  texts.flatMap fun s => streamDelimited tag s.utf8ByteSize (utf8 s)

def streamOptional {α : Type} (tag : Nat) (size : α → Nat) (stream : α → Bytes) : Option α → Bytes
  | none => []
  | some a => streamDelimited tag (size a) (stream a)

def RequestHeader.stream (h : RequestHeader) : Bytes :=
  encodeUInt32 1 h.messageType ++ streamString 2 h.requestId ++ streamString 3 h.timestamp
    ++ streamString 4 h.coordinatorId

def SigningRequest.stream (r : SigningRequest) : Bytes :=
  streamOptional 1 RequestHeader.size RequestHeader.stream r.header ++ streamString 2 r.keyId
    ++ streamString 3 r.transactionData ++ encodeUInt32 4 r.threshold ++ encodeUInt32 5 r.totalShards
    ++ streamStrings 6 r.requiredShards

def ResponseHeader.stream (h : ResponseHeader) : Bytes :=
  encodeUInt32 1 h.messageType ++ encodeBool 2 h.success ++ streamString 3 h.requestId ++ streamString 4 h.timestamp
    ++ streamString 5 h.errorMessage

def SigningResponse.stream (r : SigningResponse) : Bytes :=
  streamOptional 1 ResponseHeader.size ResponseHeader.stream r.header ++ streamString 2 r.keyId
    ++ streamString 3 r.finalSignature ++ encodeUInt32 4 r.successfulShards

def Payload.stream : Payload → Bytes
  | .request r => streamDelimited 2 r.size r.stream
  | .response r => streamDelimited 3 r.size r.stream

/-- the bytes of an envelope, each text and message in it behind its computed size -/
def Envelope.stream (m : Envelope) : Bytes :=
  encodeUInt32 1 m.messageType ++ match m.payload with
    | none => []
    | some p => p.stream

/-- a length that was computed rightly is the one that is measured -/
theorem streamDelimited_eq (tag : Nat) {size : Nat} {content : Bytes} (h : content.length = size) :
    streamDelimited tag size content = encodeDelimited tag content := by
  rw [streamDelimited, encodeDelimited, h]

theorem streamString_eq (tag : Nat) (s : String) : streamString tag s = encodeString tag s := by
  rw [streamString, encodeString, streamDelimited_eq tag (length_utf8 s)]

theorem streamStrings_eq (tag : Nat) (texts : List String) : streamStrings tag texts = encodeStrings tag texts := by
  simp only [streamStrings, encodeStrings, streamDelimited_eq tag (length_utf8 _)]

theorem streamOptional_eq {α : Type} (tag : Nat) {encode stream : α → Bytes} {size : α → Nat}
    (hstream : ∀ a, stream a = encode a) (hsize : ∀ a, (encode a).length = size a) (a : Option α) :
    streamOptional tag size stream a = encodeOptional tag encode a := by
  cases a with
  | none => rfl
  | some a => rw [streamOptional, hstream, streamDelimited_eq tag (hsize a), encodeOptional]

theorem RequestHeader.stream_eq (h : RequestHeader) : h.stream = h.encode := by
  simp only [stream, encode, streamString_eq]

theorem ResponseHeader.stream_eq (h : ResponseHeader) : h.stream = h.encode := by
  simp only [stream, encode, streamString_eq]

theorem SigningRequest.stream_eq (r : SigningRequest) : r.stream = r.encode := by
  simp only [stream, encode, streamOptional_eq 1 RequestHeader.stream_eq RequestHeader.length_encode, streamString_eq,
    streamStrings_eq]

theorem SigningResponse.stream_eq (r : SigningResponse) : r.stream = r.encode := by
  simp only [stream, encode, streamOptional_eq 1 ResponseHeader.stream_eq ResponseHeader.length_encode, streamString_eq]

theorem Payload.stream_eq (p : Payload) : p.stream = p.encode := by
  cases p with
  | request r => rw [stream, r.stream_eq, streamDelimited_eq 2 r.length_encode, encode]
  | response r => rw [stream, r.stream_eq, streamDelimited_eq 3 r.length_encode, encode]

theorem Envelope.stream_eq (m : Envelope) : m.stream = m.encode := by
  rcases m with ⟨messageType, _ | p⟩
  · rfl
  · simp only [stream, encode, p.stream_eq]

/-! ## Room -/

/-- a buffer is refused just if the bytes do not fit in, with what they need -/
theorem Envelope.encodeInto_eq (m : Envelope) (capacity : Nat) :
    m.encodeInto capacity =
      if m.encode.length ≤ capacity then .ok m.encode else .error ⟨m.encode.length, capacity⟩ := by
  rw [encodeInto, m.length_encode]
  by_cases h : capacity < m.size
  · rw [if_pos h, if_neg (Nat.not_le.2 h)]
  · rw [if_neg h, if_pos (Nat.le_of_not_lt h)]

/-- **Sizes are exact.** A number takes a byte for each digit to base 128; a header, a payload and an envelope take as
many bytes as their sizes say; an envelope whose texts and messages, at every level, stand behind their computed sizes
is the envelope in which they stand behind their lengths; and a buffer takes an envelope just if it has room for that
many bytes. -/
theorem sizes_exact :
    (∀ n, (Varint.encode n).length = Varint.size n ∧ Varint.size n = Nat.log 128 n + 1) ∧
    (∀ h : RequestHeader, h.encode.length = h.size) ∧
    (∀ h : ResponseHeader, h.encode.length = h.size) ∧
    (∀ r : SigningRequest, r.encode.length = r.size) ∧
    (∀ r : SigningResponse, r.encode.length = r.size) ∧
    (∀ p : Payload, p.encode.length = p.size) ∧
    ∀ m : Envelope, m.encode.length = m.size ∧ m.stream = m.encode ∧ ∀ capacity, m.encodeInto capacity =
      if m.encode.length ≤ capacity then .ok m.encode else .error ⟨m.encode.length, capacity⟩ :=
  ⟨fun n => ⟨Varint.length_encode n, Varint.size_eq_log n⟩, RequestHeader.length_encode, ResponseHeader.length_encode,
    SigningRequest.length_encode, SigningResponse.length_encode, Payload.length_encode,
    fun m => ⟨m.length_encode, m.stream_eq, m.encodeInto_eq⟩⟩

end Wire

end LoadTrial
