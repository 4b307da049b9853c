/-
Fields that are read back from what follows them.

`Takes field a chunk b`: reading the fields in `chunk`, with whatever bytes behind it, takes the value at hand from
`a` to `b`. Chunks may follow one another (`Takes.append`), and a chunk of one field is taken as the field is read
(`Takes.single`). From that there is one lemma for each kind of field that is written: numbers, truth values, texts,
lists of texts, and messages. All of them start at any value at hand, so they tell what a field does that is met for
a second time. A buffer holds fewer than 2^64 bytes, so every length in it is a 64-bit number.
-/
import Mathlib.Tactic
import LoadTrial.Proofs.Wire.Varint
import LoadTrial.Wire.Envelope

namespace LoadTrial.Wire

open Text (utf8 ofUtf8? ofUtf8?_utf8)

/-! ## Single values -/

theorem readVarint_encode {n : Nat} (h : n < UInt64.size) (rest : Bytes) :
    readVarint (Varint.encode n ++ rest) = .ok (n, rest) := by
  rw [readVarint, Varint.decode_encode, if_pos h]

theorem ofCode?_code (t : WireType) : WireType.ofCode? t.code = some t := by
  cases t <;> rfl

theorem code_lt (t : WireType) : t.code < 8 := by
  cases t <;> decide

/-- the tags that a key can carry -/
def IsTag (tag : Nat) : Prop := 0 < tag ∧ tag < 536870912

instance (tag : Nat) : Decidable (IsTag tag) := by
  unfold IsTag
  infer_instance

/-- a key is told by its number, however that is written -/
theorem readKey_of_readVarint {key : Key} (h : IsTag key.tag) {bytes rest : Bytes}
    (hread : readVarint bytes = .ok (8 * key.tag + key.wireType.code, rest)) : readKey bytes = .ok (key, rest) := by
  obtain ⟨hpos, hlt⟩ := h
  have hcode := code_lt key.wireType
  have h32 : ¬ UInt32.size ≤ 8 * key.tag + key.wireType.code := by
    simp only [UInt32.size]
    omega
  have hmod : (8 * key.tag + key.wireType.code) % 8 = key.wireType.code := by omega
  have hdiv : (8 * key.tag + key.wireType.code) / 8 = key.tag := by omega
  have hne : ¬ key.tag = 0 := by omega
  rw [readKey, hread]
  simp only [h32, if_false, hmod, ofCode?_code, hdiv, beq_iff_eq, hne]

theorem readKey_encode {key : Key} (h : IsTag key.tag) (rest : Bytes) :
    readKey (key.encode ++ rest) = .ok (key, rest) := by
  have hcode := code_lt key.wireType
  have hlt := h.2
  have h64 : 8 * key.tag + key.wireType.code < UInt64.size := by
    simp only [UInt64.size]
    omega
  exact readKey_of_readVarint h (readVarint_encode h64 rest)

theorem length_encode_pos (key : Key) : 0 < key.encode.length :=
  Varint.length_encode_pos _

theorem readUInt32_encode (n : UInt32) (rest : Bytes) :
    readUInt32 .varint (Varint.encode n.toNat ++ rest) = .ok (n, rest) := by
  have h : n.toNat < UInt64.size := n.toNat_lt_size.trans (by decide)
  simp only [readUInt32, expecting, if_true, Reader.map, readVarint_encode h, UInt32.ofNat_toNat]

theorem readBool_encode (rest : Bytes) : readBool .varint (Varint.encode 1 ++ rest) = .ok (true, rest) := by
  have h : 1 < UInt64.size := by decide
  simp only [readBool, expecting, if_true, Reader.map, readVarint_encode h]
  rfl

theorem readDelimited_encode {content : Bytes} (h : content.length < UInt64.size) (rest : Bytes) :
    readDelimited (Varint.encode content.length ++ (content ++ rest)) = .ok (content, rest) := by
  simp [readDelimited, readVarint_encode h]

theorem readString_encode {s : String} (h : (utf8 s).length < UInt64.size) (rest : Bytes) :
    readString .lengthDelimited (Varint.encode (utf8 s).length ++ (utf8 s ++ rest)) = .ok (s, rest) := by
  simp only [readString, expecting, if_true, readDelimited_encode h, ofUtf8?_utf8]

/-! ## Chunks -/

variable {α β : Type} {field : α → Key → Reader α}

/-- reading `chunk` in front of anything takes the value at hand from `a` to `b` -/
def Takes (field : α → Key → Reader α) (a : α) (chunk : Bytes) (b : α) : Prop :=
  ∀ limit fuel rest, limit ≤ rest.length → (chunk ++ rest).length ≤ fuel → (chunk ++ rest).length < UInt64.size →
    ∃ fuel', rest.length ≤ fuel' ∧
      mergeFields field limit fuel a (chunk ++ rest) = mergeFields field limit fuel' b rest

namespace Takes

theorem nil (a : α) : Takes field a [] a :=
  fun _ fuel _ _ hfuel _ => ⟨fuel, hfuel, rfl⟩

theorem append {a b c : α} {chunk chunk' : Bytes} (h : Takes field a chunk b) (h' : Takes field b chunk' c) :
    Takes field a (chunk ++ chunk') c := by
  intro limit fuel rest hlimit hfuel hsize
  rw [List.append_assoc] at hfuel hsize ⊢
  have hlimit' : limit ≤ (chunk' ++ rest).length := by
    rw [List.length_append]
    omega
  have hsize' : (chunk' ++ rest).length < UInt64.size := by
    rw [List.length_append] at hsize
    omega
  obtain ⟨fuel1, hfuel1, h1⟩ := h limit fuel (chunk' ++ rest) hlimit' hfuel hsize
  obtain ⟨fuel2, hfuel2, h2⟩ := h' limit fuel1 rest hlimit hfuel1 hsize'
  exact ⟨fuel2, hfuel2, h1.trans h2⟩

/-- a field is taken as it is read, whatever the form of its key -/
theorem ofRead {a b : α} {key : Key} {head body : Bytes} (hpos : 0 < head.length)
    (hhead : ∀ rest, readKey (head ++ rest) = .ok (key, rest))
    (h : ∀ rest, (body ++ rest).length < UInt64.size → field a key (body ++ rest) = .ok (b, rest)) :
    Takes field a (head ++ body) b := by
  intro limit fuel rest hlimit hfuel hsize
  rw [List.append_assoc, List.length_append, List.length_append] at hfuel hsize
  have hbody : (body ++ rest).length < UInt64.size := by
    rw [List.length_append]
    omega
  have hlt : ¬ (head ++ (body ++ rest)).length ≤ limit := by
    rw [List.length_append, List.length_append]
    omega
  cases fuel with
  | zero => omega
  | succ fuel =>
    refine ⟨fuel, by omega, ?_⟩
    rw [List.append_assoc, mergeFields, if_neg hlt, hhead]
    simp only [h rest hbody]

theorem single {a b : α} {key : Key} {body : Bytes} (htag : IsTag key.tag)
    (h : ∀ rest, (body ++ rest).length < UInt64.size → field a key (body ++ rest) = .ok (b, rest)) :
    Takes field a (key.encode ++ body) b :=
  ofRead (length_encode_pos key) (readKey_encode htag) h

/-- when a chunk was taken, reading ends where the chunk does -/
theorem mergeFields_eq {a b : α} {chunk rest : Bytes} (h : Takes field a chunk b) {fuel : Nat}
    (hfuel : (chunk ++ rest).length ≤ fuel) (hsize : (chunk ++ rest).length < UInt64.size) :
    mergeFields field rest.length fuel a (chunk ++ rest) = .ok (b, rest) := by
  obtain ⟨fuel', -, h'⟩ := h rest.length fuel rest le_rfl hfuel hsize
  rw [h']
  cases fuel' <;> simp [mergeFields, checkEnd]

/-- when a chunk was taken that is all there is, reading is over -/
theorem mergeFields_all {a b : α} {chunk : Bytes} (h : Takes field a chunk b) (hsize : chunk.length < UInt64.size) :
    mergeFields field 0 chunk.length a chunk = .ok (b, []) := by
  have hread := @mergeFields_eq α field a b chunk [] h chunk.length (by simp) (by simpa using hsize)
  simpa using hread

end Takes

/-- reading some chunks, one behind the other, takes the value at hand from `a` to `b` -/
inductive TakesAll (field : α → Key → Reader α) : α → List Bytes → α → Prop
  | nil (a : α) : TakesAll field a [] a
  | cons {a b c : α} {chunk : Bytes} {chunks : List Bytes} (head : Takes field a chunk b)
      (tail : TakesAll field b chunks c) : TakesAll field a (chunk :: chunks) c

theorem TakesAll.flatten {a b : α} {chunks : List Bytes} (h : TakesAll field a chunks b) :
    Takes field a chunks.flatten b := by
  induction h with
  | nil a => exact .nil a
  | cons head _ ih =>
    rw [List.flatten_cons]
    exact head.append ih

namespace Takes

/-! ## Kinds of fields -/

variable {message name : String} {tag : Nat}

theorem uint32 {a : α} (set : UInt32 → α) {current : UInt32} (hcurrent : set current = a) (htag : IsTag tag)
    (hfield : field a ⟨tag, .varint⟩ = ((readUInt32 .varint).map set).within message name) (n : UInt32) :
    Takes field a (encodeUInt32 tag n) (set (laterNumber current n)) := by
  by_cases h : n = 0
  · simpa [encodeUInt32, laterNumber, h, hcurrent] using nil a
  · have hset : set (laterNumber current n) = set n := by simp [laterNumber, h]
    have hencode : encodeUInt32 tag n = Key.encode ⟨tag, .varint⟩ ++ Varint.encode n.toNat := by
      simp [encodeUInt32, h]
    rw [hset, hencode]
    apply single htag
    intro rest _
    simp only [hfield, Reader.within, Reader.map, readUInt32_encode]

theorem bool {a : α} (set : Bool → α) {current : Bool} (hcurrent : set current = a) (htag : IsTag tag)
    (hfield : field a ⟨tag, .varint⟩ = ((readBool .varint).map set).within message name) (b : Bool) :
    Takes field a (encodeBool tag b) (set (current || b)) := by
  cases b with
  | false => simpa [encodeBool, hcurrent] using nil a
  | true =>
    have hencode : encodeBool tag true = Key.encode ⟨tag, .varint⟩ ++ Varint.encode 1 := by simp [encodeBool]
    rw [Bool.or_true, hencode]
    apply single htag
    intro rest _
    simp only [hfield, Reader.within, Reader.map, readBool_encode]

/-- a text that is written even if it is empty -/
theorem text {a : α} (set : String → α) (htag : IsTag tag)
    (hfield : field a ⟨tag, .lengthDelimited⟩ = ((readString .lengthDelimited).map set).within message name)
    (s : String) : Takes field a (encodeDelimited tag (utf8 s)) (set s) := by
  rw [encodeDelimited, List.append_assoc]
  apply single htag
  intro rest hsize
  rw [List.append_assoc] at hsize ⊢
  have hlen : (utf8 s).length < UInt64.size := by
    rw [List.length_append, List.length_append] at hsize
    omega
  simp only [hfield, Reader.within, Reader.map, readString_encode hlen]

theorem string {a : α} (set : String → α) {current : String} (hcurrent : set current = a) (htag : IsTag tag)
    (hfield : field a ⟨tag, .lengthDelimited⟩ = ((readString .lengthDelimited).map set).within message name)
    (s : String) : Takes field a (encodeString tag s) (set (laterText current s)) := by
  cases h : s.isEmpty with
  | true => simpa [encodeString, laterText, h, hcurrent] using nil a
  | false => simpa [encodeString, laterText, h] using text set htag hfield s

/-- texts are taken one by one, behind those at hand -/
theorem strings {a : α} (set : List String → α) {current : List String} (hcurrent : set current = a) (htag : IsTag tag)
    (hfield : ∀ texts, field (set texts) ⟨tag, .lengthDelimited⟩ =
      ((readString .lengthDelimited).map fun s => set (texts ++ [s])).within message name)
    (texts : List String) : Takes field a (encodeStrings tag texts) (set (current ++ texts)) := by
  subst hcurrent
  induction texts generalizing current with
  | nil => simpa [encodeStrings] using nil _
  | cons s texts ih =>
    rw [encodeStrings, List.flatMap_cons, List.append_cons current s texts]
    exact (text (fun s => set (current ++ [s])) htag (hfield current) s).append ih

/-- a message behind its length; the length ends it -/
theorem nested {a : α} (set : β → α) {inner : Nat → β → Key → Reader β} {depth : Nat} {x y : β} {content : Bytes}
    (htag : IsTag tag) (hfield : field a ⟨tag, .lengthDelimited⟩ =
      ((mergeMessage (depth + 1) inner x .lengthDelimited).map set).within message name)
    (h : Takes (inner depth) x content y) : Takes field a (encodeDelimited tag content) (set y) := by
  rw [encodeDelimited, List.append_assoc]
  apply single htag
  intro rest hsize
  rw [List.append_assoc] at hsize ⊢
  rw [List.length_append] at hsize
  have hlen : content.length < UInt64.size := by
    rw [List.length_append] at hsize
    omega
  have hlimit : (content ++ rest).length - content.length = rest.length := by
    rw [List.length_append, Nat.add_sub_cancel_left]
  have hle : ¬ (content ++ rest).length < content.length := by
    rw [List.length_append]
    omega
  have hmerge := h.mergeFields_eq le_rfl (lt_of_le_of_lt (Nat.le_add_left _ _) hsize)
  simp only [hfield, Reader.within, Reader.map, mergeMessage, expecting, if_true, readVarint_encode hlen,
    hle, if_false, hlimit, hmerge]

/-- a message that may be absent; merging into the one at hand, or into an empty one -/
theorem optional {a : α} (set : Option β → α) {inner : Nat → β → Key → Reader β} {depth : Nat} {empty : β}
    {encode : β → Bytes} {merge : β → β → β} {current : Option β} (hcurrent : set current = a) (htag : IsTag tag)
    (hfield : field a ⟨tag, .lengthDelimited⟩ = ((mergeMessage (depth + 1) inner (current.getD empty)
      .lengthDelimited).map fun x => set (some x)).within message name)
    (hinner : ∀ x y, Takes (inner depth) x (encode y) (merge x y)) (hempty : ∀ y, merge empty y = y)
    (y : Option β) : Takes field a (encodeOptional tag encode y) (set (mergeOptional merge current y)) := by
  cases y with
  | none => simpa [encodeOptional, mergeOptional, hcurrent] using nil a
  | some y =>
    have hmerge : mergeOptional merge current (some y) = some (merge (current.getD empty) y) := by
      cases current <;> simp [mergeOptional, hempty]
    rw [hmerge]
    exact nested (fun x => set (some x)) htag hfield (hinner _ y)

end Takes

end LoadTrial.Wire
