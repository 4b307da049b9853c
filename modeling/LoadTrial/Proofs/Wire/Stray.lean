/-
Fields that a message does not know, as a later version of the format may add them.

`Strays` are such fields, one behind the other, of any wire type, groups among them. Their keys, numbers and lengths
may be written in any way that a reader takes (`Varint.Spelling`), and within a group any tag may stand. A reader
skips them, and comes out right behind them, as long as groups are nested less deep than it may go (`skipped`); so they
leave the value at hand as it is (`Takes.strays`).
-/
import Mathlib.Tactic
import LoadTrial.Proofs.Wire.Field

namespace LoadTrial.Wire

/-- a way to write a key -/
abbrev Key.Spelling (key : Key) := Varint.Spelling (8 * key.tag + key.wireType.code)

/-- a tag that a key can carry -/
abbrev Tag := { tag : Nat // IsTag tag }

/-- the value of a field that is no group, in the form of its wire type -/
inductive Scalar : WireType → Type
  | varint {n : Nat} (number : Varint.Spelling n) : Scalar .varint
  | sixtyFourBit (content : Vector UInt8 8) : Scalar .sixtyFourBit
  | lengthDelimited (content : Bytes) (length : Varint.Spelling content.length) : Scalar .lengthDelimited
  | thirtyTwoBit (content : Vector UInt8 4) : Scalar .thirtyTwoBit

def Scalar.bytes {t : WireType} : Scalar t → Bytes
  | .varint number => number.bytes
  | .sixtyFourBit content => content.toList
  | .lengthDelimited content length => length.bytes ++ content
  | .thirtyTwoBit content => content.toList

/-- well-formed fields, one behind the other, whatever they mean -/
inductive Strays where
  | nil
  | scalar (tag : Tag) {t : WireType} (key : Key.Spelling ⟨tag, t⟩) (value : Scalar t) (rest : Strays)
  /-- the fields between a start key and an end key of one tag -/
  | group (tag : Tag) (opening : Key.Spelling ⟨tag, .startGroup⟩) (fields : Strays)
      (closing : Key.Spelling ⟨tag, .endGroup⟩) (rest : Strays)

namespace Strays

def encode : Strays → Bytes
  | .nil => []
  | .scalar _ key value rest => key.bytes ++ value.bytes ++ rest.encode
  | .group _ opening fields closing rest => opening.bytes ++ (fields.encode ++ closing.bytes) ++ rest.encode

/-- the tags of the fields themselves, not of those in groups -/
def tags : Strays → List Nat
  | .nil => []
  | .scalar tag _ _ rest => tag :: rest.tags
  | .group tag _ _ _ rest => tag :: rest.tags

/-- how deep groups are nested; zero without groups -/
def nesting : Strays → Nat
  | .nil => 0
  | .scalar _ _ _ rest => rest.nesting
  | .group _ _ fields _ rest => max (fields.nesting + 1) rest.nesting

end Strays

/-! ## Skipping -/

theorem readVarint_spelling {n : Nat} (s : Varint.Spelling n) (rest : Bytes) :
    readVarint (s.bytes ++ rest) = .ok (n, rest) := by
  rw [readVarint, Varint.decode_spelling]

theorem readKey_spelling {key : Key} (h : IsTag key.tag) (s : key.Spelling) (rest : Bytes) :
    readKey (s.bytes ++ rest) = .ok (key, rest) :=
  readKey_of_readVarint h (readVarint_spelling s rest)

/-- a field, as the bytes of its key and of its value, that is skipped by a reader that may go `depth` levels down -/
structure Skips (depth : Nat) (key : Key) (head body : Bytes) : Prop where
  head_pos : 0 < head.length
  read : ∀ rest, readKey (head ++ rest) = .ok (key, rest)
  skip : ∀ rest, skipValue depth key (body ++ rest) = .ok ((), rest)

theorem skipBytes_append (content rest : Bytes) : skipBytes content.length (content ++ rest) = .ok ((), rest) := by
  simp [skipBytes]

theorem skipValue_scalar (depth tag : Nat) {t : WireType} (value : Scalar t) (rest : Bytes) :
    skipValue (depth + 1) ⟨tag, t⟩ (value.bytes ++ rest) = .ok ((), rest) := by
  cases value with
  | varint number => simp only [skipValue, Scalar.bytes, Reader.map, readVarint_spelling]
  | sixtyFourBit content =>
    have h := skipBytes_append content.toList rest
    rwa [Vector.length_toList] at h
  | lengthDelimited content length =>
    simp [skipValue, Scalar.bytes, Reader.map, readDelimited, readVarint_spelling]
  | thirtyTwoBit content =>
    have h := skipBytes_append content.toList rest
    rwa [Vector.length_toList] at h

theorem Scalar.skips (depth : Nat) (tag : Tag) {t : WireType} (key : Key.Spelling ⟨tag, t⟩) (value : Scalar t) :
    Skips (depth + 1) ⟨tag, t⟩ key.bytes value.bytes :=
  ⟨key.length_pos, readKey_spelling tag.2 key, skipValue_scalar depth tag value⟩

theorem Scalar.ne_endGroup {t : WireType} (value : Scalar t) : t ≠ .endGroup := by
  cases value <;> decide

namespace Strays

/-- in a group whose values may go `depth` levels down, these fields are skipped, whatever is behind them -/
def Skipped (depth : Nat) (s : Strays) : Prop :=
  ∀ tag fuel rest, (s.encode ++ rest).length ≤ fuel →
    ∃ fuel', rest.length ≤ fuel' ∧
      skipGroup (skipValue depth) tag fuel (s.encode ++ rest) = skipGroup (skipValue depth) tag fuel' rest

/-- a group is skipped, up to its end key, if its fields are, one level further down -/
theorem Skipped.skips {depth : Nat} {fields : Strays} (h : fields.Skipped depth) (tag : Tag)
    (opening : Key.Spelling ⟨tag, .startGroup⟩) (closing : Key.Spelling ⟨tag, .endGroup⟩) :
    Skips (depth + 1) ⟨tag, .startGroup⟩ opening.bytes (fields.encode ++ closing.bytes) := by
  refine ⟨opening.length_pos, readKey_spelling tag.2 opening, fun rest => ?_⟩
  rw [List.append_assoc]
  obtain ⟨fuel, hfuel, hskip⟩ := h tag _ (closing.bytes ++ rest) le_rfl
  have hpos := closing.length_pos
  rw [List.length_append] at hfuel
  obtain ⟨fuel, rfl⟩ : ∃ f, fuel = f + 1 := ⟨fuel - 1, by omega⟩
  show skipGroup (skipValue depth) tag _ (fields.encode ++ (closing.bytes ++ rest)) = _
  rw [hskip, skipGroup, readKey_spelling tag.2 closing]
  simp

/-- one field more in front -/
theorem Skipped.cons {depth : Nat} {s rest : Strays} {key : Key} {head body : Bytes}
    (h : Skips depth key head body) (hkey : key.wireType ≠ .endGroup) (hrest : rest.Skipped depth)
    (hencode : s.encode = head ++ body ++ rest.encode) : s.Skipped depth := by
  intro tag fuel tail hfuel
  have hpos := h.head_pos
  simp only [hencode, List.append_assoc, List.length_append] at hfuel ⊢
  obtain ⟨fuel, rfl⟩ : ∃ f, fuel = f + 1 := ⟨fuel - 1, by omega⟩
  have hstep : skipGroup (skipValue depth) tag (fuel + 1) (head ++ (body ++ (rest.encode ++ tail))) =
      skipGroup (skipValue depth) tag fuel (rest.encode ++ tail) := by
    rw [skipGroup, h.read]
    simp only [hkey, if_false, h.skip]
  rw [hstep]
  apply hrest
  rw [List.length_append]
  omega

/-- a reader that may go down further than the groups are nested skips them; each group takes one level -/
theorem skipped (s : Strays) : ∀ {depth : Nat}, s.nesting < depth → s.Skipped depth := by
  induction s with
  | nil => exact fun _ _ fuel _ hfuel => ⟨fuel, hfuel, rfl⟩
  | scalar tag key value rest ih =>
    intro depth h
    obtain ⟨depth, rfl⟩ : ∃ d, depth = d + 1 := ⟨depth - 1, by omega⟩
    exact .cons (value.skips depth tag key) value.ne_endGroup (ih h) rfl
  | group tag opening fields closing rest ihFields ihRest =>
    intro depth h
    obtain ⟨hfields, hrest⟩ := max_lt_iff.1 h
    obtain ⟨depth, rfl⟩ : ∃ d, depth = d + 1 := ⟨depth - 1, by omega⟩
    have hgroup := (ihFields (Nat.lt_of_succ_lt_succ hfields)).skips tag opening closing
    exact .cons hgroup WireType.noConfusion (ihRest hrest) rfl

end Strays

/-! ## Strays in a message -/

variable {α : Type} {field : α → Key → Reader α} {known : List Nat} {depth : Nat}

/-- a message whose reader skips what it does not know takes such a field without a change -/
theorem Skips.takes {key : Key} {head body : Bytes} (h : Skips depth key head body)
    (hfield : ∀ a key, key.tag ∉ known → field a key = (skipValue depth key).map fun () => a)
    (hkey : key.tag ∉ known) (a : α) : Takes field a (head ++ body) a := by
  apply Takes.ofRead h.head_pos h.read
  intro rest _
  simp only [hfield a key hkey, Reader.map, h.skip]

theorem Takes.strays (hfield : ∀ a key, key.tag ∉ known → field a key = (skipValue depth key).map fun () => a)
    (s : Strays) (htags : ∀ tag ∈ s.tags, tag ∉ known) (hdepth : s.nesting < depth) (a : α) :
    Takes field a s.encode a := by
  obtain ⟨depth, rfl⟩ : ∃ d, depth = d + 1 := ⟨depth - 1, by omega⟩
  induction s with
  | nil => exact .nil a
  | scalar tag key value rest ih =>
    obtain ⟨htag, hrest⟩ := List.forall_mem_cons.1 htags
    exact ((value.skips depth tag key).takes hfield htag a).append (ih hrest hdepth)
  | group tag opening fields closing rest _ ih =>
    obtain ⟨htag, hrest⟩ := List.forall_mem_cons.1 htags
    obtain ⟨hfields, hnesting⟩ := max_lt_iff.1 hdepth
    have hgroup := (fields.skipped (Nat.lt_of_succ_lt_succ hfields)).skips tag opening closing
    exact (hgroup.takes hfield htag a).append (ih hrest hnesting)

end LoadTrial.Wire
