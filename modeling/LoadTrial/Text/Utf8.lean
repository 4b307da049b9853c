/-
Texts as bytes. A text has one UTF-8 form; bytes that are no such form are refused, or read leniently, with a
replacement character for each part that cannot be continued to a character.
-/

namespace LoadTrial

abbrev Bytes := List UInt8

namespace Text

/-- the bytes of a text in UTF-8 -/
def utf8 (s : String) : Bytes :=
  s.toUTF8.toList

/-- the text that some bytes are the UTF-8 form of -/
def ofUtf8? (bytes : Bytes) : Option String :=
  String.fromUTF8? ⟨bytes.toArray⟩

theorem toList_loop (bytes : ByteArray) (i : Nat) (r : List UInt8) :
    ByteArray.toList.loop bytes i r = r.reverse ++ bytes.data.toList.drop i := by
  fun_induction ByteArray.toList.loop bytes i r with
  | case1 i r h ih =>
    have hi : i < bytes.data.toList.length := h
    have hget : bytes.get! i = bytes.data.toList[i] := by
      rw [Array.getElem_toList]
      exact getElem!_pos bytes.data i h
    rw [ih, List.drop_eq_getElem_cons hi, List.reverse_cons, List.append_assoc, hget]
    rfl
  | case2 i r h =>
    rw [List.drop_eq_nil_of_le (Nat.le_of_not_lt h), List.append_nil]

theorem utf8_eq (s : String) : utf8 s = s.toByteArray.data.toList :=
  toList_loop s.toByteArray 0 []

/-- a text is read back from its bytes -/
theorem ofUtf8?_utf8 (s : String) : ofUtf8? (utf8 s) = some s := by
  rw [ofUtf8?, utf8_eq, String.fromUTF8?, dif_pos s.isValidUTF8]
  rfl

/-! ## Lenient reading, one byte at a time -/

/-- an unfinished character: how many bytes are to come, the range of the next one, and the bits read so far -/
structure Unfinished where
  left : Nat
  low : UInt8
  high : UInt8
  bits : Nat
  deriving DecidableEq, Repr

def replacement : Char := '\uFFFD'

/-- the first byte of a character: a whole character, the beginning of a longer one, or neither -/
def firstByte (b : UInt8) : List Char × Option Unfinished :=
  let n := b.toNat
  if n < 0x80 then ([Char.ofNat n], none)
  else if n < 0xC2 then ([replacement], none)
  else if n < 0xE0 then ([], some ⟨1, 0x80, 0xBF, n - 0xC0⟩)
  else if n < 0xF0 then
    ([], some ⟨2, if n == 0xE0 then 0xA0 else 0x80, if n == 0xED then 0x9F else 0xBF, n - 0xE0⟩)
  else if n < 0xF5 then
    ([], some ⟨3, if n == 0xF0 then 0x90 else 0x80, if n == 0xF4 then 0x8F else 0xBF, n - 0xF0⟩)
  else ([replacement], none)

/-- one byte: the characters it completes, and what is unfinished behind it; a byte that does not continue an
    unfinished character replaces that one and begins anew -/
def lenientStep : Option Unfinished → UInt8 → List Char × Option Unfinished
  | none, b => firstByte b
  | some u, b =>
    if u.low ≤ b && b ≤ u.high then
      let bits := 64 * u.bits + (b.toNat - 0x80)
      if u.left ≤ 1 then ([Char.ofNat bits], none) else ([], some ⟨u.left - 1, 0x80, 0xBF, bits⟩)
    else
      let (out, next) := firstByte b
      (replacement :: out, next)

def lenientFrom : Option Unfinished → Bytes → List Char
  | none, [] => []
  | some _, [] => [replacement]
  | st, b :: rest =>
    let (out, next) := lenientStep st b
    out ++ lenientFrom next rest

/-- the characters of some bytes, read leniently -/
def lenient (bytes : Bytes) : List Char :=
  lenientFrom none bytes

/-! ## Searching -/

/-- `pattern` stands somewhere in a list, in one piece -/
def occursIn {α : Type} [BEq α] (pattern : List α) : List α → Bool
  | [] => pattern.isEmpty
  | x :: xs => pattern.isPrefixOf (x :: xs) || occursIn pattern xs

end Text

end LoadTrial
