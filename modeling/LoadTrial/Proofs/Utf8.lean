/-
ASCII in bytes. A byte below 128 in the UTF-8 form of a text stands for a character of its own (`mem_utf8_iff`), so
what is looked for in the bytes of a text can be looked for among its characters.
-/
import Mathlib.Tactic
import LoadTrial.Text.Utf8

namespace LoadTrial.Text

theorem utf8_eq_flatMap (s : String) : utf8 s = s.toList.flatMap String.utf8EncodeChar := by
  have hbytes : s.toByteArray = s.toList.utf8Encode := by
    rw [← String.toByteArray_ofList, String.ofList_toList]
  rw [utf8_eq, hbytes, List.utf8Encode, List.data_toByteArray]

/-- a text has the bytes that it was read from -/
theorem utf8_of_ofUtf8? {bytes : Bytes} {s : String} (h : ofUtf8? bytes = some s) : utf8 s = bytes := by
  rw [ofUtf8?, String.fromUTF8?] at h
  split_ifs at h
  cases h
  rw [utf8_eq]
  rfl

/-- a byte of ASCII stands for its character only -/
theorem toNat_of_mem_utf8EncodeChar {c : Char} {b : UInt8} (h : b ∈ String.utf8EncodeChar c) (hb : b.toNat < 128) :
    c.toNat = b.toNat := by
  change c.val.toNat = b.toNat
  unfold String.utf8EncodeChar at h
  extract_lets v at h
  split_ifs at h with h1 h2 h3
  · rw [List.mem_singleton] at h
    rw [h, UInt8.toNat_ofNat']
    omega
  · rw [List.mem_cons, List.mem_singleton] at h
    rcases h with rfl | rfl <;> rw [UInt8.toNat_ofNat'] at hb <;> omega
  · simp only [List.mem_cons, List.not_mem_nil, or_false] at h
    rcases h with rfl | rfl | rfl <;> rw [UInt8.toNat_ofNat'] at hb <;> omega
  · simp only [List.mem_cons, List.not_mem_nil, or_false] at h
    rcases h with rfl | rfl | rfl | rfl <;> rw [UInt8.toNat_ofNat'] at hb <;> omega

theorem utf8EncodeChar_of_lt {c : Char} (hc : c.toNat < 0x80) : String.utf8EncodeChar c = [UInt8.ofNat c.toNat] := by
  have hval : c.val.toNat ≤ 0x7F := by
    change c.toNat ≤ 0x7F
    omega
  rw [String.utf8EncodeChar, if_pos hval]
  rfl

/-- a character of ASCII stands in a text just if its byte is one of the text's -/
theorem mem_utf8_iff {c : Char} (hc : c.toNat < 0x80) (s : String) : UInt8.ofNat c.toNat ∈ utf8 s ↔ c ∈ s.toList := by
  rw [utf8_eq_flatMap, List.mem_flatMap]
  have hbyte : (UInt8.ofNat c.toNat).toNat = c.toNat := by
    rw [UInt8.toNat_ofNat']
    omega
  constructor
  · rintro ⟨d, hd, hmem⟩
    have hnat := toNat_of_mem_utf8EncodeChar hmem (by omega)
    rw [hbyte] at hnat
    exact Char.toNat_inj.1 hnat ▸ hd
  · intro h
    refine ⟨c, h, ?_⟩
    rw [utf8EncodeChar_of_lt hc]
    exact List.mem_singleton_self _

end LoadTrial.Text
