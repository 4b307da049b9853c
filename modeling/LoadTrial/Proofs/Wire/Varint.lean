/-
Base-128 numbers are read back from what follows them, exactly if they have 64 bits (`Varint.decode_encode`), and no
proper beginning of one is read (`Varint.decode_take`).

A number may be written in more groups than it needs. `Varint.Spelling n` are all the ways to write `n`, and they are
exactly what the reader takes for `n` (`Varint.decode_eq_some_iff`).
-/
import Mathlib.Tactic
import LoadTrial.Wire.Varint

namespace LoadTrial.Wire.Varint

theorem encode_of_lt {n : Nat} (h : n < 128) : encode n = [UInt8.ofNat n] := by
  rw [encode, if_pos h]

theorem encode_of_ge {n : Nat} (h : ¬ n < 128) : encode n = UInt8.ofNat (n % 128 + 128) :: encode (n / 128) := by
  rw [encode, if_neg h]

theorem encode_ne_nil (n : Nat) : encode n ≠ [] := by
  by_cases h : n < 128
  · simp [encode_of_lt h]
  · simp [encode_of_ge h]

theorem length_encode_pos (n : Nat) : 0 < (encode n).length :=
  List.length_pos_iff.2 (encode_ne_nil n)

theorem toNat_last {n : Nat} (h : n < 128) : (UInt8.ofNat n).toNat = n :=
  UInt8.toNat_ofNat_of_lt' (by simp [UInt8.size]; omega)

/-- a last group has its top bit clear -/
theorem last_lt {n : Nat} (h : n < 128) : UInt8.ofNat n < 0x80 := by
  rw [UInt8.lt_iff_toNat_lt, toNat_last h]
  exact h

/-- a group before the last one has its top bit set, and its value below that -/
theorem toNat_group (n : Nat) : (UInt8.ofNat (n % 128 + 128)).toNat = n % 128 + 128 :=
  UInt8.toNat_ofNat_of_lt' (by simp [UInt8.size]; omega)

theorem group_ge (n : Nat) : ¬ UInt8.ofNat (n % 128 + 128) < 0x80 := by
  rw [UInt8.lt_iff_toNat_lt, toNat_group]
  simp

/-- what reading a group and going on adds up to -/
theorem value_add_group (value weight n : Nat) :
    value + weight * (n % 128) + weight * 128 * (n / 128) = value + weight * n := by
  calc value + weight * (n % 128) + weight * 128 * (n / 128)
      = value + weight * (n % 128 + 128 * (n / 128)) := by ring
    _ = value + weight * n := by rw [Nat.mod_add_div]

/-- reading stops at the tenth group, of which one bit is left -/
theorem decodeGroups_encode (left weight value n : Nat) (rest : Bytes) :
    decodeGroups (left + 1) weight value (encode n ++ rest) =
      if n < 2 * 128 ^ left then some (value + weight * n, rest) else none := by
  induction left generalizing weight value n with
  | zero =>
    by_cases h : n < 128
    · have hle : (2 : UInt8) ≤ UInt8.ofNat n ↔ ¬ n < 2 := by
        rw [UInt8.le_iff_toNat_le, toNat_last h]
        exact Nat.not_lt.symm
      rw [encode_of_lt h, List.singleton_append, decodeGroups, if_pos (last_lt h), toNat_last h]
      by_cases h2 : n < 2 <;> simp [h2, hle]
    · rw [encode_of_ge h, List.cons_append, decodeGroups, if_neg (group_ge n), decodeGroups, if_neg (by omega)]
  | succ left ih =>
    by_cases h : n < 128
    · have hle : n < 2 * 128 ^ (left + 1) := by
        have := Nat.one_le_pow left 128 (by decide)
        rw [Nat.pow_succ]
        omega
      rw [encode_of_lt h, List.singleton_append, decodeGroups, if_pos (last_lt h), toNat_last h,
        if_pos hle]
      simp
    · have hdiv : n / 128 < 2 * 128 ^ left ↔ n < 2 * 128 ^ (left + 1) := by
        rw [Nat.pow_succ, Nat.div_lt_iff_lt_mul (by decide)]
        omega
      rw [encode_of_ge h, List.cons_append, decodeGroups, if_neg (group_ge n), ih, toNat_group,
        Nat.add_sub_cancel, value_add_group]
      simp only [hdiv]

/-- a number of 64 bits is read back, and a larger one is refused -/
theorem decode_encode (n : Nat) (rest : Bytes) :
    decode (encode n ++ rest) = if n < UInt64.size then some (n, rest) else none := by
  have hsize : 2 * 128 ^ 9 = UInt64.size := by norm_num [UInt64.size]
  rw [decode, decodeGroups_encode, hsize, Nat.zero_add, Nat.one_mul]

/-- a number that is cut off is not read -/
theorem decodeGroups_take (left weight value n : Nat) {k : Nat} (h : k < (encode n).length) :
    decodeGroups left weight value ((encode n).take k) = none := by
  induction left generalizing weight value n k with
  | zero => rw [decodeGroups]
  | succ left ih =>
    cases k with
    | zero => rfl
    | succ k =>
      by_cases h1 : n < 128
      · rw [encode_of_lt h1, List.length_singleton] at h
        omega
      · rw [encode_of_ge h1, List.length_cons, Nat.succ_lt_succ_iff] at h
        rw [encode_of_ge h1, List.take_succ_cons, decodeGroups, if_neg (group_ge n)]
        exact ih _ _ _ h

theorem decode_take (n : Nat) {k : Nat} (h : k < (encode n).length) : decode ((encode n).take k) = none :=
  decodeGroups_take 10 1 0 n h

/-- a larger number takes no fewer bytes -/
theorem length_encode_le {m n : Nat} (h : m ≤ n) : (encode m).length ≤ (encode n).length := by
  induction n using Nat.strong_induction_on generalizing m with
  | _ n ih =>
    by_cases hm : m < 128
    · rw [encode_of_lt hm]
      exact length_encode_pos n
    · have hn : ¬ n < 128 := by omega
      rw [encode_of_ge hm, encode_of_ge hn, List.length_cons, List.length_cons]
      exact Nat.succ_le_succ (ih (n / 128) (by omega) (Nat.div_le_div_right h))

/-! ## Spellings -/

/-- writes a number in `more + 1` groups, the last of which may be zero -/
def encodeIn : Nat → Nat → Bytes
  | 0, n => [UInt8.ofNat n]
  | more + 1, n => UInt8.ofNat (n % 128 + 128) :: encodeIn more (n / 128)

/-- a way to write a number: in as many groups as it needs, or more, but ten at most -/
structure Spelling (n : Nat) where
  /-- how many groups there are before the last one -/
  more : Nat
  more_lt : more < 10 := by decide
  fits : n < 128 ^ (more + 1) := by decide
  lt_size : n < UInt64.size := by decide

def Spelling.bytes {n : Nat} (s : Spelling n) : Bytes := encodeIn s.more n

theorem length_encodeIn (more n : Nat) : (encodeIn more n).length = more + 1 := by
  induction more generalizing n with
  | zero => rfl
  | succ more ih => rw [encodeIn, List.length_cons, ih]

theorem Spelling.length_pos {n : Nat} (s : Spelling n) : 0 < s.bytes.length := by
  rw [bytes, length_encodeIn]
  exact Nat.succ_pos _

theorem div_lt_pow {n more : Nat} (h : n < 128 ^ (more + 1)) : n / 128 < 128 ^ more := by
  rw [Nat.div_lt_iff_lt_mul (by decide)]
  rwa [Nat.pow_succ] at h

theorem decodeGroups_encodeIn {left more n : Nat} (weight value : Nat) (hmore : more ≤ left)
    (hfits : n < 128 ^ (more + 1)) (hn : n < 2 * 128 ^ left) (rest : Bytes) :
    decodeGroups (left + 1) weight value (encodeIn more n ++ rest) = some (value + weight * n, rest) := by
  induction more generalizing left weight value n with
  | zero =>
    have hlt : n < 128 := by simpa using hfits
    have hlast : ¬ (left = 0 ∧ 2 ≤ UInt8.ofNat n) := by
      rintro ⟨rfl, h2⟩
      rw [UInt8.le_iff_toNat_le, toNat_last hlt] at h2
      simp only [Nat.pow_zero, Nat.mul_one] at hn
      exact absurd hn (Nat.not_lt.2 h2)
    rw [encodeIn, List.singleton_append, decodeGroups, if_pos (last_lt hlt), toNat_last hlt]
    simpa using hlast
  | succ more ih =>
    obtain ⟨left, rfl⟩ : ∃ l, left = l + 1 := ⟨left - 1, by omega⟩
    have hdiv : n / 128 < 2 * 128 ^ left := by
      rw [Nat.div_lt_iff_lt_mul (by decide), Nat.mul_assoc]
      rwa [Nat.pow_succ] at hn
    rw [encodeIn, List.cons_append, decodeGroups, if_neg (group_ge n),
      ih _ _ (by omega) (div_lt_pow hfits) hdiv, toNat_group, Nat.add_sub_cancel, value_add_group]

/-- what is read is spelled in front -/
theorem encodeIn_of_decodeGroups {left weight value v : Nat} {bytes rest : Bytes}
    (h : decodeGroups left weight value bytes = some (v, rest)) :
    ∃ more n, more < left ∧ n < 128 ^ (more + 1) ∧ n < 2 * 128 ^ (left - 1) ∧ v = value + weight * n ∧
      bytes = encodeIn more n ++ rest := by
  induction left generalizing weight value bytes with
  | zero => simp [decodeGroups] at h
  | succ left ih =>
    cases bytes with
    | nil => simp [decodeGroups] at h
    | cons b bytes =>
      rw [decodeGroups] at h
      by_cases hb : b < 0x80
      · have hlt : b.toNat < 128 := UInt8.lt_iff_toNat_lt.1 hb
        rw [if_pos hb] at h
        split_ifs at h with hlast
        cases h
        refine ⟨0, b.toNat, by omega, by simpa using hlt, ?_, rfl, by simp [encodeIn]⟩
        cases left with
        | zero => simpa [UInt8.le_iff_toNat_le] using hlast
        | succ left =>
          have hpow := Nat.one_le_pow left 128 (by decide)
          rw [Nat.add_sub_cancel, Nat.pow_succ]
          omega
      · have hge : 128 ≤ b.toNat := by
          rw [UInt8.lt_iff_toNat_lt] at hb
          exact Nat.not_lt.1 hb
        have h256 := b.toNat_lt
        rw [if_neg hb] at h
        obtain ⟨more, n, hmore, hfits, hn, hv, hbytes⟩ := ih h
        refine ⟨more + 1, b.toNat - 128 + 128 * n, by omega, ?_, ?_, ?_, ?_⟩
        · rw [Nat.pow_succ]
          omega
        · obtain ⟨left, rfl⟩ : ∃ l, left = l + 1 := ⟨left - 1, by omega⟩
          rw [Nat.add_sub_cancel] at hn ⊢
          rw [Nat.pow_succ]
          omega
        · rw [hv]
          ring
        · have hmod : (b.toNat - 128 + 128 * n) % 128 + 128 = b.toNat := by omega
          have hdiv : (b.toNat - 128 + 128 * n) / 128 = n := by omega
          rw [encodeIn, hmod, hdiv, hbytes, UInt8.ofNat_toNat, List.cons_append]

/-- a number is read where it is spelled, and nowhere else -/
theorem decode_eq_some_iff {bytes rest : Bytes} {n : Nat} :
    decode bytes = some (n, rest) ↔ ∃ s : Spelling n, bytes = s.bytes ++ rest := by
  have hsize : 2 * 128 ^ 9 = UInt64.size := by norm_num [UInt64.size]
  constructor
  · intro h
    obtain ⟨more, m, hmore, hfits, hm, hn, hbytes⟩ := encodeIn_of_decodeGroups h
    rw [Nat.zero_add, Nat.one_mul] at hn
    subst hn
    exact ⟨⟨more, hmore, hfits, hm.trans_eq hsize⟩, hbytes⟩
  · rintro ⟨s, rfl⟩
    rw [decode, Spelling.bytes, decodeGroups_encodeIn 1 0 (Nat.le_of_lt_succ s.more_lt) s.fits
      (s.lt_size.trans_eq hsize.symm), Nat.zero_add, Nat.one_mul]

theorem decode_spelling {n : Nat} (s : Spelling n) (rest : Bytes) : decode (s.bytes ++ rest) = some (n, rest) :=
  decode_eq_some_iff.2 ⟨s, rfl⟩

end LoadTrial.Wire.Varint
