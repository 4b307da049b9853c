/-
Searching leniently read bytes for ASCII.

A byte of ASCII never belongs to a longer character, so lenient reading gives it as it is, whatever is unfinished in
front of it (`lenientStep_of_ascii`). A byte beyond ASCII gives characters beyond ASCII only, and if it gives none, it
leaves a character unfinished (`lenientStep_of_beyond`): nothing of a row of other bytes disappears, so bytes that are
apart stay apart. The invariant of the reader is that an unfinished character can only become a character beyond ASCII
(`Unfinished.Sound`); an overlong form, half of a surrogate pair and a number beyond Unicode are all ruled out by the
range of the second byte.

Main result: `infix_lenient_iff`.
-/
import Mathlib.Tactic
import LoadTrial.Proofs.Utf8

namespace LoadTrial.Text

/-! ## Patterns of ASCII -/

/-- a text in ASCII -/
def IsAscii (cs : List Char) : Prop := ∀ c ∈ cs, c.toNat < 0x80

instance (cs : List Char) : Decidable (IsAscii cs) := List.decidableBAll _ cs

/-- the byte of a character of ASCII -/
def asciiByte (c : Char) : UInt8 := UInt8.ofNat c.toNat

theorem toNat_asciiByte {c : Char} (h : c.toNat < 0x80) : (asciiByte c).toNat = c.toNat := by
  rw [asciiByte, UInt8.toNat_ofNat']
  omega

/-- a text in ASCII has a byte for each character -/
theorem utf8_of_isAscii {s : String} (h : IsAscii s.toList) : utf8 s = s.toList.map asciiByte := by
  rw [utf8_eq_flatMap, List.map_eq_flatMap]
  exact List.flatMap_congr fun c hc => utf8EncodeChar_of_lt (h c hc)

theorem occursIn_iff {α : Type} [BEq α] [LawfulBEq α] {pattern l : List α} :
    occursIn pattern l = true ↔ pattern <:+: l := by
  induction l with
  | nil => rw [occursIn, List.isEmpty_iff, List.infix_nil]
  | cons x xs ih => rw [occursIn, Bool.or_eq_true, List.isPrefixOf_iff_prefix, ih, List.infix_cons_iff]

/-! ## Unfinished characters -/

theorem toNat_ofNat {n : Nat} (h : n.isValidChar) : (Char.ofNat n).toNat = n := by
  rw [Char.ofNat, dif_pos h]
  rfl

/-- the numbers of the characters to which an unfinished one may be finished: the next byte is in its range, and each
byte behind that adds six bits -/
def Unfinished.Reaches (u : Unfinished) (n : Nat) : Prop :=
  ∃ b rest : Nat, u.low.toNat ≤ b ∧ b ≤ u.high.toNat ∧ rest < 64 ^ (u.left - 1) ∧
    n = 64 ^ (u.left - 1) * (64 * u.bits + (b - 0x80)) + rest

/-- an unfinished character is finished by bytes beyond ASCII only, to a character beyond ASCII -/
structure Unfinished.Sound (u : Unfinished) : Prop where
  low_ge : 0x80 ≤ u.low.toNat
  high_le : u.high.toNat ≤ 0xBF
  beyond : ∀ n, u.Reaches n → 0x80 ≤ n ∧ n.isValidChar

/-- the first and the last character that can come of an unfinished one lie on one side of the surrogates -/
theorem Unfinished.Sound.ofBounds {left bits : Nat} {low high : UInt8} (hlow : 0x80 ≤ low.toNat)
    (hhigh : high.toNat ≤ 0xBF) (hfirst : 0x80 ≤ 64 ^ (left - 1) * (64 * bits + (low.toNat - 0x80)))
    (hside : 64 ^ (left - 1) * (64 * bits + (high.toNat - 0x80) + 1) ≤ 0xD800 ∨
      0xE000 ≤ 64 ^ (left - 1) * (64 * bits + (low.toNat - 0x80)) ∧
        64 ^ (left - 1) * (64 * bits + (high.toNat - 0x80) + 1) ≤ 0x110000) :
    Unfinished.Sound ⟨left, low, high, bits⟩ := by
  refine ⟨hlow, hhigh, ?_⟩
  rintro n ⟨b, rest, hb, hb', hrest, rfl⟩
  dsimp only at hb hb' hrest ⊢
  have hfrom : 64 ^ (left - 1) * (64 * bits + (low.toNat - 0x80)) ≤ 64 ^ (left - 1) * (64 * bits + (b - 0x80)) :=
    Nat.mul_le_mul_left _ (by omega)
  have hto : 64 ^ (left - 1) * (64 * bits + (b - 0x80)) + 64 ^ (left - 1) ≤
      64 ^ (left - 1) * (64 * bits + (high.toNat - 0x80) + 1) := by
    rw [← Nat.mul_succ]
    exact Nat.mul_le_mul_left _ (by omega)
  rw [Nat.isValidChar]
  omega

/-- a first byte of two; shorter forms do not begin so -/
theorem Unfinished.Sound.two {n : Nat} (hfrom : ¬ n < 0xC2) (hto : n < 0xE0) :
    Unfinished.Sound ⟨1, 0x80, 0xBF, n - 0xC0⟩ :=
  .ofBounds (by decide) (by decide) (by simp; omega) (by simp; omega)

/-- a first byte of three; the second one keeps out shorter forms and surrogates -/
theorem Unfinished.Sound.three {n : Nat} (hfrom : ¬ n < 0xE0) (hto : n < 0xF0) :
    Unfinished.Sound ⟨2, if n == 0xE0 then 0xA0 else 0x80, if n == 0xED then 0x9F else 0xBF, n - 0xE0⟩ := by
  simp only [beq_iff_eq]
  split_ifs <;> exact .ofBounds (by decide) (by decide) (by simp; omega) (by simp; omega)

/-- a first byte of four; the second one keeps out shorter forms and what is no character -/
theorem Unfinished.Sound.four {n : Nat} (hfrom : ¬ n < 0xF0) (hto : n < 0xF5) :
    Unfinished.Sound ⟨3, if n == 0xF0 then 0x90 else 0x80, if n == 0xF4 then 0x8F else 0xBF, n - 0xF0⟩ := by
  simp only [beq_iff_eq]
  split_ifs <;> exact .ofBounds (by decide) (by decide) (by simp; omega) (by simp; omega)

/-- a byte in the range of an unfinished character that lacks no other one finishes it -/
theorem Unfinished.Sound.finished {u : Unfinished} (h : u.Sound) {b : UInt8} (hlow : u.low ≤ b) (hhigh : b ≤ u.high)
    (hleft : u.left ≤ 1) : 0x80 ≤ (Char.ofNat (64 * u.bits + (b.toNat - 0x80))).toNat := by
  have hnone : u.left - 1 = 0 := by omega
  have hreach : u.Reaches (64 * u.bits + (b.toNat - 0x80)) := by
    refine ⟨b.toNat, 0, UInt8.le_iff_toNat_le.1 hlow, UInt8.le_iff_toNat_le.1 hhigh, ?_, ?_⟩
    · rw [hnone]
      decide
    · rw [hnone, Nat.pow_zero, Nat.one_mul, Nat.add_zero]
  obtain ⟨hbeyond, hvalid⟩ := h.beyond _ hreach
  rwa [toNat_ofNat hvalid]

/-- a byte in the range of an unfinished character that lacks more leaves one that is finished to the same characters -/
theorem Unfinished.Sound.continued {u : Unfinished} (h : u.Sound) {b : UInt8} (hlow : u.low ≤ b) (hhigh : b ≤ u.high)
    (hleft : ¬ u.left ≤ 1) : Unfinished.Sound ⟨u.left - 1, 0x80, 0xBF, 64 * u.bits + (b.toNat - 0x80)⟩ := by
  refine ⟨le_rfl, le_rfl, ?_⟩
  rintro n ⟨c, rest, hc, hc', hrest, rfl⟩
  obtain ⟨left, hu⟩ : ∃ left, u.left = left + 2 := ⟨u.left - 2, by omega⟩
  have hmore : u.left - 1 - 1 = left := by omega
  have hall : u.left - 1 = left + 1 := by omega
  dsimp only at hc' hrest ⊢
  rw [hmore] at hrest ⊢
  apply h.beyond
  refine ⟨b.toNat, 64 ^ left * (c - 0x80) + rest, UInt8.le_iff_toNat_le.1 hlow, UInt8.le_iff_toNat_le.1 hhigh, ?_, ?_⟩
  · have hc'' : c ≤ 0xBF := hc'
    calc 64 ^ left * (c - 0x80) + rest < 64 ^ left * (c - 0x80) + 64 ^ left := by omega
      _ = 64 ^ left * (c - 0x80 + 1) := (Nat.mul_succ _ _).symm
      _ ≤ 64 ^ left * 64 := Nat.mul_le_mul_left _ (by omega)
      _ = 64 ^ (u.left - 1) := by rw [hall, Nat.pow_succ]
  · rw [hall, Nat.pow_succ]
    ring

/-- what is unfinished is sound, if there is anything -/
def SoundState (st : Option Unfinished) : Prop := ∀ u ∈ st, u.Sound

theorem soundState_none : SoundState none := nofun

theorem soundState_some {u : Unfinished} (h : u.Sound) : SoundState (some u) := by
  rintro _ ⟨⟩
  exact h

/-- what a byte beyond ASCII does: it gives characters beyond ASCII only, and if none, one is unfinished behind it -/
structure StaysBeyond (out : List Char × Option Unfinished) : Prop where
  chars : ∀ c ∈ out.1, 0x80 ≤ c.toNat
  sound : SoundState out.2
  unfinished : out.1 = [] → out.2 ≠ none

theorem replacement_beyond : ∀ c ∈ [replacement], 0x80 ≤ c.toNat :=
  List.forall_mem_singleton.2 (by decide)

theorem StaysBeyond.replaced : StaysBeyond ([replacement], none) where
  chars := replacement_beyond
  sound := soundState_none
  unfinished := nofun

theorem StaysBeyond.begun {u : Unfinished} (h : u.Sound) : StaysBeyond ([], some u) where
  chars := nofun
  sound := soundState_some h
  unfinished := nofun

variable {b : UInt8} {st : Option Unfinished}

theorem firstByte_of_ascii (hb : b.toNat < 0x80) : firstByte b = ([Char.ofNat b.toNat], none) := by
  unfold firstByte
  exact if_pos hb

theorem firstByte_of_beyond (hb : 0x80 ≤ b.toNat) : StaysBeyond (firstByte b) := by
  unfold firstByte
  dsimp only
  rw [if_neg (Nat.not_lt.2 hb)]
  by_cases h2 : b.toNat < 0xC2
  · rw [if_pos h2]
    exact .replaced
  rw [if_neg h2]
  by_cases h3 : b.toNat < 0xE0
  · rw [if_pos h3]
    exact .begun (.two h2 h3)
  rw [if_neg h3]
  by_cases h4 : b.toNat < 0xF0
  · rw [if_pos h4]
    exact .begun (.three h3 h4)
  rw [if_neg h4]
  by_cases h5 : b.toNat < 0xF5
  · rw [if_pos h5]
    exact .begun (.four h4 h5)
  rw [if_neg h5]
  exact .replaced

/-- lenient reading goes on with sound states, and gives characters beyond ASCII for bytes beyond ASCII -/
theorem lenientStep_of_beyond (hst : SoundState st) (hb : 0x80 ≤ b.toNat) : StaysBeyond (lenientStep st b) := by
  cases st with
  | none => exact firstByte_of_beyond hb
  | some u =>
    have hu : u.Sound := hst u rfl
    unfold lenientStep
    dsimp only
    split_ifs with hrange hleft
    · simp only [Bool.and_eq_true, decide_eq_true_eq] at hrange
      exact {
        chars := by simpa using hu.finished hrange.1 hrange.2 hleft
        sound := soundState_none
        unfinished := nofun }
    · simp only [Bool.and_eq_true, decide_eq_true_eq] at hrange
      exact .begun (hu.continued hrange.1 hrange.2 hleft)
    · have hnext := firstByte_of_beyond hb
      exact {
        chars := List.forall_mem_cons.2 ⟨by decide, hnext.chars⟩
        sound := hnext.sound
        unfinished := nofun }

/-- a byte of ASCII gives its character, behind a replacement for what is unfinished -/
theorem lenientStep_of_ascii {u : Unfinished} (hu : u.Sound) (hb : b.toNat < 0x80) :
    lenientStep (some u) b = ([replacement, Char.ofNat b.toNat], none) := by
  have hlow := hu.low_ge
  have hrange : ¬ u.low ≤ b := by
    rw [UInt8.le_iff_toNat_le]
    omega
  simp [lenientStep, hrange, firstByte_of_ascii hb]

theorem lenientFrom_cons (st : Option Unfinished) (b : UInt8) (bytes : Bytes) :
    lenientFrom st (b :: bytes) = (lenientStep st b).1 ++ lenientFrom (lenientStep st b).2 bytes := by
  cases st <;> rfl

/-! ## Searching -/

section

variable {pattern : List Char} (hascii : IsAscii pattern) (hne : pattern ≠ [])

include hascii hne

/-- a pattern of ASCII does not begin where another character does -/
theorem not_prefix_cons {c : Char} (hc : 0x80 ≤ c.toNat) (cs : List Char) : ¬ pattern <+: c :: cs := by
  rcases pattern with _ | ⟨p, ps⟩
  · exact absurd rfl hne
  · rw [List.cons_prefix_cons]
    rintro ⟨rfl, -⟩
    have hlt := hascii p List.mem_cons_self
    omega

/-- characters beyond ASCII have no part in a pattern that stands behind them -/
theorem infix_beyond_append {front : List Char} (hfront : ∀ c ∈ front, 0x80 ≤ c.toNat) (cs : List Char) :
    pattern <:+: front ++ cs ↔ pattern <:+: cs := by
  induction front with
  | nil => rfl
  | cons c front ih =>
    obtain ⟨hc, hfront⟩ := List.forall_mem_cons.1 hfront
    rw [List.cons_append, List.infix_cons_iff, or_iff_right (not_prefix_cons hascii hne hc _), ih hfront]

/-- no byte beyond ASCII begins a pattern of ASCII -/
theorem not_bytes_prefix_cons {b : UInt8} (hb : 0x80 ≤ b.toNat) (bytes : Bytes) :
    ¬ pattern.map asciiByte <+: b :: bytes := by
  rcases pattern with _ | ⟨p, ps⟩
  · exact absurd rfl hne
  · rw [List.map_cons, List.cons_prefix_cons]
    rintro ⟨rfl, -⟩
    have hlt := hascii p List.mem_cons_self
    rw [toNat_asciiByte hlt] at hb
    omega

/-- what a byte beyond ASCII gives, or what comes of the character it leaves unfinished, begins no pattern -/
theorem not_prefix_step {out : List Char × Option Unfinished} (h : StaysBeyond out) {bytes : Bytes}
    (hbytes : ∀ u ∈ out.2, ¬ pattern <+: lenientFrom (some u) bytes) :
    ¬ pattern <+: out.1 ++ lenientFrom out.2 bytes := by
  rcases out with ⟨_ | ⟨c, front⟩, next⟩
  · obtain ⟨u, rfl⟩ := Option.ne_none_iff_exists'.1 (h.unfinished rfl)
    exact hbytes u rfl
  · exact not_prefix_cons hascii hne (h.chars c List.mem_cons_self) _

/-- behind an unfinished character, something beyond ASCII comes first -/
theorem not_prefix_unfinished {u : Unfinished} (hu : u.Sound) (bytes : Bytes) :
    ¬ pattern <+: lenientFrom (some u) bytes := by
  induction bytes generalizing u with
  | nil => exact not_prefix_cons hascii hne (by decide) []
  | cons b bytes ih =>
    rw [lenientFrom_cons]
    by_cases hb : b.toNat < 0x80
    · rw [lenientStep_of_ascii hu hb]
      exact not_prefix_cons hascii hne (by decide) _
    · have hstep := lenientStep_of_beyond (soundState_some hu) (Nat.le_of_not_lt hb)
      exact not_prefix_step hascii hne hstep fun v hv => ih (hstep.sound v hv)

end

theorem lenient_cons_of_ascii {b : UInt8} (hb : b.toNat < 0x80) (bytes : Bytes) :
    lenient (b :: bytes) = Char.ofNat b.toNat :: lenient bytes := by
  have hstep : lenientStep none b = ([Char.ofNat b.toNat], none) := firstByte_of_ascii hb
  rw [lenient, lenientFrom_cons, hstep]
  rfl

theorem asciiByte_eq_iff {c : Char} {b : UInt8} (hb : b.toNat < 0x80) (hc : c.toNat < 0x80) :
    asciiByte c = b ↔ c = Char.ofNat b.toNat := by
  rw [← UInt8.toNat_inj, toNat_asciiByte hc, ← Char.toNat_inj, toNat_ofNat (.inl (by omega))]

/-- between characters, a pattern is in front just if its bytes are -/
theorem prefix_lenient_iff {pattern : List Char} (hascii : IsAscii pattern) (bytes : Bytes) :
    pattern <+: lenient bytes ↔ pattern.map asciiByte <+: bytes := by
  induction bytes generalizing pattern with
  | nil => simp [lenient, lenientFrom]
  | cons b bytes ih =>
    by_cases hne : pattern = []
    · subst hne
      exact iff_of_true List.nil_prefix List.nil_prefix
    by_cases hb : b.toNat < 0x80
    · obtain ⟨p, ps, rfl⟩ := List.exists_cons_of_ne_nil hne
      obtain ⟨hp, hps⟩ := List.forall_mem_cons.1 hascii
      rw [lenient_cons_of_ascii hb, List.cons_prefix_cons, List.map_cons, List.cons_prefix_cons,
        asciiByte_eq_iff hb hp, ih hps]
    · have hbeyond : 0x80 ≤ b.toNat := Nat.le_of_not_lt hb
      have hstep := lenientStep_of_beyond soundState_none hbeyond
      have hnot : ¬ pattern <+: lenient (b :: bytes) := by
        rw [lenient, lenientFrom_cons]
        exact not_prefix_step hascii hne hstep fun u hu => not_prefix_unfinished hascii hne (hstep.sound u hu) bytes
      exact iff_of_false hnot (not_bytes_prefix_cons hascii hne hbeyond bytes)

/-- a pattern of ASCII stands among leniently read characters just if its bytes stand among those that are read,
whatever is unfinished in front of them -/
theorem infix_lenientFrom_iff {pattern : List Char} (hascii : IsAscii pattern) (hne : pattern ≠ [])
    {st : Option Unfinished} (hst : SoundState st) (bytes : Bytes) :
    pattern <:+: lenientFrom st bytes ↔ pattern.map asciiByte <:+: bytes := by
  have hreplaced (cs : List Char) : pattern <:+: [replacement] ++ cs ↔ pattern <:+: cs :=
    infix_beyond_append hascii hne replacement_beyond cs
  induction bytes generalizing st with
  | nil =>
    have hnothing : lenientFrom st [] = [] ∨ lenientFrom st [] = [replacement] := by
      cases st
      · exact .inl rfl
      · exact .inr rfl
    have hnone : pattern <:+: lenientFrom st [] ↔ pattern = [] := by
      rcases hnothing with h | h
      · rw [h, List.infix_nil]
      · rw [h, ← List.append_nil [replacement], hreplaced, List.infix_nil]
    rw [hnone, List.infix_nil, List.map_eq_nil_iff]
  | cons b bytes ih =>
    by_cases hb : b.toNat < 0x80
    · have hfront : pattern <:+: lenientFrom st (b :: bytes) ↔ pattern <:+: lenient (b :: bytes) := by
        cases st with
        | none => rfl
        | some u =>
          rw [lenientFrom_cons, lenientStep_of_ascii (hst u rfl) hb, lenient_cons_of_ascii hb]
          exact hreplaced _
      have hrest : pattern <:+: lenient bytes ↔ pattern.map asciiByte <:+: bytes := ih soundState_none
      calc pattern <:+: lenientFrom st (b :: bytes)
        _ ↔ pattern <:+: lenient (b :: bytes) := hfront
        _ ↔ pattern <+: lenient (b :: bytes) ∨ pattern <:+: lenient bytes := by
          rw [lenient_cons_of_ascii hb, List.infix_cons_iff]
        _ ↔ pattern.map asciiByte <+: b :: bytes ∨ pattern.map asciiByte <:+: bytes := by
          rw [prefix_lenient_iff hascii, hrest]
        _ ↔ pattern.map asciiByte <:+: b :: bytes := List.infix_cons_iff.symm
    · have hbeyond : 0x80 ≤ b.toNat := Nat.le_of_not_lt hb
      have hstep := lenientStep_of_beyond hst hbeyond
      have hrest : pattern <:+: lenientFrom (lenientStep st b).2 bytes ↔ pattern.map asciiByte <:+: bytes :=
        ih hstep.sound
      rw [lenientFrom_cons, infix_beyond_append hascii hne hstep.chars, hrest, List.infix_cons_iff,
        or_iff_right (not_bytes_prefix_cons hascii hne hbeyond bytes)]

/-- searching leniently read bytes for ASCII is searching the bytes -/
theorem infix_lenient_iff {pattern : List Char} (hascii : IsAscii pattern) (bytes : Bytes) :
    pattern <:+: lenient bytes ↔ pattern.map asciiByte <:+: bytes := by
  by_cases hne : pattern = []
  · subst hne
    exact iff_of_true List.nil_infix List.nil_infix
  · exact infix_lenientFrom_iff hascii hne soundState_none bytes

end LoadTrial.Text
