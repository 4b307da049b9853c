/-
The grammar of timeouts on the command line.

A numeral is a text of digits and nothing else, with at least one. An unsigned integer of limited size is read, where
no sign stands in front, from the numerals whose value is within the limit (`Number.readUnsigned_eq_ok_iff`): zeros in
front do not count, and a text is refused as soon as it passes the limit, which more digits never bring back below it
(`Number.le_valueFrom`). A timeout is such a text: the marks that are refused before it is read are no digits. So each
text is of one of four classes, by what stands in it and what it denotes.

Main result: `Argument.timeout_grammar`.
-/
import Mathlib.Tactic
import LoadTrial.CommandLine.Argument

namespace LoadTrial

namespace Number

/-! ## Numerals -/

/-- the number that digits denote behind a number that was read before them -/
def valueFrom (n : Nat) (cs : List Char) : Nat :=
  cs.foldl (fun n c => 10 * n + digitValue c) n

/-- a row of digits and nothing else -/
def IsNumeral (cs : List Char) : Prop := cs ≠ [] ∧ ∀ c ∈ cs, c.isDigit = true

theorem le_valueFrom (n : Nat) (cs : List Char) : n ≤ valueFrom n cs := by
  induction cs generalizing n with
  | nil => exact le_rfl
  | cons c cs ih =>
    calc n ≤ 10 * n + digitValue c := by omega
      _ ≤ valueFrom n (c :: cs) := ih (10 * n + digitValue c)

variable {limit n m : Nat} {cs : List Char}

/-- digits are read just if there is nothing else, and the value is within the limit -/
theorem readDigits_eq_ok_iff {fault : IntegerFault} (hn : n ≤ limit) :
    readDigits limit fault n cs = .ok m ↔ (∀ c ∈ cs, c.isDigit = true) ∧ valueFrom n cs = m ∧ m ≤ limit := by
  induction cs generalizing n with
  | nil =>
    rw [readDigits, Except.ok.injEq]
    constructor
    · rintro rfl
      exact ⟨fun _ hc => absurd hc List.not_mem_nil, rfl, hn⟩
    · exact fun h => h.2.1
  | cons c cs ih =>
    rw [List.forall_mem_cons, readDigits]
    cases hc : c.isDigit with
    | false => simp
    | true =>
      by_cases hnext : limit < 10 * n + digitValue c
      · -- the limit is passed here, so the whole value is beyond it as well
        have hvalue : 10 * n + digitValue c ≤ valueFrom n (c :: cs) := le_valueFrom _ cs
        rw [if_pos hnext]
        constructor
        · nofun
        · rintro ⟨-, rfl, hle⟩
          omega
      · simp only [Bool.not_true, Bool.false_eq_true, if_false, hnext, ih (Nat.le_of_not_lt hnext), true_and]
        rfl

/-- without a sign in front, the numerals within the limit are read -/
theorem readUnsigned_eq_ok_iff (hsign : cs.head? ≠ some '+') :
    readUnsigned limit cs = .ok m ↔ IsNumeral cs ∧ ofDigits cs = m ∧ m ≤ limit := by
  cases cs with
  | nil =>
    constructor
    · nofun
    · exact fun h => absurd rfl h.1.1
  | cons c cs =>
    have hc : c ≠ '+' := by simpa using hsign
    have hread : readUnsigned limit (c :: cs) = readDigits limit .tooLarge 0 (c :: cs) := by
      rw [readUnsigned]
      all_goals simp [hc]
    rw [hread, readDigits_eq_ok_iff (Nat.zero_le limit), IsNumeral]
    constructor
    · rintro ⟨hdigits, hvalue, hle⟩
      exact ⟨⟨List.cons_ne_nil c cs, hdigits⟩, hvalue, hle⟩
    · rintro ⟨⟨-, hdigits⟩, hvalue, hle⟩
      exact ⟨hdigits, hvalue, hle⟩

end Number

namespace Argument

open Number (IsNumeral ofDigits)

/-! ## Timeouts -/

/-- the words for a text that is no duration are not those for a value out of range -/
theorem invalidDuration_ne {reason : String} (h : reason.toList.head? = some 'D') (text : String) :
    "Invalid duration: " ++ text ≠ reason := by
  rintro rfl
  simp at h

theorem isMarked_of_isNumeral {cs : List Char} (h : IsNumeral cs) : isMarked cs = false := by
  have hdigits {c : Char} (hc : c.isDigit = false) : c ∉ cs := by
    intro hmem
    rw [h.2 c hmem] at hc
    cases hc
  rw [Bool.eq_false_iff]
  intro hmarked
  simp only [isMarked, Bool.or_eq_true, beq_iff_eq, List.isPrefixOf_iff_prefix] at hmarked
  rcases hmarked with (hsign | hlower) | hupper
  · exact hdigits (by decide) (List.mem_of_head? hsign)
  · exact hdigits (by decide : 'x'.isDigit = false) (hlower.subset (by decide))
  · exact hdigits (by decide : 'X'.isDigit = false) (hupper.subset (by decide))

theorem head?_ne_of_not_isMarked {cs : List Char} (h : isMarked cs = false) : cs.head? ≠ some '+' := by
  intro hsign
  rw [isMarked, hsign] at h
  cases h

variable {text : String}

/-- a numeral of 64 bits is judged by its value -/
theorem readTimeout_of_numeral (h : IsNumeral text.toList) (hsize : ofDigits text.toList < UInt64.size) :
    readTimeout text =
      if ofDigits text.toList = 0 then .error (.invalid "Duration must be greater than 0")
      else if 300 < ofDigits text.toList then .error (.invalid "Duration cannot exceed 300 seconds")
      else .ok (UInt64.ofNat (ofDigits text.toList)) := by
  have hmarked : isMarked text.toList = false := isMarked_of_isNumeral h
  have hread : Number.readUnsigned (UInt64.size - 1) text.toList = .ok (ofDigits text.toList) :=
    (Number.readUnsigned_eq_ok_iff (head?_ne_of_not_isMarked hmarked)).2 ⟨h, rfl, Nat.le_sub_one_of_lt hsize⟩
  unfold readTimeout
  simp only [hmarked, Bool.false_eq_true, if_false, hread]
  cases ofDigits text.toList with
  | zero => rfl
  | succ n => simp

/-- every other text is no timeout -/
theorem readTimeout_of_not_numeral (h : ¬(IsNumeral text.toList ∧ ofDigits text.toList < UInt64.size)) :
    readTimeout text = .error (.invalid ("Invalid duration: " ++ text)) := by
  unfold readTimeout
  dsimp only
  split_ifs with hmarked
  · rfl
  · have hsign : text.toList.head? ≠ some '+' := head?_ne_of_not_isMarked (Bool.eq_false_iff.2 hmarked)
    cases hread : Number.readUnsigned (UInt64.size - 1) text.toList with
    | error why => rfl
    | ok n =>
      obtain ⟨hnumeral, hvalue, hle⟩ := (Number.readUnsigned_eq_ok_iff hsign).1 hread
      refine absurd ⟨hnumeral, ?_⟩ h
      rw [hvalue]
      exact Nat.lt_of_le_pred (by decide) hle

/-- what is read has from 1 to 300 seconds, and is written in digits alone -/
theorem readTimeout_eq_ok_iff {secs : UInt64} :
    readTimeout text = .ok secs ↔
      IsNumeral text.toList ∧ ofDigits text.toList = secs.toNat ∧ 1 ≤ secs.toNat ∧ secs.toNat ≤ 300 := by
  by_cases h : IsNumeral text.toList ∧ ofDigits text.toList < UInt64.size
  · obtain ⟨hnumeral, hsize⟩ := h
    have hnat : (UInt64.ofNat (ofDigits text.toList)).toNat = ofDigits text.toList := UInt64.toNat_ofNat_of_lt' hsize
    rw [readTimeout_of_numeral hnumeral hsize]
    split_ifs with h0 h300
    · exact iff_of_false nofun (by omega)
    · exact iff_of_false nofun (by omega)
    · rw [Except.ok.injEq, ← UInt64.toNat_inj, hnat]
      constructor
      · exact fun heq => ⟨hnumeral, heq, by omega, by omega⟩
      · exact fun hn => hn.2.1
  · rw [readTimeout_of_not_numeral h]
    apply iff_of_false nofun
    rintro ⟨hnumeral, hvalue, -, -⟩
    exact h ⟨hnumeral, hvalue ▸ secs.toNat_lt_size⟩

/-- **Timeouts.** A text is a timeout just if it is a numeral of a value from 1 to 300. Numerals of another value of 64
bits are refused for their value; every other text, a numeral beyond 64 bits too, is refused as no duration. -/
theorem timeout_grammar (text : String) :
    (∀ secs, readTimeout text = .ok secs ↔
      IsNumeral text.toList ∧ ofDigits text.toList = secs.toNat ∧ 1 ≤ secs.toNat ∧ secs.toNat ≤ 300) ∧
    (readTimeout text = .error (.invalid "Duration must be greater than 0") ↔
      IsNumeral text.toList ∧ ofDigits text.toList = 0) ∧
    (readTimeout text = .error (.invalid "Duration cannot exceed 300 seconds") ↔
      IsNumeral text.toList ∧ 301 ≤ ofDigits text.toList ∧ ofDigits text.toList < UInt64.size) ∧
    (readTimeout text = .error (.invalid ("Invalid duration: " ++ text)) ↔
      ¬IsNumeral text.toList ∨ UInt64.size ≤ ofDigits text.toList) := by
  have hzero : "Invalid duration: " ++ text ≠ "Duration must be greater than 0" := invalidDuration_ne rfl text
  have hlarge : "Invalid duration: " ++ text ≠ "Duration cannot exceed 300 seconds" := invalidDuration_ne rfl text
  refine ⟨fun secs => readTimeout_eq_ok_iff, ?_⟩
  by_cases h : IsNumeral text.toList ∧ ofDigits text.toList < UInt64.size
  · obtain ⟨hnumeral, hsize⟩ := h
    have hvalid : ¬(¬IsNumeral text.toList ∨ UInt64.size ≤ ofDigits text.toList) := by
      rw [not_or, not_not, Nat.not_le]
      exact ⟨hnumeral, hsize⟩
    rw [readTimeout_of_numeral hnumeral hsize]
    -- one class of values at a time: of the three faults, that of the class arises and the others do not
    split_ifs with h0 h300
    · refine ⟨iff_of_true rfl ⟨hnumeral, h0⟩, iff_of_false ?_ ?_, iff_of_false ?_ hvalid⟩
      · simp
      · omega
      · simpa using hzero.symm
    · refine ⟨iff_of_false ?_ ?_, iff_of_true rfl ⟨hnumeral, h300, hsize⟩, iff_of_false ?_ hvalid⟩
      · simp
      · omega
      · simpa using hlarge.symm
    · exact ⟨iff_of_false nofun (by omega), iff_of_false nofun (by omega), iff_of_false nofun hvalid⟩
  · have hinvalid : ¬IsNumeral text.toList ∨ UInt64.size ≤ ofDigits text.toList := by
      rw [not_and_or, Nat.not_lt] at h
      exact h
    rw [readTimeout_of_not_numeral h]
    refine ⟨iff_of_false ?_ ?_, iff_of_false ?_ ?_, iff_of_true rfl hinvalid⟩
    · simpa using hzero
    · rintro ⟨hnumeral, hvalue⟩
      exact h ⟨hnumeral, hvalue.trans_lt (by decide)⟩
    · simpa using hlarge
    · rintro ⟨hnumeral, -, hlt⟩
      exact h ⟨hnumeral, hlt⟩

/-- zeros in front do not count, however many there are -/
example : readTimeout "00000000000000000000000000007" = .ok 7 := by decide

end Argument

end LoadTrial
