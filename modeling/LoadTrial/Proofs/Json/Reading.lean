/-
The reader of JSON over stretches of text.

`Reads st text st'`: the reader goes over `text` from one state to another, whatever text stands behind. Strings are
read so, with their escapes (`reads_string`), and so are blanks and words. A number is not: the reader knows its end by
the character behind it only. `ReadsClosed` is the relation for texts that may end in a number, in front of anything
that does not go on with it; whole numbers of 64 bits are read by it (`readsValue_integer`).
-/
import Mathlib.Tactic
import LoadTrial.Json.Printer
import LoadTrial.Json.Reader

namespace LoadTrial.Json

/-! ## Stretches -/

/-- the reader goes over a text from one state to another, whatever stands behind it -/
def Reads (st : State) (text : List Char) (st' : State) : Prop :=
  ∀ position rest, ∃ position', readFrom st position (text ++ rest) = readFrom st' position' rest

/-- a character that goes on with a whole number -/
def extendsNumber (c : Char) : Bool :=
  c.isDigit || c == '.' || c == 'e' || c == 'E'

/-- a text that does not go on with a number in front of it -/
def EndsNumber (rest : List Char) : Prop :=
  ∀ c ∈ rest.head?, extendsNumber c = false

/-- the reader goes over a text from one state to another, if what stands behind it does not go on with a number -/
def ReadsClosed (st : State) (text : List Char) (st' : State) : Prop :=
  ∀ position rest, EndsNumber rest →
    ∃ position', readFrom st position (text ++ rest) = readFrom st' position' rest

theorem endsNumber_nil : EndsNumber [] := by
  rintro c ⟨⟩

theorem endsNumber_cons {c : Char} (h : extendsNumber c = false) (rest : List Char) : EndsNumber (c :: rest) := by
  rintro _ ⟨⟩
  exact h

section Stretches

variable {st st1 st2 : State} {text text' : List Char}

theorem Reads.nil (st : State) : Reads st [] st :=
  fun position _ => ⟨position, rfl⟩

theorem Reads.cons {c : Char} (hstep : step st c = .ok st1) (h : Reads st1 text st2) : Reads st (c :: text) st2 := by
  intro position rest
  obtain ⟨position', h'⟩ := h (position.after c) rest
  refine ⟨position', ?_⟩
  rw [List.cons_append, readFrom, hstep]
  exact h'

theorem Reads.single {c : Char} (hstep : step st c = .ok st1) : Reads st [c] st1 :=
  .cons hstep (.nil st1)

theorem Reads.append (h : Reads st text st1) (h' : Reads st1 text' st2) : Reads st (text ++ text') st2 := by
  intro position rest
  obtain ⟨position1, h1⟩ := h position (text' ++ rest)
  obtain ⟨position2, h2⟩ := h' position1 rest
  refine ⟨position2, ?_⟩
  rw [List.append_assoc, h1, h2]

theorem Reads.closed (h : Reads st text st1) : ReadsClosed st text st1 :=
  fun position rest _ => h position rest

theorem Reads.andThen (h : Reads st text st1) (h' : ReadsClosed st1 text' st2) :
    ReadsClosed st (text ++ text') st2 := by
  intro position rest hrest
  obtain ⟨position1, h1⟩ := h position (text' ++ rest)
  obtain ⟨position2, h2⟩ := h' position1 rest hrest
  refine ⟨position2, ?_⟩
  rw [List.append_assoc, h1, h2]

theorem ReadsClosed.append (h : ReadsClosed st text st1) (h' : ReadsClosed st1 text' st2)
    (hends : ∀ rest, EndsNumber rest → EndsNumber (text' ++ rest)) : ReadsClosed st (text ++ text') st2 := by
  intro position rest hrest
  obtain ⟨position1, h1⟩ := h position (text' ++ rest) (hends rest hrest)
  obtain ⟨position2, h2⟩ := h' position1 rest hrest
  refine ⟨position2, ?_⟩
  rw [List.append_assoc, h1, h2]

end Stretches

/-! ## Values -/

/-- a value may begin -/
def Awaited.TakesValue : Awaited → Prop
  | .value | .firstItem | .nextItem => True
  | _ => False

/-- a text is read as a value, inside whatever is open -/
def ReadsValue (frames : List Frame) (text : List Char) (value : Json) : Prop :=
  ∀ awaited : Awaited, awaited.TakesValue →
    ReadsClosed ⟨frames, .between awaited⟩ text (.between (accept frames value))

theorem step_between {frames : List Frame} {awaited : Awaited} (h : awaited.TakesValue) {c : Char}
    (hspace : isSpace c = false) (hclose : c ≠ ']') :
    step ⟨frames, .between awaited⟩ c = openValue frames c := by
  have hclose' : (c == ']') = false := beq_false_of_ne hclose
  cases awaited with
  | value => simp only [step, stepBetween, hspace, Bool.false_eq_true, if_false]
  | firstItem => simp only [step, stepBetween, hspace, hclose', Bool.false_eq_true, if_false]
  | nextItem => simp only [step, stepBetween, hspace, hclose', Bool.false_eq_true, if_false]
  | _ => exact h.elim

theorem reads_space {frames : List Frame} {awaited : Awaited} {c : Char} (h : isSpace c = true) :
    Reads ⟨frames, .between awaited⟩ [c] ⟨frames, .between awaited⟩ :=
  .single (by simp only [step, stepBetween, h, if_true])

theorem reads_newline (frames : List Frame) (awaited : Awaited) (level : Nat) :
    Reads ⟨frames, .between awaited⟩ (newline level) ⟨frames, .between awaited⟩ := by
  have hblanks (n : Nat) :
      Reads ⟨frames, .between awaited⟩ (List.replicate n ' ') ⟨frames, .between awaited⟩ := by
    induction n with
    | zero => exact .nil _
    | succ n ih => exact (reads_space rfl).append ih
  exact (reads_space (c := '\n') rfl).append (hblanks _)

theorem readsValue_null (frames : List Frame) : ReadsValue frames "null".toList .null := by
  intro awaited h
  refine Reads.closed (.cons (step_between h rfl (by decide)) ?_)
  exact .cons rfl (.cons rfl (.single rfl))

theorem readsValue_bool (frames : List Frame) (b : Bool) (level : Nat) :
    ReadsValue frames (prettyAt level (.bool b)) (.bool b) := by
  intro awaited h
  cases b with
  | true =>
    rw [prettyAt]
    refine Reads.closed (.cons (step_between h rfl (by decide)) ?_)
    exact .cons rfl (.cons rfl (.single rfl))
  | false =>
    rw [prettyAt]
    refine Reads.closed (.cons (step_between h rfl (by decide)) ?_)
    exact .cons rfl (.cons rfl (.cons rfl (.single rfl)))

/-! ## Strings -/

section Strings

variable {frames : List Frame} {key : Option (List (String × Json))}

theorem hexValue_hexDigit : ∀ d < 16, hexValue (hexDigit d) = some d := by
  decide

theorem utf8Size_hexDigit : ∀ d < 16, (hexDigit d).utf8Size = 1 := by
  decide

/-- one digit of an escape; four are needed in all -/
theorem reads_hexDigit {content : List Char} {left value d : Nat} (hd : d < 16) (hleft : 1 < left) :
    Reads ⟨frames, .escape key content (.hex left value true none)⟩ [hexDigit d]
      ⟨frames, .escape key content (.hex (left - 1) (16 * value + d) true none)⟩ := by
  refine .single ?_
  simp only [step, stepEscape, hexValue_hexDigit d hd, utf8Size_hexDigit d hd, if_pos hleft]

theorem reads_lastHexDigit {content : List Char} {value d : Nat} (hd : d < 16) (hvalue : 16 * value + d < 0xD800) :
    Reads ⟨frames, .escape key content (.hex 1 value true none)⟩ [hexDigit d]
      ⟨frames, .text key (Char.ofNat (16 * value + d) :: content)⟩ := by
  have hlow : ¬ 0xDC00 ≤ 16 * value + d := by omega
  have hhigh : ¬ 0xD800 ≤ 16 * value + d := by omega
  refine .single ?_
  simp only [step, stepEscape, hexValue_hexDigit d hd, utf8Size_hexDigit d hd, unicodeEscape]
  simp [hlow, hhigh]

theorem reads_control {content : List Char} {c : Char} (hc : c.toNat < 0x20) :
    Reads ⟨frames, .text key content⟩ ['\\', 'u', '0', '0', hexDigit (c.toNat / 16), hexDigit (c.toNat % 16)]
      ⟨frames, .text key (c :: content)⟩ := by
  have hvalue : 16 * (16 * (16 * (16 * 0 + 0) + 0) + c.toNat / 16) + c.toNat % 16 = c.toNat := by omega
  have hlast : Reads
      ⟨frames, .escape key content (.hex 1 (16 * (16 * (16 * 0 + 0) + 0) + c.toNat / 16) true none)⟩
      [hexDigit (c.toNat % 16)]
      ⟨frames, .text key
        (Char.ofNat (16 * (16 * (16 * (16 * 0 + 0) + 0) + c.toNat / 16) + c.toNat % 16) :: content)⟩ :=
    reads_lastHexDigit (by omega) (by omega)
  rw [hvalue, Char.ofNat_toNat] at hlast
  have hopen : Reads ⟨frames, .text key content⟩ ['\\', 'u']
      ⟨frames, .escape key content (.hex 4 0 true none)⟩ := .cons rfl (.single rfl)
  have hzeros : Reads ⟨frames, .escape key content (.hex 4 0 true none)⟩ ['0', '0']
      ⟨frames, .escape key content (.hex 2 (16 * (16 * 0 + 0) + 0) true none)⟩ :=
    .append (reads_hexDigit (d := 0) (by decide) (by decide)) (reads_hexDigit (d := 0) (by decide) (by decide))
  exact hopen.append (hzeros.append ((reads_hexDigit (by omega) (by decide)).append hlast))

theorem reads_shortEscape (content : List Char) {e c : Char} (h : shortEscape e = some c) :
    Reads ⟨frames, .text key content⟩ ['\\', e] ⟨frames, .text key (c :: content)⟩ := by
  have hne : (e == 'u') = false := by
    by_contra hu
    rw [beq_iff_eq.1 (Bool.of_not_eq_false hu)] at h
    cases h
  refine .cons rfl (.single ?_)
  simp only [step, stepEscape, hne, h, Bool.false_eq_true, if_false]

/-- a character is read back from the way it stands inside quotes -/
theorem reads_escape (content : List Char) (c : Char) :
    Reads ⟨frames, .text key content⟩ (escape c) ⟨frames, .text key (c :: content)⟩ := by
  unfold escape
  split_ifs with hquote hslash hback hfeed hline hreturn htab hcontrol
  · rw [beq_iff_eq.1 hquote]
    exact reads_shortEscape content rfl
  · rw [beq_iff_eq.1 hslash]
    exact reads_shortEscape content rfl
  · rw [beq_iff_eq.1 hback]
    exact reads_shortEscape content rfl
  · rw [beq_iff_eq.1 hfeed]
    exact reads_shortEscape content rfl
  · rw [beq_iff_eq.1 hline]
    exact reads_shortEscape content rfl
  · rw [beq_iff_eq.1 hreturn]
    exact reads_shortEscape content rfl
  · rw [beq_iff_eq.1 htab]
    exact reads_shortEscape content rfl
  · exact reads_control hcontrol
  · exact .single (by simp only [step, hquote, hslash, hcontrol, Bool.false_eq_true, if_false])

theorem reads_escapes (content cs : List Char) :
    Reads ⟨frames, .text key content⟩ (cs.flatMap escape) ⟨frames, .text key (cs.reverse ++ content)⟩ := by
  induction cs generalizing content with
  | nil => exact .nil _
  | cons c cs ih =>
    rw [List.flatMap_cons, List.reverse_cons, List.append_assoc]
    exact (reads_escape content c).append (ih (c :: content))

/-- behind its opening quote, a string is read to its end -/
theorem reads_string (s : String) :
    Reads ⟨frames, .text key []⟩ (s.toList.flatMap escape ++ ['"']) (closeText frames key s.toList.reverse) := by
  have hbody : Reads ⟨frames, .text key []⟩ _ _ := reads_escapes [] s.toList
  rw [List.append_nil] at hbody
  exact hbody.append (.single rfl)

theorem readsValue_string (frames : List Frame) (s : String) : ReadsValue frames (quoted s) (.string s) := by
  intro awaited h
  have hbody : Reads ⟨frames, .text none []⟩ _ _ := reads_string s
  simp only [closeText, List.reverse_reverse, String.ofList_toList] at hbody
  exact Reads.closed (.cons (step_between h rfl (by decide)) hbody)

/-- a key is read, and the object waits for the colon -/
theorem reads_key {awaited : Awaited} {fields : List (String × Json)}
    (h : awaited = .firstKey fields ∨ awaited = .nextKey fields) (name : String) :
    Reads ⟨frames, .between awaited⟩ (quoted name) ⟨.object fields name :: frames, .between .colon⟩ := by
  have hbody : Reads ⟨frames, .text (some fields) []⟩ _ _ := reads_string name
  simp only [closeText, List.reverse_reverse, String.ofList_toList] at hbody
  refine .cons ?_ hbody
  rcases h with rfl | rfl <;> rfl

end Strings

/-! ## Whole numbers -/

section Numbers

open Number (digits digitValue digitValue_digitChar isDigit_digitChar)

/-- a whole number that has been read: zero has no digit in front of another -/
def Numeral.whole (negative : Bool) (n : Nat) : Numeral where
  part := if n = 0 then .zero else .whole
  negative
  significand := n

theorem Numeral.step_whole {negative : Bool} {n d : Nat} (hn : n ≠ 0) (hd : d < 10) (hlimit : 10 * n + d ≤ limit) :
    (Numeral.whole negative n).step (Nat.digitChar d) = .ok (some (Numeral.whole negative (10 * n + d))) := by
  have hne : 10 * n + d ≠ 0 := by omega
  simp only [Numeral.step, Numeral.whole, isDigit_digitChar d hd, digitValue_digitChar d hd, if_neg hn, if_neg hne,
    if_true, if_pos hlimit]

/-- digits are read as the number they stand for, if the first of them is read as that -/
theorem reads_digits {frames : List Frame} {st : State} {negative : Bool}
    (hfirst : ∀ d < 10, step st (Nat.digitChar d) = .ok ⟨frames, .number (.whole negative d)⟩) (n : Nat)
    (hn : n ≤ Numeral.limit) : Reads st (digits n) ⟨frames, .number (.whole negative n)⟩ := by
  induction n using Nat.strongRecOn with
  | ind n ih =>
    rw [digits]
    split_ifs with h
    · exact .single (hfirst n h)
    · have hdiv : 10 * (n / 10) + n % 10 = n := Nat.div_add_mod n 10
      have hstep : (Numeral.whole negative (n / 10)).step (Nat.digitChar (n % 10)) =
          .ok (some (.whole negative (10 * (n / 10) + n % 10))) :=
        Numeral.step_whole (by omega) (Nat.mod_lt _ (by decide)) (by omega)
      rw [hdiv] at hstep
      exact (ih (n / 10) (by omega) (by omega)).append (.single (by simp only [step, hstep]))

/-- behind a number, the reader is where it is behind any value -/
theorem readsClosed_number {frames : List Frame} {m : Numeral} {value : Json}
    (hpart : m.part = .zero ∨ m.part = .whole) (hfinish : m.finish = .ok value) :
    ReadsClosed ⟨frames, .number m⟩ [] (.between (accept frames value)) := by
  intro position rest hrest
  refine ⟨position, ?_⟩
  cases rest with
  | nil =>
    have hsame : finish ⟨frames, .number m⟩ = finish (.between (accept frames value)) := by
      rcases hpart with h | h <;> simp only [finish, h, hfinish, State.between]
    rw [List.append_nil, readFrom, readFrom, hsame]
  | cons c cs =>
    have hc := hrest c rfl
    simp only [extendsNumber, Bool.or_eq_false_iff, beq_eq_false_iff_ne] at hc
    obtain ⟨⟨⟨hdigit, hpoint⟩, hsmall⟩, hlarge⟩ := hc
    have hnone : m.step c = .ok none := by
      rcases hpart with h | h <;> simp [Numeral.step, hdigit, h, hpoint, hsmall, hlarge]
    have hsame : step ⟨frames, .number m⟩ c = step (.between (accept frames value)) c := by
      simp only [step, hnone, hfinish, State.between]
    rw [List.nil_append, readFrom, readFrom, hsame]

theorem Numeral.part_whole (negative : Bool) (n : Nat) :
    (Numeral.whole negative n).part = .zero ∨ (Numeral.whole negative n).part = .whole := by
  unfold Numeral.whole
  split_ifs
  · exact .inl rfl
  · exact .inr rfl

theorem Numeral.finish_natural (n : Nat) : (Numeral.whole false n).finish = .ok (.integer n) := by
  by_cases hn : n = 0 <;> simp [Numeral.finish, Numeral.whole, hn]

theorem Numeral.finish_negative {n : Nat} (hpos : n ≠ 0) (hn : n ≤ UInt64.size / 2) :
    (Numeral.whole true n).finish = .ok (.integer (-n)) := by
  simp [Numeral.finish, Numeral.whole, hpos, hn]

theorem openValue_digit (frames : List Frame) :
    ∀ d < 10, openValue frames (Nat.digitChar d) = .ok ⟨frames, .number (.whole false d)⟩ := by
  intro d hd
  interval_cases d <;> rfl

theorem step_sign (frames : List Frame) :
    ∀ d < 10, step ⟨frames, .number { part := .sign, negative := true }⟩ (Nat.digitChar d)
      = .ok ⟨frames, .number (.whole true d)⟩ := by
  intro d hd
  interval_cases d <;> rfl

theorem digitChar_opens : ∀ d < 10, isSpace (Nat.digitChar d) = false ∧ Nat.digitChar d ≠ ']' := by
  decide

/-- integers from -2^63 up to 2^64 - 1 -/
def IsWord (n : Int) : Prop :=
  -(UInt64.size / 2 : Nat) ≤ n ∧ n < UInt64.size

theorem readsValue_integer (frames : List Frame) {n : Int} (hn : IsWord n) :
    ReadsValue frames (integerText n) (.integer n) := by
  intro awaited h
  obtain ⟨hlow, hhigh⟩ := hn
  simp only [UInt64.size] at hlow hhigh
  unfold integerText
  split_ifs with hneg
  · have hlimit : n.natAbs ≤ Numeral.limit := by
      simp only [Numeral.limit, UInt64.size]
      omega
    have hfinish := Numeral.finish_negative (n := n.natAbs) (by omega) (by simp only [UInt64.size]; omega)
    rw [show (-(n.natAbs : Int)) = n by omega] at hfinish
    have hsign : Reads ⟨frames, .between awaited⟩ ['-'] ⟨frames, .number { part := .sign, negative := true }⟩ :=
      .single (step_between h rfl (by decide))
    have hdigits := hsign.append (reads_digits (step_sign frames) n.natAbs hlimit)
    simpa using hdigits.andThen (readsClosed_number (Numeral.part_whole true n.natAbs) hfinish)
  · have hlimit : n.natAbs ≤ Numeral.limit := by
      simp only [Numeral.limit, UInt64.size]
      omega
    have hfinish := Numeral.finish_natural n.natAbs
    rw [show (n.natAbs : Int) = n by omega] at hfinish
    have hfirst (d : Nat) (hd : d < 10) : step ⟨frames, .between awaited⟩ (Nat.digitChar d)
        = .ok ⟨frames, .number (.whole false d)⟩ := by
      obtain ⟨hspace, hclose⟩ := digitChar_opens d hd
      rw [step_between h hspace hclose, openValue_digit frames d hd]
    have hdigits := reads_digits hfirst n.natAbs hlimit
    simpa using hdigits.andThen (readsClosed_number (Numeral.part_whole false n.natAbs) hfinish)

end Numbers

end LoadTrial.Json
