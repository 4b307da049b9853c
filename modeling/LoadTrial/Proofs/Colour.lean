/-
Colour is an addition to the console: it puts escape sequences between the characters of a text and changes nothing
else.

`uncoloured` deletes the colour sequences of a text, which are an escape, a bracket, parameters and an `m`. A painted
piece of text may stand anywhere in a line, so the relation that is proved of every renderer speaks of what stands
behind the piece as well: `Painted s t` says that deleting the colour sequences of `s` in front of any text leaves `t`
in front of it. Pieces that are painted or plain can be put together (`Painted.append`), and a style paints every text
without escapes (`Painted.style`). A renderer pads labels and never values, so it puts the same pieces together with
colour and without.

Main result: `colour_only_adds_escapes`, for all that a trial shows.
-/
import Mathlib.Tactic
import LoadTrial.Console.Report

namespace LoadTrial

/-- a text without control characters -/
def Printable (s : String) : Prop := ∀ c ∈ s.toList, 0x20 ≤ c.toNat

instance (s : String) : Decidable (Printable s) := List.decidableBAll _ s.toList

namespace Printable

theorem append {s t : String} (hs : Printable s) (ht : Printable t) : Printable (s ++ t) := by
  rw [Printable, String.toList_append]
  exact List.forall_mem_append.2 ⟨hs, ht⟩

/-- text of digits -/
theorem ofList_isDigit {cs : List Char} (h : ∀ c ∈ cs, c.isDigit = true) : Printable (String.ofList cs) := by
  intro c hc
  rw [String.toList_ofList] at hc
  have hzero : 48 ≤ c.val := by
    simpa using (Bool.and_eq_true_iff.1 (h c hc)).1
  exact Nat.le_trans (by decide) (UInt32.le_iff_toNat_le.1 hzero)

theorem decimal (n : Nat) : Printable (Number.decimal n) :=
  ofList_isDigit fun _ => Number.isDigit_of_mem_digits

theorem decimalPadded (width n : Nat) : Printable (Number.decimalPadded width n) := by
  apply ofList_isDigit
  intro c hc
  rcases List.mem_append.1 hc with hc | hc
  · rw [List.eq_of_mem_replicate hc]
    rfl
  · exact Number.isDigit_of_mem_digits hc

theorem signText (negative : Bool) : Printable (Number.Binary64.signText negative) := by
  cases negative <;> decide

theorem toFixed (places : Nat) (x : Number.Binary64) : Printable (x.toFixed places) := by
  cases x with
  | nan => exact (by decide : Printable "NaN")
  | infinite negative => exact (signText negative).append (by decide)
  | finite negative units =>
    exact (((signText negative).append (decimal _)).append (by decide)).append (decimalPadded _ _)

theorem no_newline {s : String} (h : Printable s) : '\n' ∉ s.toList := by
  intro hmem
  exact absurd (h _ hmem) (by decide)

end Printable

/-- there is no escape in a text -/
def NoEscape (s : String) : Prop := '\x1b' ∉ s.toList

instance (s : String) : Decidable (NoEscape s) := inferInstanceAs (Decidable (_ ∉ _))

theorem Printable.noEscape {s : String} (h : Printable s) : NoEscape s := by
  intro hmem
  exact absurd (h _ hmem) (by decide)

namespace NoEscape

theorem append {s t : String} (hs : NoEscape s) (ht : NoEscape t) : NoEscape (s ++ t) := by
  intro h
  rw [String.toList_append] at h
  rcases List.mem_append.1 h with h | h
  · exact hs h
  · exact ht h

theorem decimal (n : Nat) : NoEscape (Number.decimal n) :=
  (Printable.decimal n).noEscape

theorem toFixed (places : Nat) (x : Number.Binary64) : NoEscape (x.toFixed places) :=
  (Printable.toFixed places x).noEscape

theorem padRight {s : String} (h : NoEscape s) (width : Nat) : NoEscape (Text.padRight width s) := by
  apply h.append
  intro hmem
  rw [String.toList_ofList] at hmem
  exact absurd (List.eq_of_mem_replicate hmem) (by decide)

end NoEscape

namespace Console

/-! ## Deleting colour -/

/-- a character among the parameters of a colour sequence -/
def isParameter (c : Char) : Bool := c.isDigit || c == ';'

/-- parameters and the `m` behind them are in front -/
def endsSequence : List Char → Bool
  | [] => false
  | c :: cs => c == 'm' || (isParameter c && endsSequence cs)

/-- the rest of a colour sequence, behind its escape, is in front -/
def continuesSequence : List Char → Bool
  | '[' :: cs => endsSequence cs
  | _ => false

/-- what stays of a text without its colour sequences; `inside` of one, nothing stays up to its `m` -/
def strip (inside : Bool) : List Char → List Char
  | [] => []
  | c :: cs =>
    if inside then strip (c != 'm') cs
    else if c == '\x1b' && continuesSequence cs then strip true cs
    else c :: strip false cs

/-- a text without its colour sequences -/
def uncoloured (s : String) : String := String.ofList (strip false s.toList)

/-- without its colour sequences the one text is the other, which has no escape at all -/
def EqualButForColour (coloured plain : String) : Prop := uncoloured coloured = plain ∧ NoEscape plain

instance (s t : String) : Decidable (EqualButForColour s t) := inferInstanceAs (Decidable (_ ∧ _))

theorem strip_of_not_mem {cs : List Char} (h : '\x1b' ∉ cs) (rest : List Char) :
    strip false (cs ++ rest) = cs ++ strip false rest := by
  induction cs with
  | nil => rfl
  | cons c cs ih =>
    rw [List.mem_cons, not_or] at h
    have hc : (c == '\x1b') = false := beq_eq_false_iff_ne.2 (Ne.symm h.1)
    simp only [List.cons_append, strip, hc, Bool.false_and, Bool.false_eq_true, if_false, ih h.2]

theorem endsSequence_append {ps : List Char} (h : ∀ c ∈ ps, isParameter c = true) (rest : List Char) :
    endsSequence (ps ++ 'm' :: rest) = true := by
  induction ps with
  | nil => rfl
  | cons p ps ih =>
    rw [List.forall_mem_cons] at h
    simp only [List.cons_append, endsSequence, h.1, ih h.2, Bool.and_self, Bool.or_true]

theorem strip_inside {ps : List Char} (h : ∀ c ∈ ps, isParameter c = true) (rest : List Char) :
    strip true (ps ++ 'm' :: rest) = strip false rest := by
  induction ps with
  | nil => rfl
  | cons p ps ih =>
    rw [List.forall_mem_cons] at h
    have hp : (p != 'm') = true := by
      rw [bne_iff_ne]
      rintro rfl
      exact absurd h.1 (by decide)
    simp only [List.cons_append, strip, if_true, hp, ih h.2]

/-- a colour sequence is deleted, and what is behind it is read on -/
theorem strip_sequence {ps : List Char} (h : ∀ c ∈ ps, isParameter c = true) (rest : List Char) :
    strip false ('\x1b' :: '[' :: (ps ++ 'm' :: rest)) = strip false rest := by
  have hopens : continuesSequence ('[' :: (ps ++ 'm' :: rest)) = true := endsSequence_append h rest
  have hbracket : strip true ('[' :: (ps ++ 'm' :: rest)) = strip true (ps ++ 'm' :: rest) := rfl
  rw [strip, hopens, hbracket, strip_inside h]
  rfl

theorem strip_opening (s : Style) (rest : List Char) : strip false (s.opening ++ rest) = strip false rest := by
  set ps := (if s.bold then ['1', ';'] else []) ++ Number.digits s.color.code with hps
  have hparameters : ∀ c ∈ ps, isParameter c = true := by
    intro c hc
    rcases List.mem_append.1 hc with hc | hc
    · split_ifs at hc
      · exact (by simp [isParameter] : ∀ c ∈ ['1', ';'], isParameter c = true) c hc
      · exact absurd hc List.not_mem_nil
    · rw [isParameter, Number.isDigit_of_mem_digits hc, Bool.true_or]
  have hopening : s.opening ++ rest = '\x1b' :: '[' :: (ps ++ 'm' :: rest) := by
    simp [Style.opening, hps]
  rw [hopening, strip_sequence hparameters]

theorem strip_reset (rest : List Char) : strip false (reset ++ rest) = strip false rest :=
  strip_sequence (by simp [isParameter] : ∀ c ∈ ['0'], isParameter c = true) rest

theorem reopen_of_not_mem (opening : List Char) {cs : List Char} (h : '\x1b' ∉ cs) : reopen opening cs = cs := by
  induction cs with
  | nil => rfl
  | cons c cs ih =>
    rw [List.mem_cons, not_or] at h
    rw [reopen, ih h.2]
    rintro rest rfl
    exact absurd rfl h.1

/-! ## Painted texts -/

/-- `painted` is `plain` with colour sequences between its characters, and in front of a text it stays so -/
structure Painted (painted plain : String) : Prop where
  strip_append : ∀ rest, strip false (painted.toList ++ rest) = plain.toList ++ strip false rest
  noEscape : NoEscape plain

namespace Painted

/-- a text without escapes, as it is -/
theorem plain {s : String} (h : NoEscape s) : Painted s s :=
  ⟨strip_of_not_mem h, h⟩

theorem append {s s' t t' : String} (h : Painted s t) (h' : Painted s' t') : Painted (s ++ s') (t ++ t') := by
  refine ⟨fun rest => ?_, h.noEscape.append h'.noEscape⟩
  rw [String.toList_append, String.toList_append, List.append_assoc, h.strip_append, h'.strip_append, List.append_assoc]

theorem join {ss ts : List String} (h : List.Forall₂ Painted ss ts) : Painted (String.join ss) (String.join ts) := by
  induction h with
  | nil => exact plain (by decide : NoEscape "")
  | cons head _ ih => simpa using head.append ih

/-- a painter paints texts without escapes, or leaves them as they are -/
theorem style (p : Painter) (s : Style) {text : String} (h : NoEscape text) : Painted (p.style s text) text := by
  refine ⟨fun rest => ?_, h⟩
  rw [Painter.style]
  split_ifs
  · rw [Style.apply, String.toList_ofList, reopen_of_not_mem _ h, List.append_assoc, List.append_assoc, strip_opening,
      strip_of_not_mem h, strip_reset]
  · exact strip_of_not_mem h rest

theorem equalButForColour {s t : String} (h : Painted s t) : EqualButForColour s t := by
  have hstrip := h.strip_append []
  rw [List.append_nil, strip, List.append_nil] at hstrip
  refine ⟨?_, h.noEscape⟩
  rw [uncoloured, hstrip, String.ofList_toList]

end Painted

/-! ## Renderers -/

/-- the painter with its switch off -/
def Painter.plain (p : Painter) : Painter := { p with enabled := false }

/-- the formatter without colour -/
def Formatter.plain (f : Formatter) : Formatter := { f with painter := f.painter.plain }

/-- a painter with its switch off leaves every text as it is -/
theorem Painter.plain_style (p : Painter) (s : Style) (text : String) : p.plain.style s text = text := rfl

/-- what a painter paints, its plain one leaves as it is -/
theorem Painted.styles (p : Painter) (s : Style) {text : String} (h : NoEscape text) :
    Painted (p.style s text) (p.plain.style s text) := by
  rw [Painter.plain_style]
  exact .style p s h

namespace Formatter

variable (f : Formatter)

theorem painted_line {label value value' : String} (hlabel : NoEscape label) (h : Painted value value') :
    Painted (line label value) (line label value') := by
  have hpadded : NoEscape (Text.padRight labelWidth (label ++ ":")) := (hlabel.append (by decide)).padRight _
  exact ((Painted.plain hpadded).append h).append (.plain (by decide))

theorem painted_count (label : String) (n : UInt64) (h : NoEscape label) :
    Painted (line label (count n)) (line label (count n)) :=
  painted_line h (.plain (.decimal _))

theorem painted_rule : Painted (f.painter.border rule) (f.plain.painter.border rule) :=
  .styles _ _ (by decide)

theorem painted_boxed {title : String} (h : NoEscape title) : Painted (f.boxed title) (f.plain.boxed title) := by
  have htitle : Painted (f.painter.header title) (f.plain.painter.header title) := .styles _ _ h
  exact f.painted_rule
    |>.append (.plain (by decide))
    |>.append htitle
    |>.append (.plain (by decide))
    |>.append f.painted_rule

/-- a title on lines of its own -/
theorem painted_title {title : String} (h : NoEscape title) :
    Painted ("\n" ++ f.boxed title ++ "\n") ("\n" ++ f.plain.boxed title ++ "\n") :=
  ((Painted.plain (by decide)).append (f.painted_boxed h)).append (.plain (by decide))

theorem painted_rate (r : Option Number.Binary64) : Painted (f.rate r) (f.plain.rate r) := by
  cases r with
  | none => exact .plain (by decide : NoEscape "n/a")
  | some r => exact .styles _ _ ((NoEscape.toFixed 2 r).append (by decide))

theorem painted_latency (ms : Option UInt64) : Painted (f.latency ms) (f.plain.latency ms) := by
  cases ms with
  | none => exact .plain (by decide : NoEscape "n/a")
  | some ms => exact .styles _ _ ((NoEscape.decimal ms.toNat).append (by decide))

theorem painted_failedLine (r : Scenario.Result) : Painted (f.failedLine r) (f.plain.failedLine r) := by
  rw [failedLine, failedLine]
  split_ifs
  · have hcounts : NoEscape (count r.failedWorkers ++ " of " ++ count r.numClients) :=
      ((NoEscape.decimal _).append (by decide)).append (.decimal _)
    exact painted_line (by decide) (.styles _ _ hcounts)
  · exact .plain (by decide)

theorem painted_banner {p : Plan} (h : NoEscape p.coordinatorUrl) : Painted (f.banner p) (f.plain.banner p) := by
  have hurl : Painted (f.painter.info p.coordinatorUrl) (f.plain.painter.info p.coordinatorUrl) := .styles _ _ h
  have hdelay : NoEscape (Number.decimal p.requestDelay.millis ++ " ms") := (NoEscape.decimal _).append (by decide)
  have htimeout : NoEscape (count p.requestTimeout.secs ++ " sec") := (NoEscape.decimal _).append (by decide)
  exact (f.painted_title (by decide))
    |>.append (painted_line (by decide) hurl)
    |>.append (painted_count _ _ (by decide))
    |>.append (painted_count _ _ (by decide))
    |>.append (painted_count _ _ (by decide))
    |>.append (painted_line (by decide) (.plain hdelay))
    |>.append (painted_line (by decide) (.plain htimeout))
    |>.append (painted_count _ _ (by decide))
    |>.append f.painted_rule

theorem painted_report (r : Scenario.Result) : Painted (f.report r) (f.plain.report r) := by
  have hrate : Painted (count r.summary.successful ++ " (" ++ f.rate r.summary.successRate ++ ")")
      (count r.summary.successful ++ " (" ++ f.plain.rate r.summary.successRate ++ ")") :=
    (((Painted.plain (.decimal _)).append (.plain (by decide))).append (f.painted_rate _)).append (.plain (by decide))
  have hduration : NoEscape (r.summary.duration.seconds.toFixed 2 ++ " sec") :=
    (NoEscape.toFixed _ _).append (by decide)
  have hthroughput : NoEscape (r.summary.throughput.toFixed 2 ++ " req/sec") :=
    (NoEscape.toFixed _ _).append (by decide)
  exact (f.painted_title (by decide))
    |>.append (painted_count _ _ (by decide))
    |>.append (painted_line (by decide) hrate)
    |>.append (painted_count _ _ (by decide))
    |>.append (painted_count _ _ (by decide))
    |>.append (f.painted_failedLine r)
    |>.append (painted_line (by decide) (.plain hduration))
    |>.append (painted_line (by decide) (.plain hthroughput))
    |>.append (.plain (by decide))
    |>.append (painted_line (by decide) (f.painted_latency _))
    |>.append (painted_line (by decide) (f.painted_latency _))
    |>.append (painted_line (by decide) (f.painted_latency _))
    |>.append f.painted_rule

theorem painted_suiteHeader (scenarios : Nat) : Painted (f.suiteHeader scenarios) (f.plain.suiteHeader scenarios) :=
  (f.painted_title (by decide))
    |>.append (.plain (.decimal _))
    |>.append (.plain (by decide))

theorem painted_scenarioHeading (index : Nat) {label : String} (h : NoEscape label) :
    Painted (f.scenarioHeading index label) (f.plain.scenarioHeading index label) := by
  have htitle : NoEscape ("[Test " ++ Number.decimal index ++ "] " ++ label) :=
    (((by decide : NoEscape "[Test ").append (.decimal _)).append (by decide)).append h
  exact (Painted.plain (by decide)).append (.styles _ _ htitle)

theorem painted_verdict {label : String} (h : NoEscape label) (passed : Bool) :
    Painted (f.verdict label passed) (f.plain.verdict label passed) := by
  cases passed with
  | true => exact .styles _ _ (((by decide : NoEscape "✓ ").append h).append (by decide))
  | false => exact .styles _ _ (((by decide : NoEscape "✗ ").append h).append (by decide))

theorem painted_entryLine {e : Suite.Entry} (h : NoEscape e.label) : Painted (f.entryLine e) (f.plain.entryLine e) := by
  have hmark : Painted (if e.passed then f.painter.success "✓" else f.painter.error "✗")
      (if e.passed then f.plain.painter.success "✓" else f.plain.painter.error "✗") := by
    split_ifs
    · exact .styles _ _ (by decide)
    · exact .styles _ _ (by decide)
  exact hmark
    |>.append (.plain (by decide))
    |>.append (.plain h)
    |>.append (.plain (by decide))

theorem painted_suiteSummary {s : Suite} (h : ∀ e ∈ s.entries, NoEscape e.label) :
    Painted (f.suiteSummary s) (f.plain.suiteSummary s) := by
  have hentries : List.Forall₂ Painted (s.entries.map f.entryLine) (s.entries.map f.plain.entryLine) := by
    rw [List.forall₂_map_left_iff, List.forall₂_map_right_iff, List.forall₂_same]
    exact fun e he => f.painted_entryLine (h e he)
  have hclosing : Painted
      (if s.allPassed then f.painter.success "✓ All load tests PASSED!" else f.painter.error "✗ Some tests FAILED!")
      (if s.allPassed then f.plain.painter.success "✓ All load tests PASSED!"
        else f.plain.painter.error "✗ Some tests FAILED!") := by
    split_ifs
    · exact .styles _ _ (by decide)
    · exact .styles _ _ (by decide)
  exact (f.painted_title (by decide))
    |>.append (.join hentries)
    |>.append (.plain (.decimal _))
    |>.append (.plain (by decide))
    |>.append (.plain (.decimal _))
    |>.append (.plain (by decide))
    |>.append hclosing

theorem painted_scenariosTexts (index : Nat) {runs : List Scenario.Run}
    (h : ∀ r ∈ runs, NoEscape r.plan.coordinatorUrl ∧ NoEscape r.plan.label) :
    List.Forall₂ Painted (f.scenariosTexts index runs) (f.plain.scenariosTexts index runs) := by
  induction runs generalizing index with
  | nil => exact .nil
  | cons r runs ih =>
    obtain ⟨⟨hurl, hlabel⟩, hruns⟩ := List.forall_mem_cons.1 h
    exact .cons (f.painted_scenarioHeading index hlabel) (.cons (f.painted_banner hurl)
      (.cons (f.painted_report r.result) (.cons (f.painted_verdict hlabel _) (ih (index + 1) hruns))))

theorem painted_transcript {runs : List Scenario.Run}
    (h : ∀ r ∈ runs, NoEscape r.plan.coordinatorUrl ∧ NoEscape r.plan.label) :
    Painted (f.transcript runs) (f.plain.transcript runs) := by
  have hsummary : Painted (f.suiteSummary (Suite.ofRuns runs)) (f.plain.suiteSummary (Suite.ofRuns runs)) := by
    apply painted_suiteSummary
    intro e he
    obtain ⟨r, hr, rfl⟩ := List.mem_map.1 he
    exact (h r hr).2
  have htexts := List.rel_append (.cons (f.painted_suiteHeader runs.length) (f.painted_scenariosTexts 1 h))
    (.cons hsummary .nil)
  apply Painted.join
  rw [List.forall₂_map_left_iff, List.forall₂_map_right_iff]
  exact htexts.imp fun s t hst => hst.append (.plain (by decide))

end Formatter

theorem painted_failure (p : Painter) {failure : Failure} (h : NoEscape failure.text) :
    Painted (Console.failure p failure) (Console.failure p.plain failure) := by
  have hcategory : NoEscape failure.kind.category := by
    cases failure.kind <;> decide
  have hheading : NoEscape failure.kind.heading := by
    cases failure.kind <;> decide
  have hmessage : NoEscape failure.message := hheading.append h
  exact (Painted.plain (by decide))
    |>.append (.styles _ _ hcategory)
    |>.append (.plain (by decide))
    |>.append (.styles _ _ hmessage)

/-- **Colour only adds escapes.** Whatever the threshold, and whether or not the terminal takes colour: for texts
without escapes, all that a formatter shows is what it shows with its colour switched off, but for colour sequences. -/
theorem colour_only_adds_escapes (f : Formatter) :
    (∀ p : Plan, NoEscape p.coordinatorUrl → EqualButForColour (f.banner p) (f.plain.banner p)) ∧
    (∀ r : Scenario.Result, EqualButForColour (f.report r) (f.plain.report r)) ∧
    (∀ scenarios, EqualButForColour (f.suiteHeader scenarios) (f.plain.suiteHeader scenarios)) ∧
    (∀ index label, NoEscape label →
      EqualButForColour (f.scenarioHeading index label) (f.plain.scenarioHeading index label)) ∧
    (∀ label passed, NoEscape label → EqualButForColour (f.verdict label passed) (f.plain.verdict label passed)) ∧
    (∀ s : Suite, (∀ e ∈ s.entries, NoEscape e.label) →
      EqualButForColour (f.suiteSummary s) (f.plain.suiteSummary s)) ∧
    (∀ runs : List Scenario.Run, (∀ r ∈ runs, NoEscape r.plan.coordinatorUrl ∧ NoEscape r.plan.label) →
      EqualButForColour (f.transcript runs) (f.plain.transcript runs)) ∧
    ∀ e : Failure, NoEscape e.text → EqualButForColour (failure f.painter e) (failure f.plain.painter e) := by
  refine ⟨fun p h => ?_, fun r => ?_, fun scenarios => ?_, fun index label h => ?_, fun label passed h => ?_,
    fun s h => ?_, fun runs h => ?_, fun e h => ?_⟩
  · exact (f.painted_banner h).equalButForColour
  · exact (f.painted_report r).equalButForColour
  · exact (f.painted_suiteHeader scenarios).equalButForColour
  · exact (f.painted_scenarioHeading index h).equalButForColour
  · exact (f.painted_verdict h passed).equalButForColour
  · exact (f.painted_suiteSummary h).equalButForColour
  · exact (f.painted_transcript h).equalButForColour
  · exact (painted_failure f.painter h).equalButForColour

/-- texts that look like the rest of a colour sequence -/
def bracketed : Plan where
  label := "[31mStress"
  coordinatorUrl := "http://[0m"
  trust := {}
  coordinatorId := "id"
  payload := {}
  numClients := 1
  requestsPerClient := 1
  requestDelay := .zero
  requestTimeout := .zero
  connectionPoolSize := 1

theorem bracketed_texts :
    let f : Formatter := { painter := ⟨true, true⟩ }
    let run := Scenario.run {} ⟨0⟩ (fun _ => .client fun _ => .answer ⟨true, 60, false⟩ 60) bracketed
    (NoEscape bracketed.coordinatorUrl ∧ NoEscape bracketed.label) ∧
      f.banner bracketed ≠ f.plain.banner bracketed ∧
      EqualButForColour (f.banner bracketed) (f.plain.banner bracketed) ∧
      EqualButForColour (f.scenarioHeading 1 bracketed.label) (f.plain.scenarioHeading 1 bracketed.label) ∧
      EqualButForColour (f.verdict bracketed.label false) (f.plain.verdict bracketed.label false) ∧
      EqualButForColour (f.suiteSummary (Suite.ofRuns [run])) (f.plain.suiteSummary (Suite.ofRuns [run])) ∧
      EqualButForColour (f.transcript [run]) (f.plain.transcript [run]) ∧
      EqualButForColour (failure f.painter (.tls bracketed.label)) (failure f.plain.painter (.tls bracketed.label)) := by
  intro f run
  obtain ⟨hbanner, -, -, hheading, hverdict, hsummary, htranscript, hfailure⟩ := colour_only_adds_escapes f
  have hurl : NoEscape bracketed.coordinatorUrl := by decide
  have hlabel : NoEscape bracketed.label := by decide
  refine ⟨⟨hurl, hlabel⟩, by decide +kernel, hbanner _ hurl, hheading 1 _ hlabel, hverdict _ false hlabel,
    hsummary _ ?_, htranscript _ ?_, hfailure _ hlabel⟩
  · intro e he
    rw [List.mem_singleton.1 he]
    exact hlabel
  · intro r hr
    rw [List.mem_singleton.1 hr]
    exact ⟨hurl, hlabel⟩

end Console

end LoadTrial
