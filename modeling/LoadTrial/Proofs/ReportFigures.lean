/-
What can be read off a report.

Below its title a report is two groups of rows, each up to a line that is none (`Formatter.report_eq`). A row is a label
and a value. Labels are made of letters and blanks, so the colon ends them, and they are narrow enough to leave a blank
in front of the value; a value has no line break. So rows are read back one by one, whatever stands behind them
(`Row.text_append_inj`, `Row.texts_append_inj`), and with them which rows are there. Numbers are read back up to the
first blank. Colour takes nothing away: without its colour sequences a report is the plain one.

Main result: `report_determines_figures`.
-/
import Mathlib.Tactic
import LoadTrial.Proofs.Colour

namespace LoadTrial.Console

/-- what stands in front of the first `c` is read back -/
theorem append_cons_inj {α : Type} {c : α} {l l' r r' : List α} (hl : c ∉ l) (hl' : c ∉ l')
    (h : l ++ c :: r = l' ++ c :: r') : l = l' ∧ r = r' := by
  induction l generalizing l' with
  | nil =>
    cases l' with
    | nil => exact ⟨rfl, (List.cons.inj h).2⟩
    | cons x xs => exact absurd (List.mem_cons.2 (.inl (List.cons.inj h).1)) hl'
  | cons x xs ih =>
    cases l' with
    | nil => exact absurd (List.mem_cons.2 (.inl (List.cons.inj h).1.symm)) hl
    | cons y ys =>
      obtain ⟨rfl, hrest⟩ := List.cons.inj h
      rw [List.mem_cons, not_or] at hl hl'
      obtain ⟨rfl, rfl⟩ := ih hl.2 hl'.2 hrest
      exact ⟨rfl, rfl⟩

/-! ## Rows -/

/-- a character of labels -/
def isLabelChar (c : Char) : Bool := c.isAlpha || c == ' ' || c == '/'

/-- a text that leaves room for a colon and a blank in front of the column of values -/
def IsLabel (s : String) : Prop :=
  s.toList ≠ [] ∧ (∀ c ∈ s.toList, isLabelChar c = true) ∧ s.length + 1 < Formatter.labelWidth

instance (s : String) : Decidable (IsLabel s) :=
  have := List.decidableBAll (fun c => isLabelChar c = true) s.toList
  inferInstanceAs (Decidable (_ ∧ _ ∧ _))

structure Row where
  label : String
  value : String
  isLabel : IsLabel label

namespace Row

/-- a row as it is shown -/
def text (row : Row) : String := Formatter.line row.label row.value

def texts (rows : List Row) : String := String.join (rows.map text)

@[simp] theorem texts_nil : texts [] = "" := rfl

@[simp] theorem texts_cons (row : Row) (rows : List Row) : texts (row :: rows) = row.text ++ texts rows := by
  simp [texts]

@[simp] theorem texts_append (rows rows' : List Row) : texts (rows ++ rows') = texts rows ++ texts rows' := by
  induction rows with
  | nil => simp
  | cons row rows ih => rw [List.cons_append, texts_cons, texts_cons, ih, String.append_assoc]

/-- the blanks between a label with its colon and the value -/
def gap (row : Row) : Nat := Formatter.labelWidth - (row.label.length + 1)

theorem gap_pos (row : Row) : 0 < row.gap :=
  Nat.sub_pos_of_lt row.isLabel.2.2

theorem text_eq (row : Row) :
    row.text = row.label ++ ":" ++ String.ofList (List.replicate row.gap ' ') ++ row.value ++ "\n" := by
  rw [text, Formatter.line, Text.padRight, String.length_append]
  rfl

theorem toList_text (row : Row) :
    row.text.toList = row.label.toList ++ ':' :: (List.replicate row.gap ' ' ++ (row.value.toList ++ ['\n'])) := by
  simp [text_eq]

/-- a row begins with a character of its label -/
theorem exists_cons_of_text (row : Row) : ∃ c cs, row.text.toList = c :: cs ∧ isLabelChar c = true := by
  obtain ⟨c, cs, hlabel⟩ := List.exists_cons_of_ne_nil row.isLabel.1
  have htext := row.toList_text
  rw [hlabel, List.cons_append] at htext
  refine ⟨c, _, htext, row.isLabel.2.1 c ?_⟩
  rw [hlabel]
  exact List.mem_cons_self

theorem not_mem_label (row : Row) {c : Char} (h : isLabelChar c = false) : c ∉ row.label.toList := by
  intro hc
  rw [row.isLabel.2.1 c hc] at h
  cases h

/-- a row is read back, whatever stands behind it -/
theorem text_append_inj {row row' : Row} (hvalue : Printable row.value) (hvalue' : Printable row'.value)
    {s t : List Char} (h : row.text.toList ++ s = row'.text.toList ++ t) : row = row' ∧ s = t := by
  rw [toList_text, toList_text, List.append_assoc, List.append_assoc, List.cons_append, List.cons_append] at h
  obtain ⟨hlabel, hrest⟩ := append_cons_inj (row.not_mem_label (by decide)) (row'.not_mem_label (by decide)) h
  have hgap : row.gap = row'.gap := by
    rw [gap, gap, String.toList_inj.1 hlabel]
  rw [hgap, List.append_assoc, List.append_assoc, List.append_assoc, List.append_assoc] at hrest
  obtain ⟨hvalues, hbehind⟩ := append_cons_inj hvalue.no_newline hvalue'.no_newline (List.append_cancel_left hrest)
  cases row
  cases row'
  cases String.toList_inj.1 hlabel
  cases String.toList_inj.1 hvalues
  exact ⟨rfl, hbehind⟩

/-- rows are read back up to a character with which no row begins -/
theorem texts_append_inj {rows rows' : List Row} (hrows : ∀ row ∈ rows, Printable row.value)
    (hrows' : ∀ row ∈ rows', Printable row.value) {c : Char} (hc : isLabelChar c = false) {s t : List Char}
    (h : (texts rows).toList ++ c :: s = (texts rows').toList ++ c :: t) : rows = rows' ∧ s = t := by
  -- where the one list has ended, a row of the other would begin with `c`
  have hbegins (row : Row) (rest u : List Char) : c :: u ≠ row.text.toList ++ rest := by
    obtain ⟨d, cs, htext, hd⟩ := row.exists_cons_of_text
    rw [htext]
    rintro ⟨⟩
    rw [hc] at hd
    cases hd
  induction rows generalizing rows' with
  | nil =>
    cases rows' with
    | nil => exact ⟨rfl, (List.cons.inj h).2⟩
    | cons row' rows' =>
      rw [texts_cons, String.toList_append, List.append_assoc] at h
      exact absurd h (hbegins row' _ _)
  | cons row rows ih =>
    rw [texts_cons, String.toList_append, List.append_assoc] at h
    cases rows' with
    | nil => exact absurd h.symm (hbegins row _ _)
    | cons row' rows' =>
      rw [texts_cons, String.toList_append, List.append_assoc] at h
      obtain ⟨hrow, htail⟩ := List.forall_mem_cons.1 hrows
      obtain ⟨hrow', htail'⟩ := List.forall_mem_cons.1 hrows'
      obtain ⟨rfl, hrest⟩ := text_append_inj hrow hrow' h
      obtain ⟨rfl, hbehind⟩ := ih htail htail' hrest
      exact ⟨rfl, hbehind⟩

end Row

/-! ## The rows of a report and of a banner -/

namespace Formatter

variable (f : Formatter)

/-- the row about workers without a working client, if there are any -/
def failedRows (r : Scenario.Result) : List Row :=
  if 0 < r.failedWorkers then
    [⟨"Client Setup Errors", f.painter.warning (count r.failedWorkers ++ " of " ++ count r.numClients), by decide⟩]
  else []

def figureRows (r : Scenario.Result) : List Row :=
  let s := r.summary
  [⟨"Total Requests", count s.total, by decide⟩,
    ⟨"Successful", count s.successful ++ " (" ++ f.rate s.successRate ++ ")", by decide⟩,
    ⟨"Failed", count s.failed, by decide⟩,
    ⟨"Timeouts", count s.timedOut, by decide⟩] ++ f.failedRows r ++
  [⟨"Duration", s.duration.seconds.toFixed 2 ++ " sec", by decide⟩,
    ⟨"Throughput", s.throughput.toFixed 2 ++ " req/sec", by decide⟩]

def latencyRows (r : Scenario.Result) : List Row :=
  let s := r.summary
  [⟨"  Average", f.latency (if s.isEmpty then none else some s.avgLatencyMs), by decide⟩,
    ⟨"  Min", f.latency s.minLatencyMs, by decide⟩,
    ⟨"  Max", f.latency s.maxLatencyMs, by decide⟩]

def bannerRows (p : Plan) : List Row :=
  [⟨"Coordinator URL", f.painter.info p.coordinatorUrl, by decide⟩,
    ⟨"Wallet Clients", count p.numClients, by decide⟩,
    ⟨"Requests/Client", count p.requestsPerClient, by decide⟩,
    ⟨"Total Requests", count p.totalRequests, by decide⟩,
    ⟨"Request Delay", Number.decimal p.requestDelay.millis ++ " ms", by decide⟩,
    ⟨"Request Timeout", count p.requestTimeout.secs ++ " sec", by decide⟩,
    ⟨"Connection Pool", count p.connectionPoolSize, by decide⟩]

theorem texts_failedRows (r : Scenario.Result) : Row.texts (f.failedRows r) = f.failedLine r := by
  rw [failedRows, failedLine]
  split_ifs
  · simp [Row.text]
  · rfl

theorem report_eq (r : Scenario.Result) :
    f.report r = "\n" ++ f.boxed "Load Test Report" ++ "\n" ++ Row.texts (f.figureRows r)
      ++ "\nLatency Statistics:\n" ++ Row.texts (f.latencyRows r) ++ f.painter.border rule := by
  unfold report figureRows latencyRows
  dsimp only
  simp only [Row.texts_append, Row.texts_cons, Row.texts_nil, texts_failedRows, Row.text, String.append_assoc,
    String.append_empty]

theorem banner_eq (p : Plan) :
    f.banner p = "\n" ++ f.boxed "Starting Load Test" ++ "\n" ++ Row.texts (f.bannerRows p)
      ++ f.painter.border rule := by
  simp only [banner, bannerRows, Row.texts_cons, Row.texts_nil, Row.text, String.append_assoc, String.append_empty]

/-! ## Values -/

theorem plain_paint (color : Color) (text : String) : f.plain.painter.paint color text = text := rfl

theorem printable_rate (r : Option Number.Binary64) : Printable (f.plain.rate r) := by
  cases r with
  | none => exact (by decide : Printable "n/a")
  | some r => exact (Printable.toFixed 2 r).append (by decide)

theorem printable_latency (ms : Option UInt64) : Printable (f.plain.latency ms) := by
  cases ms with
  | none => exact (by decide : Printable "n/a")
  | some ms => exact (Printable.decimal ms.toNat).append (by decide)

theorem printable_failedRows (r : Scenario.Result) : ∀ row ∈ f.plain.failedRows r, Printable row.value := by
  rw [failedRows]
  split_ifs
  · rw [List.forall_mem_singleton]
    exact ((Printable.decimal _).append (by decide)).append (.decimal _)
  · exact nofun

theorem printable_figureRows (r : Scenario.Result) : ∀ row ∈ f.plain.figureRows r, Printable row.value := by
  have hrate : Printable (count r.summary.successful ++ " (" ++ f.plain.rate r.summary.successRate ++ ")") :=
    (((Printable.decimal _).append (by decide)).append (f.printable_rate _)).append (by decide)
  have hduration : Printable (r.summary.duration.seconds.toFixed 2 ++ " sec") :=
    (Printable.toFixed _ _).append (by decide)
  have hthroughput : Printable (r.summary.throughput.toFixed 2 ++ " req/sec") :=
    (Printable.toFixed _ _).append (by decide)
  simp only [figureRows, List.forall_mem_append, List.forall_mem_cons]
  exact ⟨⟨⟨.decimal _, hrate, .decimal _, .decimal _, nofun⟩, f.printable_failedRows r⟩, hduration, hthroughput, nofun⟩

theorem printable_latencyRows (r : Scenario.Result) : ∀ row ∈ f.plain.latencyRows r, Printable row.value := by
  simp only [latencyRows, List.forall_mem_cons]
  exact ⟨f.printable_latency _, f.printable_latency _, f.printable_latency _, nofun⟩

theorem not_mem_count (n : UInt64) : ' ' ∉ (count n).toList := by
  rw [count, Number.decimal, String.toList_ofList]
  intro h
  exact absurd (Number.isDigit_of_mem_digits h) (by decide)

theorem count_inj {m n : UInt64} (h : count m = count n) : m = n := by
  rw [count, count, Number.decimal, Number.decimal] at h
  exact UInt64.toNat_inj.1 (Number.digits_inj.1 (String.ofList_injective h))

/-- a count is read back up to the blank with which a separator begins -/
theorem count_append_inj {m n : UInt64} {separator s t : String} (hseparator : separator.toList.head? = some ' ')
    (h : count m ++ separator ++ s = count n ++ separator ++ t) : m = n ∧ s = t := by
  obtain ⟨cs, hcs⟩ := List.head?_eq_some_iff.1 hseparator
  have hlist := congrArg String.toList h
  simp only [String.toList_append, List.append_assoc, hcs, List.cons_append] at hlist
  obtain ⟨hcount, hbehind⟩ := append_cons_inj (not_mem_count m) (not_mem_count n) hlist
  exact ⟨count_inj (String.toList_inj.1 hcount), String.toList_inj.1 (List.append_cancel_left hbehind)⟩

/-- there is a blank in a number of milliseconds, and none in what stands for no latency -/
theorem latency_inj {m n : Option UInt64} (h : f.plain.latency m = f.plain.latency n) : m = n := by
  have hblank (ms : UInt64) : f.plain.latency (some ms) ≠ f.plain.latency none := by
    intro heq
    have hmem : ' ' ∈ (f.plain.latency (some ms)).toList := by
      rw [show f.plain.latency (some ms) = count ms ++ " ms" from rfl, String.toList_append]
      exact List.mem_append_right _ (by decide)
    rw [heq] at hmem
    exact absurd hmem (by decide : ' ' ∉ "n/a".toList)
  cases m with
  | none =>
    cases n with
    | none => rfl
    | some n => exact absurd h.symm (hblank n)
  | some m =>
    cases n with
    | none => exact absurd h (hblank m)
    | some n =>
      have hcount : count m ++ " ms" ++ "" = count n ++ " ms" ++ "" := congrArg (· ++ "") h
      rw [(count_append_inj (by decide) hcount).1]

/-! ## Reading a report -/

variable {f : Formatter} {a b : Scenario.Result}

/-- without its colour sequences a report is the plain one -/
theorem plain_report_eq (h : f.report a = f.report b) : f.plain.report a = f.plain.report b := by
  rw [← (f.painted_report a).equalButForColour.1, ← (f.painted_report b).equalButForColour.1, h]

/-- reports that are equal have equal rows -/
theorem rows_of_report (h : f.plain.report a = f.plain.report b) :
    f.plain.figureRows a = f.plain.figureRows b ∧ f.plain.latencyRows a = f.plain.latencyRows b := by
  have hheading : "\nLatency Statistics:\n".toList = '\n' :: "Latency Statistics:\n".toList := by decide
  have hrule : (f.plain.painter.border rule).toList = '=' :: List.replicate 39 '=' := by
    rw [Painter.border, plain_paint]
    decide
  rw [report_eq, report_eq] at h
  have hlist := congrArg String.toList h
  simp only [String.toList_append, List.append_assoc, List.append_cancel_left_eq, hheading, hrule,
    List.cons_append] at hlist
  obtain ⟨hfigures, hbehind⟩ :=
    Row.texts_append_inj (f.printable_figureRows a) (f.printable_figureRows b) (by decide) hlist
  obtain ⟨hlatencies, -⟩ :=
    Row.texts_append_inj (f.printable_latencyRows a) (f.printable_latencyRows b) (by decide)
      (List.append_cancel_left hbehind)
  exact ⟨hfigures, hlatencies⟩

/-- the row about workers without a working client tells of how many clients they are, and is missing just if there are
none -/
theorem failedRows_inj (h : f.plain.failedRows a = f.plain.failedRows b) :
    a.failedWorkers = b.failedWorkers ∧ (0 < a.failedWorkers → a.numClients = b.numClients) := by
  rw [failedRows, failedRows] at h
  split_ifs at h with ha hb hb
  · have hvalue := (Row.mk.inj (List.cons.inj h).1).2
    rw [Painter.warning, Painter.warning, plain_paint, plain_paint] at hvalue
    obtain ⟨hworkers, hclients⟩ := count_append_inj (by decide) hvalue
    exact ⟨hworkers, fun _ => count_inj hclients⟩
  · have hzero : a.failedWorkers = b.failedWorkers := by
      rw [UInt64.lt_iff_toNat_lt, UInt64.toNat_zero] at ha hb
      rw [← UInt64.toNat_inj]
      omega
    exact ⟨hzero, fun hpos => absurd hpos ha⟩

end Formatter

/-- the figures of two results agree; the mean latency counts if there was a request, and the number of clients if some
of them failed -/
structure SameFigures (a b : Scenario.Result) : Prop where
  total : a.summary.total = b.summary.total
  successful : a.summary.successful = b.summary.successful
  failed : a.summary.failed = b.summary.failed
  timedOut : a.summary.timedOut = b.summary.timedOut
  minLatencyMs : a.summary.minLatencyMs = b.summary.minLatencyMs
  maxLatencyMs : a.summary.maxLatencyMs = b.summary.maxLatencyMs
  avgLatencyMs : a.summary.isEmpty = false → a.summary.avgLatencyMs = b.summary.avgLatencyMs
  failedWorkers : a.failedWorkers = b.failedWorkers
  numClients : 0 < a.failedWorkers → a.numClients = b.numClients

theorem SameFigures.of_rows {f : Formatter} {a b : Scenario.Result}
    (hfigures : f.plain.figureRows a = f.plain.figureRows b)
    (hlatencies : f.plain.latencyRows a = f.plain.latencyRows b) : SameFigures a b := by
  unfold Formatter.figureRows at hfigures
  unfold Formatter.latencyRows at hlatencies
  simp only [List.cons_append, List.nil_append, List.cons.injEq, Row.mk.injEq, true_and, and_true]
    at hfigures hlatencies
  obtain ⟨htotal, hsuccessful, hfailed, htimeouts, hrest⟩ := hfigures
  obtain ⟨havg, hmin, hmax⟩ := hlatencies
  have hshare (n : UInt64) (rate : String) :
      Formatter.count n ++ " (" ++ rate ++ ")" = Formatter.count n ++ " (" ++ (rate ++ ")") :=
    String.append_assoc
  rw [hshare, hshare] at hsuccessful
  obtain ⟨hworkers, hclients⟩ := Formatter.failedRows_inj (List.append_inj_left' hrest (by simp))
  have hmean := Formatter.latency_inj f havg
  exact {
    total := Formatter.count_inj htotal
    successful := (Formatter.count_append_inj (by decide) hsuccessful).1
    failed := Formatter.count_inj hfailed
    timedOut := Formatter.count_inj htimeouts
    minLatencyMs := Formatter.latency_inj f hmin
    maxLatencyMs := Formatter.latency_inj f hmax
    avgLatencyMs := by
      intro hrequests
      rw [if_neg (Bool.eq_false_iff.1 hrequests)] at hmean
      split_ifs at hmean
      exact Option.some.inj hmean
    failedWorkers := hworkers
    numClients := hclients }

/-- Whether it is coloured or not, a report tells how many requests there were, how many of them were successful, failed
and timed out, the least and the greatest latency, if any, and how many workers had no working client; where there was a
request, it tells the mean latency, and where a worker had no working client, of how many clients. Reports and banners
are made of rows, and in each row a blank at least stands between the label with its colon and the value. -/
theorem report_determines_figures (f : Formatter) :
    (∀ a b : Scenario.Result, f.report a = f.report b → SameFigures a b) ∧
    (∀ r : Scenario.Result, f.report r = "\n" ++ f.boxed "Load Test Report" ++ "\n" ++ Row.texts (f.figureRows r)
      ++ "\nLatency Statistics:\n" ++ Row.texts (f.latencyRows r) ++ f.painter.border Formatter.rule) ∧
    (∀ p : Plan, f.banner p = "\n" ++ f.boxed "Starting Load Test" ++ "\n" ++ Row.texts (f.bannerRows p)
      ++ f.painter.border Formatter.rule) ∧
    ∀ row : Row, ∃ blanks : Nat,
      row.text = row.label ++ ":" ++ String.ofList (List.replicate (blanks + 1) ' ') ++ row.value ++ "\n" := by
  refine ⟨fun a b h => ?_, f.report_eq, f.banner_eq, fun row => ⟨row.gap - 1, ?_⟩⟩
  · obtain ⟨hfigures, hlatencies⟩ := Formatter.rows_of_report (Formatter.plain_report_eq h)
    exact .of_rows hfigures hlatencies
  · rw [Nat.sub_add_cancel row.gap_pos]
    exact row.text_eq

/-- four requests of five clients, two of which failed -/
def fewClients : Scenario.Result where
  runId := ⟨0⟩
  label := "Light Load"
  numClients := 5
  failedWorkers := 2
  summary := {
    total := 4
    successful := 3
    failed := 1
    timedOut := 0
    latencySumMs := 100
    minLatencyMs := some 10
    maxLatencyMs := some 40
    duration := .ofMillis 2000 }
  passed := false

/-- a report says nothing about the label, and nothing about the remainder of the mean -/
theorem fewClients_relabelled :
    let f : Formatter := { painter := ⟨true, true⟩ }
    let other : Scenario.Result :=
      { fewClients with label := "Stress", summary := { fewClients.summary with latencySumMs := 103 } }
    fewClients ≠ other ∧ f.report fewClients = f.report other ∧ SameFigures fewClients other ∧
      fewClients.summary.avgLatencyMs = other.summary.avgLatencyMs ∧ fewClients.numClients = other.numClients := by
  intro f other
  have hmean : fewClients.summary.avgLatencyMs = other.summary.avgLatencyMs := by decide
  have hreport : f.report fewClients = f.report other := by
    unfold Formatter.report
    dsimp only
    rw [hmean]
    rfl
  have hsame := (report_determines_figures f).1 fewClients other hreport
  exact ⟨by decide, hreport, hsame, hsame.avgLatencyMs rfl, hsame.numClients (by decide)⟩

end LoadTrial.Console
