/-
What a command line says.

A command line is a list of words; `occurrences` takes it apart into the arguments that are written there, each with its
text, and knows nothing of values and refusals. A command line that is read holds just what is written there: what one
argument adds is `Holds.supply`, what one word adds `Progress.Reads.word`, and by induction over the words `holds_words`
says it of the whole. So the arguments of a command line that is accepted are known from its occurrences
(`accepts_of_parse`), and none of them excludes another.
-/
import Mathlib.Tactic
import LoadTrial.CommandLine.Parser
import LoadTrial.Proofs.Precedence

namespace LoadTrial

namespace CommandLine

/-! ## Words -/

/-- the text behind an equals sign -/
def behindEquals (body : List Char) : Option String :=
  (body.dropWhile (· != '=')).tail?.map String.ofList

/-- what a word says that begins an argument: which one, and the text of it that is in the word itself; an argument
without a value has an empty text -/
def opening? (w : String) : Option (Argument × Option String) :=
  match w.toList with
  | '-' :: '-' :: body =>
    (Argument.ofLong? (String.ofList (body.takeWhile (· != '=')))).map fun a =>
      (a, if a.takesValue then behindEquals body else some "")
  | '-' :: c :: rest =>
    (Argument.ofShort? c).map fun a => (a, if a.takesValue then Progress.attachedTo rest else some "")
  | _ => none

theorem opening?_long {w : String} {body : List Char} (h : w.toList = '-' :: '-' :: body) : opening? w =
    (Argument.ofLong? (String.ofList (body.takeWhile (· != '=')))).map fun a =>
      (a, if a.takesValue then behindEquals body else some "") := by
  rw [opening?, h]
  rfl

theorem opening?_short {w : String} {c : Char} {rest : List Char} (h : w.toList = '-' :: c :: rest)
    (hc : c ≠ '-') : opening? w =
      (Argument.ofShort? c).map fun a => (a, if a.takesValue then Progress.attachedTo rest else some "") := by
  rw [opening?, h]
  split
  · rename_i heq
    cases heq
    exact absurd rfl hc
  · rename_i heq
    cases heq
    rfl
  · rename_i hnot
    exact absurd rfl (hnot c rest)

/-- the arguments that are written in some words, in order, each with its text: the one in its own word or, if there is
none, the next word -/
def occurrences : List String → List (Argument × String)
  | [] => []
  | [w] => match opening? w with
    | some (a, some text) => [(a, text)]
    | _ => []
  | w :: next :: rest => match opening? w with
    | some (a, some text) => (a, text) :: occurrences (next :: rest)
    | some (a, none) => (a, next) :: occurrences rest
    | none => occurrences (next :: rest)

/-- the texts of an argument, in order -/
def textsOf (a : Argument) (written : List (Argument × String)) : List String :=
  (written.filter (·.1 == a)).map (·.2)

example : occurrences ["--clients", "3", "-t5", "--url=http://[::1]", "--json", "--requests=4"] =
    [(.clients, "3"), (.timeout, "5"), (.url, "http://[::1]"), (.json, ""), (.requests, "4")] := by
  decide +kernel

variable {written : List (Argument × String)} {a b : Argument} {text : String}

theorem textsOf_concat : textsOf b (written ++ [(a, text)]) = textsOf b written ++ if a = b then [text] else [] := by
  rw [textsOf, List.filter_append, List.map_append]
  congr 1
  by_cases h : a = b <;> simp [h]

end CommandLine

/-! ## Values -/

namespace Argument

variable {a b : Argument} {text : String} {texts : List String} {args args' : Arguments}

/-- the arguments hold the values that the texts of one of them are read as: all of them if it may be given more than
once, and else the only one -/
def Tells (b : Argument) (texts : List String) (args : Arguments) : Prop :=
  match b with
  | .url => texts = args.url.toList
  | .caCert => texts.map readPath = args.caCert.toList.map .ok
  | .clientCert => texts.map readPath = args.clientCert.toList.map .ok
  | .clientKey => texts.map readPath = args.clientKey.toList.map .ok
  | .coordinatorId => texts = args.coordinatorId.toList
  | .keyId => texts = args.keyId.toList
  | .scenario => texts.map (readChoice Preset.ofName?) = args.scenarios.map .ok
  | .clients => texts.map readCount = args.clients.toList.map .ok
  | .requests => texts.map readCount = args.requests.toList.map .ok
  | .delayMs => texts.map readCount = args.delayMs.toList.map .ok
  | .poolSize => texts.map readCount = args.poolSize.toList.map .ok
  | .timeout => texts.map readTimeout = args.timeout.toList.map .ok
  | .threshold => texts.map readThreshold = args.threshold.toList.map .ok
  | .emptyPolicy => texts.map (readChoice policyOfName?) = args.emptyPolicy.toList.map .ok
  | .logFormat => texts = args.logFormat.toList
  | .initEnv => texts.map readPath = args.initEnv.toList.map .ok
  | .json => args.json = !texts.isEmpty
  | .noColor => args.noColor = !texts.isEmpty
  | .verbose => args.verbose = !texts.isEmpty
  | .debug => args.debug = !texts.isEmpty
  | .envHelp => args.envHelp = !texts.isEmpty
  | .help | .version => True

theorem tells_nil (b : Argument) : b.Tells [] {} := by
  cases b <;> first | rfl | exact trivial

/-- an argument has its value in a place of its own -/
theorem tells_of_ne (h : a.store text args = .ok args') (hne : b ≠ a) (htells : b.Tells texts args) :
    b.Tells texts args' := by
  cases a with
  | caCert | clientCert | clientKey | scenario | clients | requests | delayMs | poolSize | timeout | threshold
    | emptyPolicy | initEnv =>
    rw [store] at h
    obtain ⟨value, -, rfl⟩ := map_eq_ok h
    cases b <;> first | exact absurd rfl hne | exact htells
  | _ =>
    cases h
    cases b <;> first | exact absurd rfl hne | exact htells

/-- an argument that is taken up has the value that its text is read as -/
theorem tells_store (h : a.store text args = .ok args') (htells : a.Tells texts args)
    (hnew : texts = [] ∨ a.isRepeatable = true) : a.Tells (texts ++ [text]) args' := by
  cases a with
  | scenario =>
    rw [store] at h
    obtain ⟨preset, hread, rfl⟩ := map_eq_ok h
    have hbefore : texts.map (readChoice Preset.ofName?) = args.scenarios.map .ok := htells
    simp [Tells, hbefore, hread]
  | caCert | clientCert | clientKey | clients | requests | delayMs | poolSize | timeout | threshold | emptyPolicy
    | initEnv =>
    obtain rfl := hnew.resolve_right (by decide)
    rw [store] at h
    obtain ⟨value, hread, rfl⟩ := map_eq_ok h
    simp [Tells, hread]
  | _ =>
    obtain rfl := hnew.resolve_right (by decide)
    cases h
    first | rfl | exact trivial

end Argument

/-! ## Reading words -/

namespace CommandLine

variable {a : Argument} {text w : String} {written : List (Argument × String)} {p p' : Progress}

/-- what has been read holds what is written, the argument that is waited for apart -/
structure Progress.Holds (p : Progress) (written : List (Argument × String)) : Prop where
  given : ∀ a, a ∈ p.given ↔ textsOf a written ≠ []
  tells : ∀ a : Argument, a.Tells (textsOf a written) p.values

theorem Progress.holds_start : Progress.Holds {} [] :=
  ⟨fun _ => iff_of_false List.not_mem_nil (not_not.2 rfl), Argument.tells_nil⟩

/-- an argument that is taken up is one more that is written -/
theorem Progress.Holds.supply (h : p.Holds written) (hsupply : p.supply a text = .ok p') :
    p'.Holds (written ++ [(a, text)]) ∧ p'.pending = p.pending := by
  have hrepeated : ¬(p.given.contains a && !a.isRepeatable) = true := by
    intro hrepeated
    rw [Progress.supply, if_pos hrepeated] at hsupply
    cases hsupply
  rw [Progress.supply, if_neg hrepeated] at hsupply
  rcases hstore : a.store text p.values with fault | values
  · rw [hstore] at hsupply
    cases fault <;> cases hsupply
  · rw [hstore] at hsupply
    cases hsupply
    have hnew : textsOf a written = [] ∨ a.isRepeatable = true := by
      simp only [Bool.and_eq_true, Bool.not_eq_true', not_and, Bool.not_eq_false, List.contains_iff_mem] at hrepeated
      by_cases hgiven : a ∈ p.given
      · exact .inr (hrepeated hgiven)
      · exact .inl (not_not.1 fun hne => hgiven ((h.given a).2 hne))
    refine ⟨⟨fun b => ?_, fun b => ?_⟩, rfl⟩
    · have hmem : b ∈ (if p.given.contains a then p.given else p.given ++ [a]) ↔ b ∈ p.given ∨ a = b := by
        split_ifs with hgiven
        · rw [List.contains_iff_mem] at hgiven
          exact ⟨.inl, fun hb => hb.elim id fun hab => hab ▸ hgiven⟩
        · rw [List.mem_append, List.mem_singleton, eq_comm]
      rw [textsOf_concat, hmem, h.given]
      by_cases hb : a = b <;> simp [hb]
    · rw [textsOf_concat]
      by_cases hb : a = b
      · subst hb
        rw [if_pos rfl]
        exact Argument.tells_store hstore (h.tells a) hnew
      · rw [if_neg hb, List.append_nil]
        exact Argument.tells_of_ne hstore (Ne.symm hb) (h.tells b)

/-- what has been read is what is written, and no value is waited for; the last one may not have been looked at -/
def Progress.Reads (p : Progress) (written : List (Argument × String)) : Prop :=
  match p.pending with
  | none => p.Holds written
  | some ⟨a, some text⟩ => ∃ front, written = front ++ [(a, text)] ∧ p.Holds front
  | some ⟨_, none⟩ => False

/-- an argument has been begun: its text is there, or waited for -/
def Progress.Begins (p : Progress) (written : List (Argument × String)) (a : Argument) (attached : Option String) : Prop :=
  match attached with
  | some text => p.Reads (written ++ [(a, text)])
  | none => p.pending = some ⟨a, none⟩ ∧ p.Holds written

theorem Progress.Reads.settle (h : p.Reads written) (hsettle : p.settle = .ok p') :
    p'.Holds written ∧ p'.pending = none := by
  rw [Progress.settle] at hsettle
  rw [Progress.Reads] at h
  rcases hpending : p.pending with _ | ⟨a, _ | text⟩
  · rw [hpending] at h hsettle
    cases hsettle
    exact ⟨h, hpending⟩
  · rw [hpending] at h
    exact h.elim
  · rw [hpending] at h hsettle
    obtain ⟨front, rfl, hholds⟩ := h
    have hstored : Progress.Holds { p with pending := none } front := ⟨hholds.given, hholds.tells⟩
    exact hstored.supply hsettle

theorem Progress.Holds.reads (h : p.Holds written) (hpending : p.pending = none) : p.Reads written := by
  rw [Progress.Reads, hpending]
  exact h

theorem Progress.Reads.switch {long : Bool} (h : p.Reads written) (hswitch : p.switch a long = .ok p') :
    p'.Reads (written ++ [(a, "")]) ∧ a ≠ .help ∧ a ≠ .version := by
  obtain ⟨q, hsettle, hrest⟩ := bind_eq_ok hswitch
  obtain ⟨hholds, hpending⟩ := h.settle hsettle
  cases a with
  | help | version => cases hrest
  | _ =>
    obtain ⟨hholds', hpending'⟩ := hholds.supply hrest
    exact ⟨hholds'.reads (hpending'.trans hpending), nofun, nofun⟩

theorem Progress.Reads.withValue {attached : Option String} (h : p.Reads written)
    (hvalue : p.withValue a attached = .ok p') : p'.Begins written a attached := by
  obtain ⟨q, hsettle, hrest⟩ := bind_eq_ok hvalue
  obtain ⟨hholds, hpending⟩ := h.settle hsettle
  cases attached with
  | some text =>
    obtain ⟨hholds', hpending'⟩ := hholds.supply hrest
    exact hholds'.reads (hpending'.trans hpending)
  | none =>
    cases hrest
    exact ⟨rfl, hholds.given, hholds.tells⟩

/-- only the arguments that end the reading have a letter and no value -/
theorem takesValue_of_ofShort? {c : Char} (h : Argument.ofShort? c = some a) (hhelp : a ≠ .help)
    (hversion : a ≠ .version) : a.takesValue = true := by
  have hletter : a.short? = some c := by simpa using List.find?_some h
  cases a with
  | timeout => rfl
  | help => exact absurd rfl hhelp
  | version => exact absurd rfl hversion
  | _ => cases hletter

theorem Progress.longWord_eq (p : Progress) (body : List Char) : p.longWord (String.ofList body) =
    match Argument.ofLong? (String.ofList (body.takeWhile (· != '='))) with
    | none => .error (.unexpected ("--" ++ String.ofList (body.takeWhile (· != '='))) p.givenNow)
    | some a =>
      if a.takesValue then p.withValue a (behindEquals body)
      else match behindEquals body with
        | some value => .error (.unneededValue a value p.givenNow)
        | none => p.switch a true := by
  rw [Progress.longWord, String.toList_ofList, behindEquals]
  cases body.dropWhile (· != '=') <;> rfl

/-- a word that is read begins an argument -/
theorem Progress.Reads.word (h : p.Reads written) (hword : p.word w = .ok p') :
    ∃ a attached, opening? w = some (a, attached) ∧ p'.Begins written a attached := by
  rw [Progress.word] at hword
  split at hword
  · rename_i body hw
    rw [opening?_long hw]
    rw [Progress.longWord_eq] at hword
    rcases hname : Argument.ofLong? (String.ofList (body.takeWhile (· != '='))) with _ | a
    · rw [hname] at hword
      cases hword
    · rw [hname] at hword
      dsimp only at hword
      refine ⟨a, _, rfl, ?_⟩
      split_ifs at hword ⊢ with htakes
      · exact h.withValue hword
      · split at hword
        · cases hword
        · exact (h.switch hword).1
  · rename_i c rest hne hw
    rw [opening?_short hw fun hc => hne hc]
    rw [Progress.shortWord] at hword
    rcases hletter : Argument.ofShort? c with _ | a
    · rw [hletter] at hword
      cases hword
    · rw [hletter] at hword
      dsimp only at hword
      have htakes : a.takesValue = true := by
        by_contra hnot
        rw [if_neg hnot] at hword
        obtain ⟨q, hswitch, -⟩ := bind_eq_ok hword
        obtain ⟨-, hhelp, hversion⟩ := h.switch hswitch
        exact hnot (takesValue_of_ofShort? hletter hhelp hversion)
      rw [if_pos htakes] at hword
      exact ⟨a, Progress.attachedTo rest, by rw [Option.map_some, if_pos htakes], h.withValue hword⟩
  · rw [Progress.plainWord] at hword
    rw [Progress.Reads] at h
    split at hword
    · rename_i a hpending
      rw [hpending] at h
      exact h.elim
    · cases hword

theorem Progress.settle_ne_ok (hpending : p.pending = some ⟨a, none⟩) : p.settle ≠ .ok p' := by
  rw [Progress.settle, hpending]
  nofun

/-- the word behind an argument that waits for its value is the value -/
theorem Progress.Holds.word (h : p.Holds written) (hpending : p.pending = some ⟨a, none⟩) (hword : p.word w = .ok p') :
    p'.Reads (written ++ [(a, w)]) := by
  have hvalue {b : Argument} {attached : Option String} : p.withValue b attached ≠ .ok p' := by
    intro hvalue
    obtain ⟨q, hsettle, -⟩ := bind_eq_ok hvalue
    exact Progress.settle_ne_ok hpending hsettle
  have hswitch {b : Argument} {long : Bool} {q : Progress} : p.switch b long ≠ .ok q := by
    intro hswitch
    obtain ⟨q, hsettle, -⟩ := bind_eq_ok hswitch
    exact Progress.settle_ne_ok hpending hsettle
  rw [Progress.word] at hword
  split at hword
  · rw [Progress.longWord_eq] at hword
    split at hword
    · cases hword
    · split_ifs at hword
      · exact absurd hword hvalue
      · split at hword
        · cases hword
        · exact absurd hword hswitch
  · rw [Progress.shortWord] at hword
    split at hword
    · cases hword
    · split_ifs at hword
      · exact absurd hword hvalue
      · obtain ⟨q, hq, -⟩ := bind_eq_ok hword
        exact absurd hq hswitch
  · rw [Progress.plainWord, hpending] at hword
    cases hword
    exact ⟨written, rfl, h.given, h.tells⟩

theorem Progress.words_cons {rest : List String} (h : p.words (w :: rest) = .ok p') :
    (w = "--" ∧ rest = [] ∧ p.settle = .ok p') ∨ ∃ q, p.word w = .ok q ∧ q.words rest = .ok p' := by
  rw [Progress.words.eq_def] at h
  dsimp only at h
  split_ifs at h with hdashes
  · cases rest with
    | nil => exact .inl ⟨by simpa using hdashes, rfl, h⟩
    | cons next rest => cases h
  · exact .inr (bind_eq_ok h)

theorem opening?_dashes : opening? "--" = none := by
  decide +kernel

/-- words that are read hold what is written in them -/
theorem holds_words {ws : List String} (h : p.Reads written) (hwords : p.words ws = .ok p') :
    p'.Holds (written ++ occurrences ws) := by
  fun_induction occurrences ws generalizing p written with
  | case1 =>
    rw [List.append_nil]
    exact (h.settle hwords).1
  | case2 w a text hopening =>
    obtain ⟨rfl, -, -⟩ | ⟨q, hword, hrest⟩ := Progress.words_cons hwords
    · rw [opening?_dashes] at hopening
      cases hopening
    · obtain ⟨a', attached, hopening', hbegins⟩ := h.word hword
      rw [hopening] at hopening'
      cases hopening'
      exact (Progress.Reads.settle hbegins hrest).1
  | case3 w hopening =>
    rw [List.append_nil]
    obtain ⟨-, -, hsettle⟩ | ⟨q, hword, hrest⟩ := Progress.words_cons hwords
    · exact (h.settle hsettle).1
    · obtain ⟨a, attached, hopening', hbegins⟩ := h.word hword
      cases attached with
      | some text => exact absurd hopening' (hopening a text)
      | none => exact absurd hrest (Progress.settle_ne_ok hbegins.1)
  | case4 w next rest a text hopening ih =>
    obtain ⟨-, hnil, -⟩ | ⟨q, hword, hrest⟩ := Progress.words_cons hwords
    · cases hnil
    · obtain ⟨a', attached, hopening', hbegins⟩ := h.word hword
      rw [hopening] at hopening'
      cases hopening'
      rw [List.append_cons]
      exact ih hbegins hrest
  | case5 w next rest a hopening ih =>
    obtain ⟨-, hnil, -⟩ | ⟨q, hword, hrest⟩ := Progress.words_cons hwords
    · cases hnil
    · obtain ⟨a', attached, hopening', hbegins⟩ := h.word hword
      rw [hopening] at hopening'
      cases hopening'
      obtain ⟨hpending, hholds⟩ := hbegins
      obtain ⟨-, -, hsettle⟩ | ⟨r, hnext, hrest⟩ := Progress.words_cons hrest
      · exact absurd hsettle (Progress.settle_ne_ok hpending)
      · rw [List.append_cons]
        exact ih (hholds.word hpending hnext) hrest
  | case6 w next rest hopening ih =>
    obtain ⟨-, hnil, -⟩ | ⟨q, hword, -⟩ := Progress.words_cons hwords
    · cases hnil
    · obtain ⟨a, attached, hopening', -⟩ := h.word hword
      rw [hopening] at hopening'
      cases hopening'

/-! ## Whole command lines -/

variable {env : Environment} {argv : List String} {args : Arguments}

/-- an argument is written on a command line -/
def Gives (argv : List String) (a : Argument) : Prop :=
  textsOf a (occurrences argv) ≠ []

instance (argv : List String) (a : Argument) : Decidable (Gives argv a) :=
  inferInstanceAs (Decidable (_ ≠ _))

/-- a command line that is accepted: what is written in it, and no two arguments that exclude each other -/
structure Accepts (argv : List String) (args : Arguments) : Prop where
  tells : ∀ a : Argument, a ≠ .logFormat → a.Tells (textsOf a (occurrences argv)) args
  compatible : ∀ a b : Argument, Gives argv a → Gives argv b → a.excludes b = false

theorem Progress.excludes_of_conflict? (p : Progress) (h : p.conflict? = none) {a b : Argument} (ha : a ∈ p.given)
    (hb : b ∈ p.given) : a.excludes b = false := by
  have hnone := List.find?_eq_none.1 h (a, p.given.filter a.excludes) (List.mem_map_of_mem ha)
  simp only [Bool.not_eq_true', Bool.not_eq_false, List.isEmpty_iff] at hnone
  simpa using List.filter_eq_nil_iff.1 hnone b hb

theorem accepts_of_parse (h : parse env argv = .ok args) : Accepts argv args := by
  obtain ⟨p, hwords, hrest⟩ := bind_eq_ok h
  have hholds : p.Holds (occurrences argv) := holds_words (Progress.holds_start.reads rfl) hwords
  rcases hconflict : p.conflict? with _ | ⟨a, others⟩
  · rw [hconflict] at hrest
    cases hrest
    refine ⟨fun a ha => ?_, fun a b ha hb => ?_⟩
    · have htells := hholds.tells a
      cases a <;> first | exact absurd rfl ha | exact htells
    · exact p.excludes_of_conflict? hconflict ((hholds.given a).2 ha) ((hholds.given b).2 hb)
  · rw [hconflict] at hrest
    cases hrest

end CommandLine

end LoadTrial
