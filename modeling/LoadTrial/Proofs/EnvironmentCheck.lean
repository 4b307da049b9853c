/-
The check of an environment, and loading from it.

The check looks at each variable that is set, by itself. Loading merges all of them into the built-in settings and
checks what comes out; as the built-in settings are valid (`valid_builtin`), it succeeds just if each variable that is
set has a text that serves (`starts_iff`). So check and loading can be compared variable by variable, and they part in
two places: the check does not look at the scheme of the coordinator's URL, and loading takes a blank path.

Main result: `check_agrees`, with the witness `blank_name_refused`.
-/
import Mathlib.Tactic
import LoadTrial.Proofs.FirstFault
import LoadTrial.Proofs.PartialMerge
import LoadTrial.Proofs.Url.AsciiName

namespace LoadTrial

/-- a text without its blanks at the ends holds blanks only if it is empty -/
theorem Text.forall_isBlank_trim_iff {s : String} : (∀ c ∈ (trim s).toList, isBlank c = true) ↔ trim s = "" := by
  constructor
  · intro h
    rw [trim, String.toList_ofList, trimList, dropTail] at h
    rw [trim, trimList, dropTail]
    cases hrest : (s.toList.dropWhile isBlank).reverse.dropWhile isBlank with
    | nil => rfl
    | cons c rest =>
      have hfirst : isBlank c = false :=
        Url.head_dropWhile isBlank (s.toList.dropWhile isBlank).reverse c (by rw [hrest]; rfl)
      rw [hrest] at h
      exact absurd (h c (by simp)) (by simp [hfirst])
  · intro h
    simp [h]

namespace Variable

/-! ## Texts of one variable -/

/-- settings can be loaded with a text of a variable -/
def Serves (v : Variable) (text : String) : Prop :=
  match v with
  | .coordinatorUrl => ∃ url, Url.parse (Text.trim text) = .ok url ∧ (url.scheme = "https" ∨ url.scheme = "http")
  | .coordinatorId => ∃ c ∈ text.toList, Text.isBlank c = false
  | .successThreshold => ∃ x, Number.Binary64.ofText (Text.trim text).toList = .ok x ∧ x.IsShare
  | .emptyScenarioPolicy => Text.lower (Text.trim text) ∈ ["pass", "fail"]
  | .enableColor => Text.trim text ∈ ["true", "false"]
  | .logFormat => ∃ format, LogFormat.read text = .ok format
  | .caCertPath | .clientCertPath | .clientKeyPath => True

/-- a URL that can be read, but not one of HTTP -/
def IsForeignUrl (v : Variable) (text : String) : Prop :=
  v = .coordinatorUrl ∧
    ∃ url, Url.parse (Text.trim text) = .ok url ∧ url.scheme ≠ "https" ∧ url.scheme ≠ "http"

/-- a path of trust material with nothing but blanks in it -/
def IsBlankPath (v : Variable) (text : String) : Prop :=
  v ∈ [.caCertPath, .clientCertPath, .clientKeyPath] ∧ ∀ c ∈ text.toList, Text.isBlank c = true

variable {v : Variable} {text : String} {env : Environment}

theorem checkNotBlank_eq_ok_iff {name : String} :
    checkNotBlank name text = .ok () ↔ ∃ c ∈ text.toList, Text.isBlank c = false := by
  rw [checkNotBlank]
  split_ifs with h
  · rw [String.isEmpty_iff, Text.trim_eq_empty_iff] at h
    simpa using h
  · rw [String.isEmpty_iff, Text.trim_eq_empty_iff] at h
    simpa using h

/-- a text that serves is not refused by merging -/
theorem Serves.not_refuses (h : v.Serves text) : ¬v.Refuses text := by
  cases v with
  | successThreshold =>
    obtain ⟨x, hx, -⟩ := h
    rintro ⟨why, hwhy⟩
    cases hx.symm.trans hwhy
  | emptyScenarioPolicy | enableColor => exact not_not_intro h
  | _ => exact id

theorem checkPolicy_eq_ok_iff : emptyScenarioPolicy.check text = .ok () ↔ emptyScenarioPolicy.Serves text := by
  rw [check, EmptyPolicy.read, Serves]
  simp only [beq_iff_eq, List.mem_cons, List.not_mem_nil, or_false]
  split_ifs with hpass hfail
  · exact iff_of_true rfl (.inl hpass)
  · exact iff_of_true rfl (.inr hfail)
  · simp [Except.map, hpass, hfail]

theorem checkColor_eq_ok_iff : enableColor.check text = .ok () ↔ enableColor.Serves text := by
  rw [check, readBool, Serves]
  simp only [beq_iff_eq, List.mem_cons, List.not_mem_nil, or_false]
  split_ifs with htrue hfalse
  · exact iff_of_true rfl (.inl htrue)
  · exact iff_of_true rfl (.inr hfalse)
  · simp [Except.map, htrue, hfalse]

theorem checkFormat_eq_ok_iff : logFormat.check text = .ok () ↔ logFormat.Serves text := by
  rw [check, Serves]
  cases LogFormat.read text with
  | ok format => exact iff_of_true rfl ⟨format, rfl⟩
  | error f => simp [Except.map]

theorem checkThreshold_eq_ok_iff : successThreshold.check text = .ok () ↔ successThreshold.Serves text := by
  rw [check, readNumber, Serves]
  cases Number.Binary64.ofText (Text.trim text).toList with
  | error why => simp
  | ok x =>
    simp only [Except.ok.injEq, exists_eq_left', ← Number.Binary64.isPercentage_iff]
    split_ifs with hshare
    · exact iff_of_true rfl hshare
    · simp [hshare]

theorem checkUrl_eq_ok_iff : coordinatorUrl.check text = .ok () ↔ ∃ url, Url.parse (Text.trim text) = .ok url := by
  rw [check]
  cases Url.parse (Text.trim text) with
  | ok url => exact iff_of_true rfl ⟨url, rfl⟩
  | error fault => simp

theorem not_isForeignUrl (hv : v ≠ .coordinatorUrl) : ¬v.IsForeignUrl text :=
  fun h => hv h.1

theorem not_isBlankPath (hv : v ∉ [.caCertPath, .clientCertPath, .clientKeyPath]) : ¬v.IsBlankPath text :=
  fun h => hv h.1

/-- what the check takes serves, a URL of another scheme excepted -/
theorem serves_iff_of_check (h : v.check text = .ok ()) : v.Serves text ↔ ¬v.IsForeignUrl text := by
  cases v with
  | coordinatorUrl =>
    obtain ⟨url, hurl⟩ := checkUrl_eq_ok_iff.1 h
    simp only [Serves, IsForeignUrl, hurl, Except.ok.injEq, exists_eq_left', true_and]
    exact or_iff_not_and_not
  | coordinatorId => exact iff_of_true (checkNotBlank_eq_ok_iff.1 h) (not_isForeignUrl (by decide))
  | successThreshold => exact iff_of_true (checkThreshold_eq_ok_iff.1 h) (not_isForeignUrl (by decide))
  | emptyScenarioPolicy => exact iff_of_true (checkPolicy_eq_ok_iff.1 h) (not_isForeignUrl (by decide))
  | enableColor => exact iff_of_true (checkColor_eq_ok_iff.1 h) (not_isForeignUrl (by decide))
  | logFormat => exact iff_of_true (checkFormat_eq_ok_iff.1 h) (not_isForeignUrl (by decide))
  | caCertPath | clientCertPath | clientKeyPath => exact iff_of_true trivial (not_isForeignUrl (by decide))

/-- the check takes what serves, a blank path excepted -/
theorem check_iff_of_serves (h : v.Serves text) : v.check text = .ok () ↔ ¬v.IsBlankPath text := by
  cases v with
  | coordinatorUrl =>
    obtain ⟨url, hurl, -⟩ := h
    exact iff_of_true (checkUrl_eq_ok_iff.2 ⟨url, hurl⟩) (not_isBlankPath (by decide))
  | coordinatorId => exact iff_of_true (checkNotBlank_eq_ok_iff.2 h) (not_isBlankPath (by decide))
  | successThreshold => exact iff_of_true (checkThreshold_eq_ok_iff.2 h) (not_isBlankPath (by decide))
  | emptyScenarioPolicy => exact iff_of_true (checkPolicy_eq_ok_iff.2 h) (not_isBlankPath (by decide))
  | enableColor => exact iff_of_true (checkColor_eq_ok_iff.2 h) (not_isBlankPath (by decide))
  | logFormat => exact iff_of_true (checkFormat_eq_ok_iff.2 h) (not_isBlankPath (by decide))
  | caCertPath | clientCertPath | clientKeyPath =>
    change checkNotBlank _ text = .ok () ↔ _
    rw [checkNotBlank_eq_ok_iff]
    simp [IsBlankPath]

/-! ## The check of an environment -/

/-- nothing is complained about just if each variable that is set passes its check -/
theorem complaints_eq_nil_iff :
    complaints env = [] ↔ ∀ v : Variable, ∀ text ∈ env.get? v.name, v.check text = .ok () := by
  rw [complaints, List.map_eq_nil_iff, failures, List.filterMap_eq_nil_iff]
  refine forall_congr' fun v => ?_
  rw [forall_prop_of_true (mem_all v)]
  cases env.get? v.name with
  | none => exact iff_of_true rfl nofun
  | some text =>
    simp only [Option.mem_def, Option.some.injEq, forall_eq']
    cases v.check text with
    | ok _ => exact iff_of_true rfl rfl
    | error f => exact iff_of_false nofun nofun

end Variable

namespace Settings

/-! ## Loading from an environment -/

/-- the built-in settings are valid -/
theorem valid_builtin : builtin.Valid := by
  obtain ⟨url, hurl, hscheme⟩ := Url.parse_loopback
  have hthreshold : builtin.successThreshold.IsShare := by
    have hdefault : builtin.successThreshold = .ofNat 99 := by rw [builtin]
    rw [hdefault, Number.Binary64.ofNat_eq (by norm_num)]
    exact ⟨false, _, rfl, Int.natCast_nonneg _, Int.ofNat_le.2 (Nat.mul_le_mul_right _ (by norm_num))⟩
  exact {
    url := checkUrl_eq_ok_iff.2 ⟨url, hurl, .inl hscheme⟩
    coordinatorId := by decide
    threshold := Number.Binary64.isPercentage_iff.2 hthreshold
    scenarios := by decide
    profile := by decide
    shards := by decide }

section Parts

variable {text : Option String} {s : Settings}

/-- the parts of settings that variables decide are valid just if the texts of these serve -/
theorem checkUrl_iff_serves (h : Variable.coordinatorUrl.Decides text builtin s) :
    checkUrl s.coordinatorUrl = .ok () ↔ ∀ t ∈ text, Variable.coordinatorUrl.Serves t := by
  cases text with
  | none =>
    have hurl : s.coordinatorUrl = builtin.coordinatorUrl := h
    rw [hurl]
    exact iff_of_true valid_builtin.url nofun
  | some t =>
    have hurl : Text.trim t = s.coordinatorUrl := Except.ok.inj h
    rw [← hurl, checkUrl_eq_ok_iff]
    simp [Variable.Serves]

theorem coordinatorId_iff_serves (h : Variable.coordinatorId.Decides text builtin s) :
    (Text.trim s.coordinatorId).isEmpty = false ↔ ∀ t ∈ text, Variable.coordinatorId.Serves t := by
  cases text with
  | none =>
    have hid : s.coordinatorId = builtin.coordinatorId := h
    rw [hid]
    exact iff_of_true valid_builtin.coordinatorId nofun
  | some t =>
    have hid : Text.trim t = s.coordinatorId := Except.ok.inj h
    rw [← hid, ← Bool.not_eq_true, String.isEmpty_iff, Text.trim_eq_empty_iff, Text.forall_isBlank_trim_iff,
      Text.trim_eq_empty_iff]
    simp [Variable.Serves]

theorem threshold_iff_serves (h : Variable.successThreshold.Decides text builtin s) :
    isPercentage s.successThreshold = true ↔ ∀ t ∈ text, Variable.successThreshold.Serves t := by
  cases text with
  | none =>
    have hthreshold : s.successThreshold = builtin.successThreshold := h
    rw [hthreshold]
    exact iff_of_true valid_builtin.threshold nofun
  | some t =>
    have hread : Variable.readNumber Variable.successThreshold.name t = .ok s.successThreshold := h
    have hnumber : Number.Binary64.ofText (Text.trim t).toList = .ok s.successThreshold := by
      rw [Variable.readNumber] at hread
      split at hread
      · rename_i hx
        cases hread
        exact hx
      · cases hread
    simp [Variable.Serves, hnumber, Number.Binary64.isPercentage_iff]

/-- the log format is read just if its text serves -/
theorem formatOver_iff_serves {builtIn : LogFormat} :
    (∃ format, formatOver { logFormat := text } builtIn = .ok format) ↔
      ∀ t ∈ text, Variable.logFormat.Serves t := by
  cases text with
  | none => exact iff_of_true ⟨builtIn, rfl⟩ nofun
  | some t => simp [formatOver, Variable.Serves]

end Parts

section Starting

variable {files : Files} {env : Environment} {args : Arguments} {merged : Settings}

/-- settings come out just if merging succeeds, and what the arguments make of it is valid -/
theorem exists_ofEnvironment_iff : (∃ s, ofEnvironment env args = .ok s) ↔
    (merge env builtin).2 = none ∧ ∃ s, (merge env builtin).1.override args = .ok s ∧ s.Valid := by
  constructor
  · rintro ⟨s, h⟩
    obtain ⟨hmerge, hoverride⟩ := override_of_ofEnvironment h
    rw [ofEnvironment] at h
    obtain ⟨gathered, -, hchecked⟩ := bind_eq_ok h
    exact ⟨hmerge, s, hoverride, validate_eq_ok_iff.1 (validate_of_checked hchecked)⟩
  · rintro ⟨hmerge, s, hoverride, hvalid⟩
    refine ⟨s, ?_⟩
    rw [ofEnvironment, gather_eq, hmerge]
    change (merge env builtin).1.override args >>= checked = .ok s
    rw [hoverride]
    change s.checked = .ok s
    rw [checked, validate_eq_ok_iff.2 hvalid]

/-- where no argument is given, three of the settings may be invalid -/
theorem valid_overridden_iff {texts : Variable → Option String} (h : Follows texts builtin merged)
    {text : Option String} {format : LogFormat} :
    (overridden { logFormat := text } format merged).Valid ↔ checkUrl merged.coordinatorUrl = .ok () ∧
      (Text.trim merged.coordinatorId).isEmpty = false ∧ isPercentage merged.successThreshold = true := by
  have hscenarios : (overridden { logFormat := text } format merged).scenarios = builtin.scenarios := h.scenarios
  constructor
  · intro hvalid
    exact ⟨hvalid.url, hvalid.coordinatorId, hvalid.threshold⟩
  · rintro ⟨hurl, hid, hthreshold⟩
    exact {
      url := hurl
      coordinatorId := hid
      threshold := hthreshold
      scenarios := hscenarios ▸ valid_builtin.scenarios
      profile := hscenarios ▸ valid_builtin.profile
      shards := by
        have hshards := valid_builtin.shards
        rwa [← h.payload] at hshards }

end Starting

end Settings

/-- a process that is given no arguments gets its settings -/
def Starts (files : Files) (env : Environment) : Prop :=
  ∃ s, configure files env [] = .ok (.ok s)

theorem CommandLine.parse_nil (env : Environment) :
    parse env [] = .ok { logFormat := env.get? Variable.logFormat.name } :=
  rfl

section Agreement

variable {files : Files} {env : Environment}

open Settings

/-- a process starts just if the text of each variable that is set serves -/
theorem starts_iff (hfile : files.contains EnvFile.defaultPath = false) :
    Starts files env ↔ ∀ v : Variable, ∀ text ∈ env.get? v.name, v.Serves text := by
  have hloads : Starts files env ↔
      ∃ s, ofEnvironment env { logFormat := env.get? Variable.logFormat.name } = .ok s := by
    refine exists_congr fun s => ?_
    rw [configure, CommandLine.parse_nil, Except.map, Except.ok.injEq, load_eq_ok_iff,
      EnvFile.load_eq_of_absent hfile]
    exact and_iff_right ⟨false, rfl⟩
  have hoverride (merged s : Settings) :
      merged.override { logFormat := env.get? Variable.logFormat.name } = .ok s ↔
        ∃ format, formatOver { logFormat := env.get? Variable.logFormat.name } merged.logFormat = .ok format ∧
          overridden { logFormat := env.get? Variable.logFormat.name } format merged = s := by
    rw [override_eq, show Arguments.validate { logFormat := env.get? Variable.logFormat.name } = .ok () from rfl]
    refine ⟨map_eq_ok, ?_⟩
    rintro ⟨format, hformat, rfl⟩
    dsimp only
    rw [hformat]
    rfl
  rw [hloads, exists_ofEnvironment_iff]
  constructor
  · rintro ⟨hmerge, s, hs, hvalid⟩
    obtain ⟨format, hformat, rfl⟩ := (hoverride _ s).1 hs
    have hfollows := follows_merge hmerge
    obtain ⟨hurl, hid, hthreshold⟩ := (valid_overridden_iff hfollows).1 hvalid
    have htaken (v : Variable) : ¬v.IsRefused env := merge_eq_none_iff.1 hmerge v
    intro v text htext
    cases v with
    | coordinatorUrl => exact (checkUrl_iff_serves (hfollows.decides .coordinatorUrl)).1 hurl text htext
    | coordinatorId => exact (coordinatorId_iff_serves (hfollows.decides .coordinatorId)).1 hid text htext
    | successThreshold => exact (threshold_iff_serves (hfollows.decides .successThreshold)).1 hthreshold text htext
    | emptyScenarioPolicy => exact not_not.1 fun hrefuses => htaken .emptyScenarioPolicy ⟨text, htext, hrefuses⟩
    | enableColor => exact not_not.1 fun hrefuses => htaken .enableColor ⟨text, htext, hrefuses⟩
    | logFormat => exact formatOver_iff_serves.1 ⟨format, hformat⟩ text htext
    | caCertPath | clientCertPath | clientKeyPath => exact trivial
  · intro hserves
    have hmerge : (merge env builtin).2 = none := by
      refine merge_eq_none_iff.2 fun v hrefused => ?_
      obtain ⟨text, htext, hrefuses⟩ := hrefused
      exact (hserves v text htext).not_refuses hrefuses
    have hfollows := follows_merge hmerge
    obtain ⟨format, hformat⟩ := formatOver_iff_serves.2 (hserves .logFormat)
    refine ⟨hmerge, _, (hoverride _ _).2 ⟨format, hformat, rfl⟩, (valid_overridden_iff hfollows).2 ⟨?_, ?_, ?_⟩⟩
    · exact (checkUrl_iff_serves (hfollows.decides .coordinatorUrl)).2 (hserves .coordinatorUrl)
    · exact (coordinatorId_iff_serves (hfollows.decides .coordinatorId)).2 (hserves .coordinatorId)
    · exact (threshold_iff_serves (hfollows.decides .successThreshold)).2 (hserves .successThreshold)

/-- some variable is set to a text with a property -/
def SomeText (env : Environment) (p : Variable → String → Prop) : Prop :=
  ∃ v : Variable, ∃ text ∈ env.get? v.name, p v text

/-- **The check agrees with loading, but for two kinds of texts.** There is no environment file, and a process is given
no arguments. What the check has nothing to say about, a process can start with, unless the coordinator's URL is one
that can be read but not one of HTTP; and where a process can start, the check has nothing to say, unless a path of
trust material is blank. So where no variable is set to such a text, the check takes just the environments that a
process can start with. -/
theorem check_agrees (hfile : files.contains EnvFile.defaultPath = false) :
    (¬SomeText env Variable.IsForeignUrl → ¬SomeText env Variable.IsBlankPath →
        (Variable.complaints env = [] ↔ Starts files env)) ∧
      (Variable.complaints env = [] → (Starts files env ↔ ¬SomeText env Variable.IsForeignUrl)) ∧
      (Starts files env → (Variable.complaints env = [] ↔ ¬SomeText env Variable.IsBlankPath)) := by
  have hforeign (h : Variable.complaints env = []) : Starts files env ↔ ¬SomeText env Variable.IsForeignUrl := by
    rw [Variable.complaints_eq_nil_iff] at h
    rw [starts_iff hfile, SomeText]
    push Not
    exact forall_congr' fun v => forall₂_congr fun text htext => Variable.serves_iff_of_check (h v text htext)
  have hblank (h : Starts files env) : Variable.complaints env = [] ↔ ¬SomeText env Variable.IsBlankPath := by
    rw [starts_iff hfile] at h
    rw [Variable.complaints_eq_nil_iff, SomeText]
    push Not
    exact forall_congr' fun v => forall₂_congr fun text htext => Variable.check_iff_of_serves (h v text htext)
  exact ⟨fun hnoForeign hnoBlank => ⟨fun h => (hforeign h).2 hnoForeign, fun h => (hblank h).2 hnoBlank⟩, hforeign,
    hblank⟩

/-- where only one variable is set, only that one has a text -/
theorem mem_get?_single {v w : Variable} {text other : String} :
    other ∈ (Environment.ofList [(v.name, text)]).get? w.name ↔ w = v ∧ other = text := by
  rw [Environment.get?_single]
  by_cases hw : w = v
  · subst hw
    simp [eq_comm]
  · simp [hw, Variable.name_ne hw]

theorem someText_single (v : Variable) (text : String) {p : Variable → String → Prop} :
    SomeText (.ofList [(v.name, text)]) p ↔ p v text := by
  simp only [SomeText, mem_get?_single]
  constructor
  · rintro ⟨w, other, ⟨rfl, rfl⟩, hp⟩
    exact hp
  · intro hp
    exact ⟨v, text, ⟨rfl, rfl⟩, hp⟩

/-- a blank name is complained about, and no process starts with it -/
theorem blank_name_refused :
    let env := Environment.ofList [("COORDINATOR_ID", "\t ")]
    Variable.complaints env = ["Warning: Configuration error: COORDINATOR_ID cannot be empty"] ∧
      ¬Starts .bare env := by
  intro env
  have hcomplaints : Variable.complaints env = ["Warning: Configuration error: COORDINATOR_ID cannot be empty"] := by
    decide
  have hforeign : ¬SomeText env Variable.IsForeignUrl := fun h =>
    Variable.not_isForeignUrl (by decide) ((someText_single .coordinatorId "\t ").1 h)
  have hblank : ¬SomeText env Variable.IsBlankPath := fun h =>
    Variable.not_isBlankPath (by decide) ((someText_single .coordinatorId "\t ").1 h)
  have hagree := (check_agrees (Files.contains_bare EnvFile.defaultPath)).1 hforeign hblank
  refine ⟨hcomplaints, fun hstarts => ?_⟩
  rw [hagree.2 hstarts] at hcomplaints
  cases hcomplaints

/-- a URL of another scheme passes the check, and no process starts with it; a blank path is complained about, and
processes start -/
theorem check_parts_from_loading :
    let foreign := Environment.ofList [("COORDINATOR_URL", "ftp://127.0.0.1:2121")]
    let blank := Environment.ofList [("CA_CERT_PATH", " ")]
    (Variable.complaints foreign = [] ∧ ¬Starts .bare foreign) ∧
      (Variable.complaints blank = ["Warning: Configuration error: CA_CERT_PATH cannot be empty"] ∧
        Starts .bare blank) := by
  intro foreign blank
  have hfile : Files.bare.contains EnvFile.defaultPath = false := Files.contains_bare _
  obtain ⟨url, hurl, hscheme⟩ : ∃ url, Url.parse "ftp://127.0.0.1:2121" = .ok url ∧ url.scheme = "ftp" := by
    have hsplit : Url.splitScheme (Url.significant "ftp://127.0.0.1:2121".toList) =
        some ("ftp".toList, "//127.0.0.1:2121".toList) := by
      decide
    have hplace : Url.hostPart false (Url.placeOf (("//127.0.0.1:2121".toList.dropWhile (Url.isSlash true)).takeWhile
        (!Url.endsAuthority true ·))) = ("127.0.0.1".toList, ':' :: "2121".toList) := by
      decide
    have hport : Url.parsePort "ftp" "2121".toList = .ok (some 2121, []) := by decide
    exact Url.exists_parse_of_port hsplit (by decide) hplace (by decide) Url.parseHost_loopback hport
  have htrim : Text.trim "ftp://127.0.0.1:2121" = "ftp://127.0.0.1:2121" := by decide
  have hsilent : Variable.complaints foreign = [] := by
    refine Variable.complaints_eq_nil_iff.2 fun v text htext => ?_
    obtain ⟨rfl, rfl⟩ := (@mem_get?_single .coordinatorUrl v "ftp://127.0.0.1:2121" text).1 htext
    exact Variable.checkUrl_eq_ok_iff.2 ⟨url, htrim ▸ hurl⟩
  have hforeign : ¬Starts .bare foreign := by
    intro hstarts
    have hset : "ftp://127.0.0.1:2121" ∈ foreign.get? Variable.coordinatorUrl.name :=
      (@mem_get?_single .coordinatorUrl .coordinatorUrl _ _).2 ⟨rfl, rfl⟩
    obtain ⟨other, hother, hhttp⟩ := (starts_iff hfile).1 hstarts .coordinatorUrl _ hset
    rw [htrim] at hother
    cases hurl.symm.trans hother
    rw [hscheme] at hhttp
    exact absurd hhttp (by decide)
  have hblank : Starts .bare blank := by
    refine (starts_iff hfile).2 fun v text htext => ?_
    obtain ⟨rfl, rfl⟩ := (@mem_get?_single .caCertPath v " " text).1 htext
    exact trivial
  exact ⟨⟨hsilent, hforeign⟩, by decide, hblank⟩

end Agreement

end LoadTrial
