/-
The fault that settings are refused for.

What settings have to meet is listed in `Settings.conditions`, in the order of the check, with the two conditions of
each scenario behind each other. The check finds the fault of the first condition in the list that does not hold
(`fault?_validate`), and none if all hold. A URL with the scheme of HTTP always has a host (`Url.host_of_special`), so
that it has one is no condition of its own.

Main result: `Settings.validate_finds_first`.
-/
import Mathlib.Tactic
import LoadTrial.Proofs.Threshold
import LoadTrial.Proofs.Url.Authority
import LoadTrial.Proofs.Validation

namespace LoadTrial

/-! ## What the conditions are about -/

namespace Text

theorem dropTail_eq_nil_iff {p : Char → Bool} {cs : List Char} : dropTail p cs = [] ↔ ∀ c ∈ cs, p c = true := by
  rw [dropTail, List.reverse_eq_nil_iff, List.dropWhile_eq_nil_iff]
  simp only [List.mem_reverse]

theorem trimList_eq_nil_iff {cs : List Char} : trimList cs = [] ↔ ∀ c ∈ cs, isBlank c = true := by
  rw [trimList, dropTail_eq_nil_iff]
  constructor
  · intro h c hc
    rw [← List.takeWhile_append_dropWhile (p := isBlank) (l := cs)] at hc
    rcases List.mem_append.1 hc with hfront | hback
    · exact List.mem_takeWhile_imp hfront
    · exact h c hback
  · intro h c hc
    exact h c ((List.dropWhile_sublist isBlank).subset hc)

/-- nothing is left of a text just if it holds blanks only -/
theorem trim_eq_empty_iff {s : String} : trim s = "" ↔ ∀ c ∈ s.toList, isBlank c = true := by
  rw [← trimList_eq_nil_iff, trim, ← String.toList_eq_nil_iff, String.toList_ofList]

end Text

theorem Url.syntaxOf_of_http {scheme : String} (h : scheme = "https" ∨ scheme = "http") :
    syntaxOf scheme = .special := by
  rcases h with rfl | rfl <;> decide

/-- a special URL has a host -/
theorem Url.host_of_special {text : String} {u : Url} (h : Url.parse text = .ok u)
    (hspecial : syntaxOf u.scheme = .special) : ∃ host, u.host = some host := by
  rw [parse_eq] at h
  obtain ⟨scheme, rest, hsplit, hscheme⟩ := splitScheme_of_ofSignificant h
  rw [ofSignificant, hsplit] at h
  dsimp only at h
  rw [← hscheme, hspecial] at h
  dsimp only at h
  rw [parseAuthority_special] at h
  obtain ⟨place, -, hu⟩ := map_eq_ok h
  exact ⟨place.1, hu ▸ rfl⟩

namespace Number.Binary64

/-- a number from 0 to 100, by its units; neither an infinity nor a not-a-number is one, and both zeros are -/
def IsShare (x : Binary64) : Prop :=
  ∃ negative units, x = .finite negative units ∧ 0 ≤ signed negative units ∧
    signed negative units ≤ (100 * one : Nat)

theorem isPercentage_iff {x : Binary64} : Settings.isPercentage x = true ↔ x.IsShare := by
  rw [Settings.isPercentage, ofNat_eq (by norm_num)]
  cases x with
  | nan => exact iff_of_false nofun nofun
  | infinite negative => exact iff_of_false (by cases negative <;> nofun) nofun
  | finite negative units =>
    change (decide (0 ≤ signed negative units) && decide (signed negative units ≤ (100 * one : Nat))) = true ↔ _
    rw [Bool.and_eq_true, decide_eq_true_iff, decide_eq_true_iff]
    constructor
    · intro h
      exact ⟨negative, units, rfl, h⟩
    · rintro ⟨_, _, ⟨⟩, h⟩
      exact h

end Number.Binary64

namespace Settings

/-! ## Conditions -/

/-- what settings have to meet -/
inductive Condition where
  | urlGiven
  | urlReads
  | urlByHttp
  | coordinatorNamed
  | thresholdIsShare
  | scenarioGiven
  | timeoutGiven (p : Profile)
  | poolGiven (p : Profile)
  | enoughShards

def Condition.Holds (s : Settings) : Condition → Prop
  | .urlGiven => s.coordinatorUrl ≠ ""
  | .urlReads => ∃ url, Url.parse s.coordinatorUrl = .ok url
  | .urlByHttp => ∀ url, Url.parse s.coordinatorUrl = .ok url → url.scheme = "https" ∨ url.scheme = "http"
  | .coordinatorNamed => ∃ c ∈ s.coordinatorId.toList, Text.isBlank c = false
  | .thresholdIsShare => s.successThreshold.IsShare
  | .scenarioGiven => s.scenarios ≠ []
  | .timeoutGiven p => p.requestTimeoutSecs ≠ 0
  | .poolGiven p => p.connectionPoolSize ≠ 0
  | .enoughShards => s.payload.threshold ≤ s.payload.totalShards

/-- the fault that is found where a condition does not hold -/
def Condition.Faults (s : Settings) (f : Fault) : Condition → Prop
  | .urlGiven => f = .emptyUrl
  | .urlReads => ∃ why, Url.parse s.coordinatorUrl = .error why ∧ f = .invalidUrl s.coordinatorUrl why
  | .urlByHttp => f = .schemeNotHttp s.coordinatorUrl
  | .coordinatorNamed => f = .emptyCoordinatorId
  | .thresholdIsShare => f = .thresholdOutOfRange s.successThreshold
  | .scenarioGiven => f = .noScenario
  | .timeoutGiven p => f = .zeroTimeout p.name
  | .poolGiven p => f = .zeroPool p.name
  | .enoughShards => f = .tooFewShards s.payload.threshold s.payload.totalShards

/-- the conditions of a scenario -/
def profileConditions (p : Profile) : List Condition :=
  [.timeoutGiven p, .poolGiven p]

/-- all that settings have to meet, in the order in which it is checked -/
def conditions (s : Settings) : List Condition :=
  [.urlGiven, .urlReads, .urlByHttp, .coordinatorNamed, .thresholdIsShare, .scenarioGiven] ++
    (s.scenarios.flatMap profileConditions ++ [.enoughShards])

/-- a fault is the one of the first condition that does not hold -/
def FirstFault (s : Settings) (f : Fault) : Prop :=
  ∃ before c after, s.conditions = before ++ c :: after ∧ (∀ b ∈ before, b.Holds s) ∧ ¬c.Holds s ∧ c.Faults s f

/-! ## The check as a search -/

/-- the fault that a check ends with -/
def fault? (r : Except Fault Unit) : Option Fault :=
  match r with
  | .ok _ => none
  | .error f => some f

theorem fault?_eq_none_iff {r : Except Fault Unit} : fault? r = none ↔ r = .ok () := by
  cases r <;> simp [fault?]

theorem fault?_eq_some_iff {r : Except Fault Unit} {f : Fault} : fault? r = some f ↔ r = .error f := by
  cases r <;> simp [fault?]

theorem fault?_check (check rest : Except Fault Unit) :
    fault? (check >>= fun _ => rest) = (fault? check).or (fault? rest) := by
  cases check <;> rfl

theorem fault?_require {c : Prop} [Decidable c] (f : Fault) (rest : Except Fault Unit) :
    fault? (if c then (throw f : Except Fault Unit) >>= fun _ => rest else rest) =
      (if c then some f else none).or (fault? rest) := by
  split_ifs <;> rfl

/-- the fault of a condition that does not hold -/
def Condition.fault? (s : Settings) : Condition → Option Fault
  | .urlGiven => if s.coordinatorUrl.isEmpty then some .emptyUrl else none
  | .urlReads => match Url.parse s.coordinatorUrl with
    | .error why => some (.invalidUrl s.coordinatorUrl why)
    | .ok _ => none
  | .urlByHttp => match Url.parse s.coordinatorUrl with
    | .error _ => none
    | .ok url =>
      if url.scheme != "https" && url.scheme != "http" then some (.schemeNotHttp s.coordinatorUrl) else none
  | .coordinatorNamed => if (Text.trim s.coordinatorId).isEmpty then some .emptyCoordinatorId else none
  | .thresholdIsShare =>
    if !isPercentage s.successThreshold then some (.thresholdOutOfRange s.successThreshold) else none
  | .scenarioGiven => if s.scenarios.isEmpty then some .noScenario else none
  | .timeoutGiven p => if p.requestTimeoutSecs == 0 then some (.zeroTimeout p.name) else none
  | .poolGiven p => if p.connectionPoolSize == 0 then some (.zeroPool p.name) else none
  | .enoughShards =>
    if s.payload.totalShards < s.payload.threshold then
      some (.tooFewShards s.payload.threshold s.payload.totalShards)
    else none

namespace Condition

variable {s : Settings}

theorem fault?_eq_none_iff {c : Condition} : c.fault? s = none ↔ c.Holds s := by
  cases c with
  | urlGiven => simp [fault?, Holds]
  | urlReads => cases hparse : Url.parse s.coordinatorUrl <;> simp [fault?, Holds, hparse]
  | urlByHttp => cases hparse : Url.parse s.coordinatorUrl <;> simp [fault?, Holds, hparse]; tauto
  | coordinatorNamed => simp [fault?, Holds, Text.trim_eq_empty_iff]
  | thresholdIsShare => simp [fault?, Holds, Number.Binary64.isPercentage_iff]
  | scenarioGiven => simp [fault?, Holds]
  | timeoutGiven p => simp [fault?, Holds]
  | poolGiven p => simp [fault?, Holds]
  | enoughShards => simp [fault?, Holds]

theorem fault?_eq_some_iff {c : Condition} {f : Fault} : c.fault? s = some f ↔ ¬c.Holds s ∧ c.Faults s f := by
  rw [← fault?_eq_none_iff]
  cases c with
  | urlReads => cases hparse : Url.parse s.coordinatorUrl <;> simp [fault?, Faults, hparse, eq_comm]
  | urlByHttp =>
    cases hparse : Url.parse s.coordinatorUrl with
    | error why => simp [fault?, hparse]
    | ok url =>
      simp only [fault?, Faults, hparse]
      split_ifs <;> simp [eq_comm]
  | _ =>
    simp only [fault?, Faults]
    split_ifs <;> simp [eq_comm]

end Condition

theorem findSome?_cons_or {α β : Type} (g : α → Option β) (a : α) (as : List α) :
    (a :: as).findSome? g = (g a).or (as.findSome? g) := by
  rw [List.findSome?_cons]
  cases g a <;> rfl

/-- a URL that is read and has the scheme of HTTP passes, as it has a host -/
theorem fault?_checkUrl (s : Settings) : fault? (checkUrl s.coordinatorUrl) =
    [Condition.urlGiven, .urlReads, .urlByHttp].findSome? (Condition.fault? s) := by
  simp only [List.findSome?_cons, List.findSome?_nil, Condition.fault?]
  rw [checkUrl]
  cases hempty : s.coordinatorUrl.isEmpty with
  | true => rfl
  | false =>
    cases hparse : Url.parse s.coordinatorUrl with
    | error why => rfl
    | ok url =>
      simp only [Bool.false_eq_true, if_false]
      split_ifs with hscheme hhost
      · rfl
      · simp only [Bool.and_eq_true, bne_iff_ne, not_and_not_right] at hscheme
        have hhttp : url.scheme = "https" ∨ url.scheme = "http" := (em _).imp_right hscheme
        obtain ⟨host, hsome⟩ := Url.host_of_special hparse (Url.syntaxOf_of_http hhttp)
        rw [hsome] at hhost
        cases hhost
      · rfl

theorem checkUrl_eq_ok_iff {text : String} :
    checkUrl text = .ok () ↔ ∃ url, Url.parse text = .ok url ∧ (url.scheme = "https" ∨ url.scheme = "http") := by
  have hconditions := fault?_checkUrl { coordinatorUrl := text }
  rw [← fault?_eq_none_iff, hconditions, List.findSome?_eq_none_iff]
  simp only [Condition.fault?_eq_none_iff, List.forall_mem_cons, Condition.Holds]
  constructor
  · rintro ⟨-, ⟨url, hurl⟩, hhttp, -⟩
    exact ⟨url, hurl, hhttp url hurl⟩
  · rintro ⟨url, hurl, hhttp⟩
    refine ⟨?_, ⟨url, hurl⟩, fun url' hurl' => ?_, List.forall_mem_nil _⟩
    · rintro rfl
      cases hurl
    · cases hurl.symm.trans hurl'
      exact hhttp

theorem fault?_checkProfile (s : Settings) (p : Profile) :
    fault? (checkProfile p) = (profileConditions p).findSome? (Condition.fault? s) := by
  rw [checkProfile]
  simp only [profileConditions, List.findSome?_cons, List.findSome?_nil, Condition.fault?]
  split_ifs <;> rfl

theorem fault?_forM_checkProfile (s : Settings) (profiles : List Profile) : fault? (profiles.forM checkProfile) =
    (profiles.flatMap profileConditions).findSome? (Condition.fault? s) := by
  induction profiles with
  | nil => rfl
  | cons p profiles ih =>
    rw [List.flatMap_cons, List.findSome?_append, ← fault?_checkProfile, ← ih]
    exact fault?_check (checkProfile p) (profiles.forM checkProfile)

/-- the check goes through the conditions and ends at the first fault -/
theorem fault?_validate (s : Settings) : fault? s.validate = s.conditions.findSome? (Condition.fault? s) := by
  have hshards : fault? (if s.payload.totalShards < s.payload.threshold then
      throw (.tooFewShards s.payload.threshold s.payload.totalShards) else pure ()) =
      Condition.enoughShards.fault? s := by
    rw [Condition.fault?]
    split_ifs <;> rfl
  have hconditions : s.conditions = [.urlGiven, .urlReads, .urlByHttp] ++
      (.coordinatorNamed :: .thresholdIsShare :: .scenarioGiven ::
        (s.scenarios.flatMap profileConditions ++ [.enoughShards])) := rfl
  rw [hconditions, List.findSome?_append, ← fault?_checkUrl, validate, fault?_check]
  simp only [findSome?_cons_or, List.findSome?_append, ← fault?_forM_checkProfile, ← hshards, fault?_require,
    fault?_check, List.findSome?_nil, Option.or_none]
  rfl

theorem validate_eq_error_iff {s : Settings} {f : Fault} : s.validate = .error f ↔ s.FirstFault f := by
  rw [← fault?_eq_some_iff, fault?_validate, List.findSome?_eq_some_iff]
  simp only [Condition.fault?_eq_none_iff, Condition.fault?_eq_some_iff, FirstFault, and_comm]

/-- **The check finds the first violation.** Settings are valid just if all conditions hold. Where they are not, the
fault is the one of the first condition that does not hold, in the order of the list; and the failure is one of the
configuration, with the message of that fault. -/
theorem validate_finds_first (s : Settings) :
    (s.validate = .ok () ↔ ∀ c ∈ s.conditions, c.Holds s) ∧
      (∀ f, s.validate = .error f ↔ s.FirstFault f) ∧
      ∀ e, s.checked = .error e ↔ ∃ f, s.FirstFault f ∧ e = .config f.message := by
  refine ⟨?_, fun f => validate_eq_error_iff, fun e => ?_⟩
  · rw [← fault?_eq_none_iff, fault?_validate, List.findSome?_eq_none_iff]
    simp only [Condition.fault?_eq_none_iff]
  · simp only [← validate_eq_error_iff, checked]
    cases s.validate with
    | ok _ => simp
    | error f => simp [eq_comm]

end Settings

end LoadTrial
