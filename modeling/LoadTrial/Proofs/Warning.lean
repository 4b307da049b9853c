/-
What warnings say.

A warning is known by the end of its text: no two causes of different kinds end in the same words, and the words at the
end of one are never at the end of another (`endsIn_message_iff`), whatever names, paths and figures stand in front of
them. The warnings about one subject are given together (`Cause.subject`), so those of a kind are given where the
condition for them holds and nowhere else: a missing file (`exists_missing_of_mem`), a profile without requests
(`filter_foretellsEmpty`), one with a small pool (`exists_smallPool_iff`).
-/
import Mathlib.Tactic
import LoadTrial.Proofs.Validation
import LoadTrial.Settings.Warning

namespace LoadTrial

namespace Warning

/-! ## Texts -/

/-- a text ends in some words -/
def EndsIn (words text : String) : Prop :=
  words.toList <:+ text.toList

instance (words text : String) : Decidable (EndsIn words text) :=
  inferInstanceAs (Decidable (words.toList <:+ text.toList))

theorem EndsIn.append {words back : String} (h : EndsIn words back) (front : String) :
    EndsIn words (front ++ back) := by
  rw [EndsIn, String.toList_append]
  exact List.suffix_append_of_suffix h

/-- the words that the text of a cause ends in -/
def Cause.ending : Cause → String
  | .plainHttp _ => " uses HTTP; mutual TLS will not be exercised"
  | .localTarget _ => " targets a local/private network"
  | .pathInUrl _ => " the signing path is appended to it"
  | .missingFile .. => " not found; every client will fail to start"
  | .strictThreshold => " fails a scenario on any single error"
  | .lenientThreshold _ => " is unusually permissive"
  | .noRequests _ .pass => " issues no requests and will pass"
  | .noRequests _ .fail => " issues no requests and will fail"
  | .smallPool .. => " each client keeps 1 idle connection"
  | .shortTimeout .. => " may count slow signatures as timeouts"

/-- the words that some cause ends in -/
def endings : List String := [
  " uses HTTP; mutual TLS will not be exercised", " targets a local/private network",
  " the signing path is appended to it", " not found; every client will fail to start",
  " fails a scenario on any single error", " is unusually permissive", " issues no requests and will pass",
  " issues no requests and will fail", " each client keeps 1 idle connection", " may count slow signatures as timeouts"]

theorem Cause.ending_mem (c : Cause) : c.ending ∈ endings := by
  cases c with
  | noRequests _ policy => cases policy <;> simp [ending, endings]
  | _ => simp [ending, endings]

theorem Cause.endsIn_ending (c : Cause) : EndsIn c.ending c.message := by
  cases c with
  | strictThreshold => decide
  | noRequests scenario policy =>
    -- the verdict stands in a part of its own
    have hmessage : (noRequests scenario policy).message =
        "Scenario '" ++ scenario ++ ("' issues no requests and will " ++ policy.name) := String.append_assoc
    rw [hmessage]
    cases policy <;> simp only [ending] <;> exact EndsIn.append (by decide) _
  | _ =>
    simp only [ending]
    exact EndsIn.append (by decide) _

theorem ending_not_suffix : ∀ words ∈ endings, ∀ words' ∈ endings, EndsIn words words' → words = words' := by
  decide +kernel

/-- a text ends in the words of its cause, and in those of no other kind of cause -/
theorem endsIn_message_iff {words : String} (h : words ∈ endings) {c : Cause} :
    EndsIn words c.message ↔ c.ending = words := by
  constructor
  · intro hends
    rcases List.suffix_or_suffix_of_suffix c.endsIn_ending hends with hs | hs
    · exact ending_not_suffix _ c.ending_mem _ h hs
    · exact (ending_not_suffix _ h _ c.ending_mem hs).symm
  · rintro rfl
    exact c.endsIn_ending

/-! ## Causes -/

theorem mem_onlyIf {condition : Bool} {c cause : Cause} :
    c ∈ onlyIf condition cause ↔ condition = true ∧ c = cause := by
  cases condition <;> simp [onlyIf]

/-- warnings for those of some things for which a condition holds -/
theorem flatMap_onlyIf {α : Type} (condition : α → Bool) (cause : α → Cause) (as : List α) :
    as.flatMap (fun a => onlyIf (condition a) (cause a)) = (as.filter condition).map cause := by
  induction as with
  | nil => rfl
  | cons a as ih =>
    rw [List.flatMap_cons, ih]
    cases h : condition a <;> simp [h, onlyIf]

/-- what a warning is about -/
inductive Cause.Subject where
  | url
  | trust
  | threshold
  | profile
  deriving DecidableEq

def Cause.subject : Cause → Subject
  | .plainHttp _ | .localTarget _ | .pathInUrl _ => .url
  | .missingFile .. => .trust
  | .strictThreshold | .lenientThreshold _ => .threshold
  | .noRequests .. | .smallPool .. | .shortTimeout .. => .profile

theorem subject_of_mem_ofUrl {url : String} {c : Cause} (h : c ∈ ofUrl url) : c.subject = .url := by
  unfold ofUrl at h
  split at h
  · cases h
  · simp only [List.mem_append, mem_onlyIf] at h
    rcases h with (⟨-, rfl⟩ | ⟨-, rfl⟩) | ⟨-, rfl⟩ <;> rfl

theorem mem_ofTrust_iff {files : Files} {t : TrustPaths} {c : Cause} : c ∈ ofTrust files t ↔
    ∃ f ∈ trustFiles t, files.contains f.2 = false ∧ c = .missingFile f.1 f.2 := by
  simp [ofTrust, mem_onlyIf]

theorem subject_of_mem_ofTrust {files : Files} {t : TrustPaths} {c : Cause} (h : c ∈ ofTrust files t) :
    c.subject = .trust := by
  obtain ⟨f, -, -, rfl⟩ := mem_ofTrust_iff.1 h
  rfl

theorem subject_of_mem_ofThreshold {t : Number.Binary64} {c : Cause} (h : c ∈ ofThreshold t) :
    c.subject = .threshold := by
  unfold ofThreshold at h
  split at h
  · rw [List.mem_singleton.1 h]
    rfl
  · rw [(mem_onlyIf.1 h).2]
    rfl

theorem subject_of_mem_ofProfile {policy : EmptyPolicy} {p : Profile} {c : Cause} (h : c ∈ ofProfile policy p) :
    c.subject = .profile := by
  simp only [ofProfile, List.mem_append, mem_onlyIf] at h
  rcases h with (⟨-, rfl⟩ | ⟨-, rfl⟩) | ⟨-, rfl⟩ <;> rfl

/-- the text about a scenario without requests, with the verdict on it -/
def emptyText (scenario : String) (passes : Bool) : String :=
  "Scenario '" ++ scenario ++ "' issues no requests and will " ++ if passes then "pass" else "fail"

theorem message_noRequests (scenario : String) (policy : EmptyPolicy) :
    (Cause.noRequests scenario policy).message = emptyText scenario policy.passes := by
  cases policy <;> rfl

/-- a text that says of a scenario that it issues no requests, and what the verdict on it will be -/
def ForetellsEmpty (text : String) : Prop :=
  EndsIn " issues no requests and will pass" text ∨ EndsIn " issues no requests and will fail" text

instance (text : String) : Decidable (ForetellsEmpty text) :=
  inferInstanceAs (Decidable (_ ∨ _))

theorem foretellsEmpty_message_iff {c : Cause} :
    ForetellsEmpty c.message ↔ ∃ scenario policy, c = .noRequests scenario policy := by
  rw [ForetellsEmpty, endsIn_message_iff (by simp [endings]), endsIn_message_iff (by simp [endings])]
  cases c with
  | noRequests scenario policy => cases policy <;> simp [Cause.ending]
  | _ => simp [Cause.ending]

/-- the product of two numbers is zero just if one of them is, though it is cut to 64 bits -/
theorem saturatingMul_eq_zero_iff {a b : UInt64} : saturatingMul a b = 0 ↔ a = 0 ∨ b = 0 := by
  have hlt : min (a.toNat * b.toNat) (UInt64.size - 1) < UInt64.size :=
    (Nat.min_le_right _ _).trans_lt (by decide)
  have hsize : UInt64.size - 1 ≠ 0 := by decide
  rw [saturatingMul, ← UInt64.toNat_inj, UInt64.toNat_ofNat_of_lt' hlt, ← UInt64.toNat_inj, ← UInt64.toNat_inj,
    UInt64.toNat_zero, Nat.min_eq_zero_iff, Nat.mul_eq_zero, or_iff_left hsize]

end Warning

/-- the profile of a scenario that issues no requests -/
def Profile.isEmpty (p : Profile) : Bool :=
  p.numClients == 0 || p.requestsPerClient == 0

theorem Profile.totalRequests_eq_zero (p : Profile) : (p.totalRequests == 0) = p.isEmpty := by
  rw [Bool.eq_iff_iff, beq_iff_eq, totalRequests, Warning.saturatingMul_eq_zero_iff]
  simp [isEmpty]

namespace Warning

variable {policy : EmptyPolicy} {p : Profile}

theorem ofProfile_eq (policy : EmptyPolicy) (p : Profile) : ofProfile policy p =
    onlyIf p.isEmpty (.noRequests p.name policy)
      ++ onlyIf (p.connectionPoolSize < p.numClients) (.smallPool p.name p.numClients p.connectionPoolSize)
      ++ onlyIf (p.requestTimeoutSecs < 3) (.shortTimeout p.name p.requestTimeoutSecs) := by
  rw [ofProfile, p.totalRequests_eq_zero]

/-- of a profile it is said that its scenario issues no requests just if that is so -/
theorem filter_ofProfile (policy : EmptyPolicy) (p : Profile) :
    (ofProfile policy p).filter (fun c => ForetellsEmpty c.message) =
      onlyIf p.isEmpty (.noRequests p.name policy) := by
  have hempty : ForetellsEmpty (Cause.noRequests p.name policy).message := foretellsEmpty_message_iff.2 ⟨_, _, rfl⟩
  have hpool : ¬ForetellsEmpty (Cause.smallPool p.name p.numClients p.connectionPoolSize).message := by
    rw [foretellsEmpty_message_iff]
    nofun
  have htimeout : ¬ForetellsEmpty (Cause.shortTimeout p.name p.requestTimeoutSecs).message := by
    rw [foretellsEmpty_message_iff]
    nofun
  simp only [ofProfile_eq, onlyIf]
  split_ifs <;> simp [hempty, hpool, htimeout]

/-- the words about a small pool are said of a profile that has one, and of no other -/
theorem exists_smallPool_iff :
    (∃ text ∈ (ofProfile policy p).map Cause.message, EndsIn " each client keeps 1 idle connection" text) ↔
      p.connectionPoolSize < p.numClients := by
  have hwords : " each client keeps 1 idle connection" ∈ endings := by simp [endings]
  simp only [List.mem_map, exists_exists_and_eq_and, endsIn_message_iff hwords, ofProfile_eq]
  constructor
  · rintro ⟨c, hc, hending⟩
    simp only [List.mem_append, mem_onlyIf] at hc
    rcases hc with (⟨-, rfl⟩ | ⟨hpool, -⟩) | ⟨-, rfl⟩
    · cases policy <;> simp [Cause.ending] at hending
    · simpa using hpool
    · simp [Cause.ending] at hending
  · intro hpool
    exact ⟨.smallPool p.name p.numClients p.connectionPoolSize, by simp [mem_onlyIf, hpool], rfl⟩

/-- the words about a small pool, with what each client keeps of it -/
def shareText (share : Nat) : String :=
  "; each client keeps " ++ Number.decimal share ++ " idle connection"

theorem shareText_one : shareText 1 = "; each client keeps 1 idle connection" := by
  have hone : Number.decimal 1 = "1" := by
    rw [Number.decimal, Number.digits]
    rfl
  unfold shareText
  rw [hone]
  decide

/-- the text about a small pool, with the share of each client in it -/
def poolText (p : Profile) (share : Nat) : String :=
  "Scenario '" ++ p.name ++ "': " ++ Number.decimal p.numClients.toNat ++ " clients exceed pool size "
    ++ Number.decimal p.connectionPoolSize.toNat ++ shareText share

theorem poolText_mem (h : p.connectionPoolSize < p.numClients) :
    poolText p 1 ∈ (ofProfile policy p).map Cause.message := by
  have hmem : Cause.smallPool p.name p.numClients p.connectionPoolSize ∈ ofProfile policy p := by
    simp [ofProfile_eq, mem_onlyIf, h]
  have htext : poolText p 1 = (Cause.smallPool p.name p.numClients p.connectionPoolSize).message :=
    congrArg _ shareText_one
  exact List.mem_map.2 ⟨_, hmem, htext.symm⟩

end Warning

/-! ## Settings -/

namespace Settings

open Warning

variable {s : Settings} {files : Files}

/-- the warnings about settings that a trial can run with -/
def allWarnings (files : Files) (s : Settings) : List Cause :=
  ofUrl s.coordinatorUrl ++ ofTrust files s.trust ++ ofThreshold s.successThreshold
    ++ s.scenarios.flatMap (ofProfile s.emptyPolicy)

theorem warnings_eq (h : s.validate = .ok ()) : s.warnings files = .ok (allWarnings files s) := by
  rw [warnings, h]
  rfl

/-- the files that are not there are warned about -/
theorem missing_mem {f : String × String} (hf : f ∈ trustFiles s.trust) (hmissing : files.contains f.2 = false) :
    (Cause.missingFile f.1 f.2).message ∈ (allWarnings files s).map Cause.message := by
  have hmem : Cause.missingFile f.1 f.2 ∈ ofTrust files s.trust := mem_ofTrust_iff.2 ⟨f, hf, hmissing, rfl⟩
  exact List.mem_map_of_mem (by simp [allWarnings, hmem])

/-- a file is warned about only where one is not there -/
theorem exists_missing_of_mem {text : String} (h : text ∈ (allWarnings files s).map Cause.message)
    (hends : EndsIn " not found; every client will fail to start" text) :
    ∃ f ∈ trustFiles s.trust, files.contains f.2 = false := by
  obtain ⟨c, hc, rfl⟩ := List.mem_map.1 h
  have hending := (endsIn_message_iff (by simp [endings])).1 hends
  have hsubject : c.subject = .trust := by
    cases c with
    | missingFile => rfl
    | noRequests _ policy => cases policy <;> simp [Cause.ending] at hending
    | _ => simp [Cause.ending] at hending
  simp only [allWarnings, List.mem_append, List.mem_flatMap] at hc
  rcases hc with ((hurl | htrust) | hthreshold) | ⟨p, -, hprofile⟩
  · rw [subject_of_mem_ofUrl hurl] at hsubject
    cases hsubject
  · obtain ⟨f, hf, hmissing, -⟩ := mem_ofTrust_iff.1 htrust
    exact ⟨f, hf, hmissing⟩
  · rw [subject_of_mem_ofThreshold hthreshold] at hsubject
    cases hsubject
  · rw [subject_of_mem_ofProfile hprofile] at hsubject
    cases hsubject

/-- a warning with a verdict is given for each scenario without requests, in order, and for no other -/
theorem filter_foretellsEmpty (files : Files) (s : Settings) :
    ((allWarnings files s).map Cause.message).filter ForetellsEmpty =
      (s.scenarios.filter Profile.isEmpty).map fun p => emptyText p.name s.emptyPolicy.passes := by
  have hother : ∀ c : Cause, c.subject ≠ .profile → ¬ForetellsEmpty c.message := by
    intro c hc hforetells
    obtain ⟨scenario, policy, rfl⟩ := foretellsEmpty_message_iff.1 hforetells
    exact hc rfl
  have hnil : ∀ cs : List Cause, (∀ c ∈ cs, c.subject ≠ .profile) →
      cs.filter (fun c => ForetellsEmpty c.message) = [] := by
    intro cs hcs
    rw [List.filter_eq_nil_iff]
    intro c hc
    simpa using hother c (hcs c hc)
  have hurl := hnil (ofUrl s.coordinatorUrl) fun c hc => by simp [subject_of_mem_ofUrl hc]
  have htrust := hnil (ofTrust files s.trust) fun c hc => by simp [subject_of_mem_ofTrust hc]
  have hthreshold := hnil (ofThreshold s.successThreshold) fun c hc => by simp [subject_of_mem_ofThreshold hc]
  have hfilter : (allWarnings files s).filter (fun c => ForetellsEmpty c.message) =
      (s.scenarios.filter Profile.isEmpty).map fun p => .noRequests p.name s.emptyPolicy := by
    rw [allWarnings, List.filter_append, List.filter_append, List.filter_append, hurl, htrust, hthreshold,
      List.filter_flatMap]
    simp only [List.nil_append, filter_ofProfile, flatMap_onlyIf]
  have hmap : ((allWarnings files s).map Cause.message).filter ForetellsEmpty =
      ((allWarnings files s).filter fun c => ForetellsEmpty c.message).map Cause.message := List.filter_map
  rw [hmap, hfilter, List.map_map]
  exact List.map_congr_left fun p _ => message_noRequests p.name s.emptyPolicy

/-- the text about a scenario without requests is given -/
theorem emptyText_mem (files : Files) {p : Profile} (hp : p ∈ s.scenarios) (h : p.isEmpty = true) :
    emptyText p.name s.emptyPolicy.passes ∈ (allWarnings files s).map Cause.message := by
  have hmem : emptyText p.name s.emptyPolicy.passes ∈
      (s.scenarios.filter Profile.isEmpty).map fun p => emptyText p.name s.emptyPolicy.passes :=
    List.mem_map.2 ⟨p, List.mem_filter.2 ⟨hp, h⟩, rfl⟩
  rw [← filter_foretellsEmpty files s] at hmem
  exact (List.mem_filter.1 hmem).1

end Settings

end LoadTrial
