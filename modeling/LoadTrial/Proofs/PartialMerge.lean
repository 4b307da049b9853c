/-
What merging an environment leaves behind.

Merging stops at the first variable that is set to a text it does not take, and keeps what it has merged by then: the
settings behind it follow from the variables in front of that one, and from nothing else of the environment. Three
variables do not take every text (`Refuses`); that a number may be infinite or none at all is no reason to refuse it
(`not_refuses_of_isWord`).

Main result: `Settings.merge_keeps_front`, with the witness `stopped_at_policy`.
-/
import Mathlib.Tactic
import LoadTrial.Proofs.Masking

namespace LoadTrial

namespace Variable

/-! ## Texts that are not taken -/

/-- a variable does not take a text -/
def Refuses (v : Variable) (text : String) : Prop :=
  match v with
  | .successThreshold => ∃ why, Number.Binary64.ofText (Text.trim text).toList = .error why
  | .emptyScenarioPolicy => Text.lower (Text.trim text) ∉ ["pass", "fail"]
  | .enableColor => Text.trim text ∉ ["true", "false"]
  | _ => False

/-- the failure that a text is refused with -/
def Complains (v : Variable) (text : String) (f : Failure) : Prop :=
  match v with
  | .successThreshold => ∃ why, Number.Binary64.ofText (Text.trim text).toList = .error why ∧
      f = .config ("Invalid SUCCESS_THRESHOLD value '" ++ text ++ "': " ++ why.message)
  | .emptyScenarioPolicy => f = .config ("Invalid empty scenario policy '" ++ text ++ "': expected 'pass' or 'fail'")
  | .enableColor => f = .config ("Invalid ENABLE_COLOR value '" ++ text
      ++ "': provided string was not `true` or `false`")
  | _ => False

/-- a variable is set to a text that it does not take -/
def IsRefused (env : Environment) (v : Variable) : Prop :=
  ∃ text, env.get? v.name = some text ∧ v.Refuses text

/-- a variable is the first, in the order of merging, that is set to a text it does not take; `before` are the
variables in front of it -/
structure FirstRefused (env : Environment) (before : List Variable) (v : Variable) (text : String) : Prop where
  order : before ++ [v] <+: all
  taken : ∀ w ∈ before, ¬w.IsRefused env
  set : env.get? v.name = some text
  refuses : v.Refuses text

variable {v : Variable} {text : String} {f : Failure} {env : Environment}

theorem refusal?_eq_some_iff : v.refusal? (some text) = some f ↔ v.Refuses text ∧ v.Complains text f := by
  rw [refusal?, Option.bind_some]
  cases v with
  | successThreshold =>
    rw [assign, failure?_map, readNumber]
    cases hread : Number.Binary64.ofText (Text.trim text).toList with
    | ok t => simp [failure?, Refuses, hread]
    | error why => simp [failure?, Refuses, Complains, hread, eq_comm, name]
  | emptyScenarioPolicy =>
    rw [assign, failure?_map, EmptyPolicy.read]
    simp only [beq_iff_eq]
    split_ifs with hpass hfail
    · simp [failure?, Refuses, hpass]
    · simp [failure?, Refuses, hfail]
    · simp [failure?, Refuses, Complains, hpass, hfail, eq_comm]
  | enableColor =>
    rw [assign, failure?_map, readBool]
    simp only [beq_iff_eq]
    split_ifs with htrue hfalse
    · simp [failure?, Refuses, htrue]
    · simp [failure?, Refuses, hfalse]
    · simp [failure?, Refuses, Complains, htrue, hfalse, eq_comm, name]
  | _ => simp [assign, failure?, Refuses]

theorem Refuses.complains (h : v.Refuses text) : ∃ f, v.Complains text f := by
  cases v with
  | successThreshold =>
    obtain ⟨why, hwhy⟩ := h
    exact ⟨_, why, hwhy, rfl⟩
  | emptyScenarioPolicy | enableColor => exact ⟨_, rfl⟩
  | _ => exact h.elim

theorem refusal?_eq_none_iff : v.refusal? (env.get? v.name) = none ↔ ¬v.IsRefused env := by
  cases hvalue : env.get? v.name with
  | none => simp [refusal?, IsRefused, hvalue]
  | some text =>
    rw [Option.eq_none_iff_forall_ne_some]
    simp only [IsRefused, hvalue, Option.some.injEq, exists_eq_left']
    constructor
    · intro h hrefuses
      obtain ⟨f, hf⟩ := hrefuses.complains
      exact h f (refusal?_eq_some_iff.2 ⟨hrefuses, hf⟩)
    · intro h f hf
      exact h (refusal?_eq_some_iff.1 hf).1

/-! ## Numbers in words -/

/-- the words for numbers that are not finite -/
def wordsForNumbers : List (List Char) := ["nan".toList, "inf".toList, "infinity".toList]

/-- a word for a number that is not finite, in capital or small letters, with or without a sign -/
def IsWord (cs : List Char) : Prop :=
  ∃ sign ∈ [[], ['+'], ['-']], ∃ word, cs = sign ++ word ∧ word.map Char.toLower ∈ wordsForNumbers

theorem readMagnitude_of_word {word : List Char} (h : word.map Char.toLower ∈ wordsForNumbers) (negative : Bool) :
    ∃ x, Number.Binary64.readMagnitude negative word = some x := by
  rw [Number.Binary64.readMagnitude]
  cases Number.Binary64.readUnsignedDecimal negative word with
  | some x => exact ⟨x, rfl⟩
  | none =>
    simp only [wordsForNumbers, List.mem_cons, List.not_mem_nil, or_false] at h
    rcases h with h | h | h
    · exact ⟨.nan, by rw [h]; rfl⟩
    · exact ⟨.infinite negative, by rw [h]; rfl⟩
    · exact ⟨.infinite negative, by rw [h]; rfl⟩

/-- a word begins with a letter -/
theorem head_of_word {word : List Char} (h : word.map Char.toLower ∈ wordsForNumbers) :
    ∃ c rest, word = c :: rest ∧ c ≠ '+' ∧ c ≠ '-' := by
  cases word with
  | nil => exact absurd h (by decide)
  | cons c rest =>
    refine ⟨c, rest, rfl, ?_, ?_⟩
    · rintro rfl
      simp [wordsForNumbers] at h
    · rintro rfl
      simp [wordsForNumbers] at h

/-- a number may be infinite or none at all -/
theorem not_refuses_of_isWord (h : IsWord (Text.trim text).toList) : ¬successThreshold.Refuses text := by
  obtain ⟨sign, hsign, word, htext, hword⟩ := h
  obtain ⟨x, hx⟩ := readMagnitude_of_word hword false
  obtain ⟨y, hy⟩ := readMagnitude_of_word hword true
  rintro ⟨why, hwhy⟩
  rw [htext] at hwhy
  simp only [List.mem_cons, List.not_mem_nil, or_false] at hsign
  rcases hsign with rfl | rfl | rfl
  · obtain ⟨c, rest, rfl, hplus, hminus⟩ := head_of_word hword
    simp [Number.Binary64.ofText, hplus, hminus, hx] at hwhy
  · simp [Number.Binary64.ofText, hx] at hwhy
  · simp [Number.Binary64.ofText, hy] at hwhy

/-! ## Merging -/

/-- merging goes on with more variables if none of the first was refused -/
theorem mergeAll_append (env : Environment) (s : Settings) (vs ws : List Variable) :
    mergeAll env s (vs ++ ws) =
      if (mergeAll env s vs).2.isNone then mergeAll env (mergeAll env s vs).1 ws else mergeAll env s vs := by
  induction vs generalizing s with
  | nil => rfl
  | cons v vs ih =>
    rw [List.cons_append]
    cases hvalue : env.get? v.name with
    | none =>
      simp only [mergeAll, hvalue]
      exact ih s
    | some value =>
      cases hassign : v.assign value s with
      | error f => simp [mergeAll, hvalue, hassign]
      | ok s' =>
        simp only [mergeAll, hvalue, hassign]
        exact ih s'

/-- what stands in front of the first variable that is refused is merged -/
theorem FirstRefused.mergeAll_eq {before : List Variable} (h : FirstRefused env before v text) (s : Settings) :
    (mergeAll env s before).2 = none ∧ (mergeAll env s all).1 = (mergeAll env s before).1 := by
  have hfront : (mergeAll env s before).2 = none := by
    rw [mergeAll_failure, List.findSome?_eq_none_iff]
    exact fun w hw => refusal?_eq_none_iff.2 (h.taken w hw)
  obtain ⟨f, hf⟩ := h.refuses.complains
  have hassign : v.assign text (mergeAll env s before).1 = .error f := by
    rw [← failure?_eq_some_iff, failure?_assign]
    exact refusal?_eq_some_iff.2 ⟨h.refuses, hf⟩
  obtain ⟨after, hall⟩ := h.order
  refine ⟨hfront, ?_⟩
  rw [← hall, List.append_assoc, mergeAll_append, hfront, Option.isNone_none, if_pos rfl, List.singleton_append]
  simp only [mergeAll, h.set, hassign]

end Variable

namespace Settings

open Variable

theorem merge_failure_iff {env : Environment} {s : Settings} {f : Failure} : (merge env s).2 = some f ↔
    ∃ before v text, FirstRefused env before v text ∧ v.Complains text f := by
  rw [merge, mergeAll_failure, List.findSome?_eq_some_iff]
  constructor
  · rintro ⟨before, v, after, hall, hv, hbefore⟩
    obtain ⟨text, htext, hrefusal⟩ := Option.bind_eq_some_iff.1 hv
    obtain ⟨hrefuses, hcomplains⟩ := refusal?_eq_some_iff.1 (show v.refusal? (some text) = some f from hrefusal)
    exact ⟨before, v, text, ⟨⟨after, by simp [hall]⟩, fun w hw => refusal?_eq_none_iff.1 (hbefore w hw), htext,
      hrefuses⟩, hcomplains⟩
  · rintro ⟨before, v, text, hfirst, hcomplains⟩
    obtain ⟨after, hall⟩ := hfirst.order
    refine ⟨before, v, after, by simpa using hall.symm, ?_, fun w hw => refusal?_eq_none_iff.2 (hfirst.taken w hw)⟩
    rw [hfirst.set]
    exact refusal?_eq_some_iff.2 ⟨hfirst.refuses, hcomplains⟩

theorem merge_eq_none_iff {env : Environment} {s : Settings} :
    (merge env s).2 = none ↔ ∀ v : Variable, ¬v.IsRefused env := by
  rw [merge, mergeAll_failure, List.findSome?_eq_none_iff]
  simp only [refusal?_eq_none_iff, mem_all, forall_const]

/-- **Merging keeps what stands in front of the first variable that is refused.** It fails just if some variable is
set to a text that it does not take, with the failure of the first such variable. The settings left behind are the ones
at the start with the fields of the variables that are set overwritten: of all of them if there is no failure, and else
of those in front of the variable that failed; no other field changes. A threshold that is infinite or none at all is
taken. -/
theorem merge_keeps_front (env : Environment) (s : Settings) :
    ((merge env s).2 = none ↔ ∀ v : Variable, ¬v.IsRefused env) ∧
      (∀ f, (merge env s).2 = some f ↔ ∃ before v text, FirstRefused env before v text ∧ v.Complains text f) ∧
      ((merge env s).2 = none → Follows (fun v => env.get? v.name) s (merge env s).1) ∧
      (∀ before v text, FirstRefused env before v text →
        Follows (fun w => if w ∈ before then env.get? w.name else none) s (merge env s).1) ∧
      ∀ text, IsWord (Text.trim text).toList → ¬Variable.successThreshold.Refuses text := by
  refine ⟨merge_eq_none_iff, fun f => merge_failure_iff, follows_merge, fun before v text h => ?_,
    fun text => not_refuses_of_isWord⟩
  obtain ⟨hfront, hleft⟩ := h.mergeAll_eq s
  rw [merge, hleft]
  have hnodup : (before ++ [v]).Nodup := nodup_all.sublist h.order.sublist
  exact follows_mergeAll (List.nodup_append.1 hnodup).1 hfront

/-- the name and the threshold are merged, which stand in front of the policy; the colour is not looked at -/
theorem stopped_at_policy :
    let env := Environment.ofList [("ENABLE_COLOR", "no"), ("COORDINATOR_ID", " probe "),
      ("EMPTY_SCENARIO_POLICY", "maybe"), ("SUCCESS_THRESHOLD", " -Inf ")]
    let before : List Variable :=
      [.coordinatorUrl, .caCertPath, .clientCertPath, .clientKeyPath, .coordinatorId, .successThreshold]
    FirstRefused env before .emptyScenarioPolicy "maybe" ∧
      (merge env builtin).2 = some (.config "Invalid empty scenario policy 'maybe': expected 'pass' or 'fail'") ∧
      Follows (fun w => if w ∈ before then env.get? w.name else none) builtin (merge env builtin).1 ∧
      (merge env builtin).1 = { builtin with coordinatorId := "probe", successThreshold := .infinite true } := by
  intro env before
  have hnone : ∀ w ∈ before, w.refusal? (env.get? w.name) = none := by decide +kernel
  have hmaybe : Text.lower (Text.trim "maybe") ∉ ["pass", "fail"] := by decide +kernel
  have hfirst : FirstRefused env before .emptyScenarioPolicy "maybe" :=
    ⟨by decide, fun w hw => refusal?_eq_none_iff.1 (hnone w hw), by decide +kernel, hmaybe⟩
  obtain ⟨-, hfailure, -, hfollows, -⟩ := merge_keeps_front env builtin
  exact ⟨hfirst, (hfailure _).2 ⟨before, _, _, hfirst, rfl⟩, hfollows before _ _ hfirst, by decide +kernel⟩

end Settings

end LoadTrial
