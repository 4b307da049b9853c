/-
Loading an environment file adds variables, once.

Whether a line can be read, and to which name it assigns, is a matter of the line alone: references to variables change
the value and nothing else (`reading_congr`). So the lines in front of the first bad one are the same at every reading
(`goodLines`). What they assign to is set behind the first reading (`isSet_applyLines`), and lines that assign to names
that are set change nothing (`applyLines_of_set`): the second reading ends as the first did and adds nothing.

A file and an environment without the character NUL never lead to a value with NUL (`applyLines_ne_nul`).

Main result: `load_adds_once`, with the witness `twice_with_references`.
-/
import Mathlib.Tactic
import LoadTrial.Proofs.Precedence

namespace LoadTrial

namespace Environment

/-- no value holds the character NUL, which no variable of a process can hold -/
def NoNul (env : Environment) : Prop :=
  ∀ name value, env.get? name = some value → '\x00' ∉ value.toList

theorem noNul_empty : NoNul {} :=
  nofun

theorem NoNul.setIfUnset {env : Environment} (henv : env.NoNul) (name : String) {value : String}
    (hvalue : '\x00' ∉ value.toList) : (env.setIfUnset name value).NoNul := by
  intro other text htext
  rw [get?_setIfUnset] at htext
  split_ifs at htext
  · cases htext
    exact hvalue
  · exact henv other text htext

end Environment

namespace EnvFile

variable {env env' : Environment}

/-! ## Lines by themselves -/

/-- what a line says in an environment: a name and its value, or nothing -/
def reading (env : Environment) (line : Bytes) : Except Fault (Option (String × String)) :=
  match Text.ofUtf8? line with
  | none => .error .notUtf8
  | some text => readLine env text

/-- a line cannot be read, whatever the environment -/
def IsBad (line : Bytes) : Prop :=
  ∃ fault, ∀ env, reading env line = .error fault

/-- a line assigns to a name, whatever the environment -/
def AssignsTo (line : Bytes) (name : String) : Prop :=
  ∀ env, ∃ value, reading env line = .ok (some (name, value))

/-- the name that a line assigns to, or what is bad about it -/
def nameIn (env : Environment) (line : Bytes) : Except Fault (Option String) :=
  (reading env line).map (·.map Prod.fst)

/-! ## The environment and the ending of a reading -/

section Ending

variable {ε α β : Type}

/-- how a reading ends, whatever is read -/
def ending (r : Except ε α) : Except ε Unit :=
  r.map fun _ => ()

theorem ending_map (r : Except ε α) (g : α → β) : ending (r.map g) = ending r := by
  cases r <;> rfl

/-- two readings that end in the same way both succeed, or both fail with the same fault -/
theorem cases_of_ending {r : Except ε α} {r' : Except ε β} (h : ending r = ending r') :
    (∃ a b, r = .ok a ∧ r' = .ok b) ∨ ∃ e, r = .error e ∧ r' = .error e := by
  cases r with
  | ok a =>
    cases r' with
    | ok b => exact .inl ⟨a, b, rfl, rfl⟩
    | error e' => cases h
  | error e =>
    cases r' with
    | ok b => cases h
    | error e' =>
      cases h
      exact .inr ⟨e, rfl, rfl⟩

end Ending

/-- what a character adds to a value may hang on the environment, but not what the reader goes on with -/
theorem step_congr (env env' : Environment) (st : ValueState) (c : Char) :
    (st.step env c).map Prod.snd = (st.step env' c).map Prod.snd := by
  cases st with
  | reference | braces =>
    simp only [ValueState.step]
    split_ifs <;> rfl
  | _ => rfl

theorem finish_congr (env env' : Environment) (st : ValueState) :
    (st.finish env).isSome = (st.finish env').isSome := by
  cases st with
  | reference =>
    simp only [ValueState.finish]
    split_ifs <;> rfl
  | _ => rfl

theorem ending_readValueFrom (env env' : Environment) (st : ValueState) (index : Nat) (cs : List Char) :
    ending (readValueFrom env st index cs) = ending (readValueFrom env' st index cs) := by
  induction cs generalizing st index with
  | nil =>
    have hend (e : Environment) : ending (readValueFrom e st index []) =
        if (st.finish e).isSome then .ok () else .error none := by
      rw [readValueFrom]
      cases st.finish e <;> rfl
    rw [hend, hend, finish_congr env env']
  | cons c cs ih =>
    have hstep := step_congr env env' st c
    rw [readValueFrom, readValueFrom]
    cases hread : st.step env c with
    | none =>
      rw [hread, Option.map_none, eq_comm, Option.map_eq_none_iff] at hstep
      rw [hstep]
    | some p =>
      rw [hread, Option.map_some, eq_comm, Option.map_eq_some_iff] at hstep
      obtain ⟨p', hread', hnext⟩ := hstep
      simp only [hread', ending_map, hnext]
      exact ih p.2 (index + 1)

theorem ending_readValue (env env' : Environment) (cs : List Char) :
    ending (readValue env cs) = ending (readValue env' cs) := by
  rw [readValue, readValue]
  rcases cases_of_ending (ending_readValueFrom env env' (.text false) 0 cs) with ⟨out, out', h, h'⟩ | ⟨fault, h, h'⟩
  · rw [h, h']
    rfl
  · rw [h, h']

/-- a line assigns to the same name in all environments, or is bad for the same reason -/
theorem nameIn_congr (env env' : Environment) (line : Bytes) : nameIn env line = nameIn env' line := by
  rw [nameIn, nameIn, reading, reading]
  cases Text.ofUtf8? line with
  | none => rfl
  | some text =>
    dsimp only
    rw [readLine, readLine]
    dsimp only
    split_ifs
    · rfl
    · rcases splitAssignment (skipBlanks (Text.dropTail Text.isBlank text.toList)) with rest | ⟨name, value⟩
      · rfl
      · dsimp only
        split_ifs
        · rfl
        · rcases cases_of_ending (ending_readValue env env' (skipBlanks value)) with ⟨v, v', h, h'⟩ | ⟨fault, h, h'⟩
          · rw [h, h']
            rfl
          · rw [h, h']

/-- a line is bad, says nothing, or assigns to a name, and that in all environments -/
theorem reading_cases (line : Bytes) :
    IsBad line ∨ (∀ env, reading env line = .ok none) ∨ ∃ name, AssignsTo line name := by
  have hname (env : Environment) : (reading env line).map (·.map Prod.fst) = nameIn {} line := nameIn_congr env {} line
  rcases h : nameIn {} line with fault | _ | name
  · refine .inl ⟨fault, fun env => ?_⟩
    have henv := (hname env).trans h
    cases hread : reading env line with
    | ok assignment =>
      rw [hread] at henv
      cases henv
    | error fault' =>
      rw [hread] at henv
      cases henv
      rfl
  · refine .inr (.inl fun env => ?_)
    obtain ⟨assignment, hread, hnone⟩ := map_eq_ok ((hname env).trans h)
    rw [hread, Option.map_eq_none_iff.1 hnone]
  · refine .inr (.inr ⟨name, fun env => ?_⟩)
    obtain ⟨assignment, hread, hsome⟩ := map_eq_ok ((hname env).trans h)
    obtain ⟨⟨_, value⟩, rfl, rfl⟩ := Option.map_eq_some_iff.1 hsome
    exact ⟨value, hread⟩

/-! ## Lines in front of the first bad one -/

/-- the effect of a line, by what it says -/
theorem applyLine_eq (env : Environment) (line : Bytes) : applyLine env line = match reading env line with
    | .error fault => .error fault
    | .ok none => .ok env
    | .ok (some (name, value)) =>
      if !env.isSet name && value.toList.contains '\x00' then .error .nulInValue
      else .ok (env.setIfUnset name value) := by
  rw [applyLine, reading]
  cases Text.ofUtf8? line <;> rfl

/-- no value with the character NUL is given to a variable that is not set -/
def AvoidsNul (env : Environment) (ls : List Bytes) : Prop :=
  (applyLines env ls).2 ≠ some .nulInValue

/-- a line is bad everywhere, or does nothing anywhere, or sets a name that is not set -/
theorem applyLine_cases {line : Bytes} (h : applyLine env line ≠ .error .nulInValue) :
    (IsBad line ∧ ∃ fault, ∀ e, applyLine e line = .error fault) ∨
      (¬IsBad line ∧ (∀ name, ¬AssignsTo line name) ∧ ∀ e, applyLine e line = .ok e) ∨
      ∃ name value, ¬IsBad line ∧ (∀ other, AssignsTo line other ↔ other = name) ∧
        applyLine env line = .ok (env.setIfUnset name value) ∧ ∀ e, e.isSet name = true → applyLine e line = .ok e := by
  rcases reading_cases line with ⟨fault, hbad⟩ | hnone | ⟨name, hassigns⟩
  · exact .inl ⟨⟨fault, hbad⟩, fault, fun e => by rw [applyLine_eq, hbad]⟩
  · refine .inr (.inl ⟨?_, ?_, fun e => by rw [applyLine_eq, hnone]⟩)
    · rintro ⟨fault, hbad⟩
      cases (hbad {}).symm.trans (hnone {})
    · intro name hassigns
      obtain ⟨value, hvalue⟩ := hassigns {}
      cases hvalue.symm.trans (hnone {})
  · obtain ⟨value, hvalue⟩ := hassigns env
    refine .inr (.inr ⟨name, value, ?_, fun other => ⟨?_, ?_⟩, ?_, fun e hset => ?_⟩)
    · rintro ⟨fault, hbad⟩
      cases (hbad env).symm.trans hvalue
    · intro hother
      obtain ⟨value', hvalue'⟩ := hother env
      cases hvalue'.symm.trans hvalue
      rfl
    · rintro rfl
      exact hassigns
    · rw [applyLine_eq, hvalue] at h ⊢
      dsimp only at h ⊢
      split_ifs at h ⊢
      · exact absurd rfl h
      · rfl
    · obtain ⟨value', hvalue'⟩ := hassigns e
      rw [applyLine_eq, hvalue']
      simp [hset, Environment.setIfUnset]

/-- the lines in front of the first bad one -/
def goodLines (ls : List Bytes) : List Bytes :=
  ls.takeWhile fun line => (reading {} line).isOk

theorem isOk_reading_iff {line : Bytes} : (reading {} line).isOk = true ↔ ¬IsBad line := by
  rcases reading_cases line with ⟨fault, hbad⟩ | hnone | ⟨name, hassigns⟩
  · rw [hbad]
    exact iff_of_false nofun (not_not_intro ⟨fault, hbad⟩)
  · rw [hnone]
    exact iff_of_true rfl fun ⟨fault, hbad⟩ => nomatch (hbad {}).symm.trans (hnone {})
  · obtain ⟨value, hvalue⟩ := hassigns {}
    rw [hvalue]
    exact iff_of_true rfl fun ⟨fault, hbad⟩ => nomatch (hbad {}).symm.trans hvalue

theorem goodLines_of_isBad {line : Bytes} (h : IsBad line) (ls : List Bytes) : goodLines (line :: ls) = [] :=
  List.takeWhile_cons_of_neg fun hok => isOk_reading_iff.1 hok h

theorem goodLines_of_not_isBad {line : Bytes} (h : ¬IsBad line) (ls : List Bytes) :
    goodLines (line :: ls) = line :: goodLines ls :=
  List.takeWhile_cons_of_pos (isOk_reading_iff.2 h)

theorem AvoidsNul.head {line : Bytes} {ls : List Bytes} (h : AvoidsNul env (line :: ls)) :
    applyLine env line ≠ .error .nulInValue := by
  intro hline
  rw [AvoidsNul, applyLines, hline] at h
  exact h rfl

/-- a file is as good as its lines in front of the first bad one -/
theorem applyLines_goodLines {ls : List Bytes} (h : AvoidsNul env ls) :
    applyLines env (goodLines ls) = ((applyLines env ls).1, none) ∧
      ((applyLines env ls).2 = none ↔ ∀ line ∈ ls, ¬IsBad line) := by
  induction ls generalizing env with
  | nil => exact ⟨rfl, iff_of_true rfl (List.forall_mem_nil _)⟩
  | cons line ls ih =>
    rcases applyLine_cases h.head with ⟨hbad, fault, hfault⟩ | ⟨hgood, -, hline⟩ | ⟨name, value, hgood, -, hline, -⟩
    · rw [goodLines_of_isBad hbad, applyLines, applyLines, hfault]
      exact ⟨rfl, iff_of_false (Option.some_ne_none fault) fun hall => hall line List.mem_cons_self hbad⟩
    · rw [AvoidsNul, applyLines_cons (hline env)] at h
      rw [goodLines_of_not_isBad hgood, applyLines_cons (hline env), applyLines_cons (hline env), List.forall_mem_cons,
        and_iff_right hgood]
      exact ih h
    · rw [AvoidsNul, applyLines_cons hline] at h
      rw [goodLines_of_not_isBad hgood, applyLines_cons hline, applyLines_cons hline, List.forall_mem_cons,
        and_iff_right hgood]
      exact ih h

theorem isSet_setIfUnset (env : Environment) (name value other : String) :
    (env.setIfUnset name value).isSet other = true ↔ env.isSet other = true ∨ other = name := by
  rw [Environment.isSet, Environment.isSet, Environment.get?_setIfUnset]
  by_cases hname : other = name
  · subst hname
    cases env.get? other <;> simp
  · simp [hname]

/-- the names that are set behind some lines -/
theorem isSet_applyLines {ls : List Bytes} (h : (applyLines env ls).2 = none) (name : String) :
    (applyLines env ls).1.isSet name = true ↔ env.isSet name = true ∨ ∃ line ∈ ls, AssignsTo line name := by
  induction ls generalizing env with
  | nil => simp [applyLines]
  | cons line ls ih =>
    have hnul : AvoidsNul env (line :: ls) := fun hnul => Option.some_ne_none _ (hnul.symm.trans h)
    rcases applyLine_cases hnul.head with ⟨hbad, fault, hfault⟩ | ⟨-, hassigns, hline⟩ |
      ⟨name', value, -, hassigns, hline, -⟩
    · rw [applyLines, hfault] at h
      cases h
    · rw [applyLines_cons (hline env)] at h ⊢
      rw [ih h, List.exists_mem_cons_iff]
      simp [hassigns]
    · rw [applyLines_cons hline] at h ⊢
      rw [ih h, List.exists_mem_cons_iff, isSet_setIfUnset, hassigns, or_assoc]

/-- lines that assign to names that are set end as they do elsewhere, and change nothing -/
theorem applyLines_of_set {ls : List Bytes} (h : AvoidsNul env ls)
    (hset : ∀ line ∈ goodLines ls, ∀ name, AssignsTo line name → env'.isSet name = true) :
    applyLines env' ls = (env', (applyLines env ls).2) := by
  induction ls generalizing env with
  | nil => rfl
  | cons line ls ih =>
    rcases applyLine_cases h.head with ⟨hbad, fault, hfault⟩ | ⟨hgood, -, hline⟩ |
      ⟨name, value, hgood, hassigns, hline, hsame⟩
    · rw [applyLines, applyLines, hfault, hfault]
    · rw [AvoidsNul, applyLines_cons (hline env)] at h
      rw [goodLines_of_not_isBad hgood, List.forall_mem_cons] at hset
      rw [applyLines_cons (hline env'), applyLines_cons (hline env)]
      exact ih h hset.2
    · rw [AvoidsNul, applyLines_cons hline] at h
      rw [goodLines_of_not_isBad hgood, List.forall_mem_cons] at hset
      have hname : env'.isSet name = true := hset.1 name ((hassigns name).2 rfl)
      rw [applyLines_cons (hsame env' hname), applyLines_cons hline]
      exact ih h hset.2

/-- the first of some lines that assigns to a name gives it this value, read in the environment that the lines in front
of it left -/
def IsFirstValue (env : Environment) (ls : List Bytes) (name value : String) : Prop :=
  ∃ before line after, ls = before ++ line :: after ∧ (∀ l ∈ before, ¬AssignsTo l name) ∧
    reading (applyLines env before).1 line = .ok (some (name, value))

theorem applyLines_front {before rest : List Bytes} (h : (applyLines env (before ++ rest)).2 = none) :
    (applyLines env before).2 = none := by
  induction before generalizing env with
  | nil => rfl
  | cons line before ih =>
    cases hline : applyLine env line with
    | error fault =>
      rw [List.cons_append, applyLines, hline] at h
      cases h
    | ok env' =>
      rw [List.cons_append, applyLines_cons hline] at h
      rw [applyLines_cons hline]
      exact ih h

theorem assigns_iff {line : Bytes} {name value : String} :
    Assigns env line name value ↔ reading env line = .ok (some (name, value)) := by
  rw [Assigns, reading]
  cases Text.ofUtf8? line <;> simp

/-- what is not set takes its first value -/
theorem get?_applyLines_of_unset {ls : List Bytes} (h : (applyLines env ls).2 = none) {name : String}
    (hunset : env.get? name = none) (value : String) :
    (applyLines env ls).1.get? name = some value ↔ IsFirstValue env ls name value := by
  have hbefore {before rest : List Bytes} (hls : ls = before ++ rest) :
      (applyLines env before).1.get? name = none ↔ ∀ l ∈ before, ¬AssignsTo l name := by
    have hset := isSet_applyLines (applyLines_front (hls ▸ h)) name
    rw [Environment.isSet, Environment.isSet, hunset] at hset
    rw [← Option.not_isSome_iff_eq_none, hset]
    simp
  rw [get?_applyLines h]
  constructor
  · rintro (hset | ⟨-, before, line, after, hls, hnone, hassigns⟩)
    · cases hunset.symm.trans hset
    · exact ⟨before, line, after, hls, (hbefore hls).1 hnone, assigns_iff.1 hassigns⟩
  · rintro ⟨before, line, after, hls, hnone, hreading⟩
    exact .inr ⟨hunset, before, line, after, hls, (hbefore hls).2 hnone, assigns_iff.2 hreading⟩

/-! ## The character NUL -/

theorem nul_not_mem_referred (henv : env.NoNul) (name : List Char) : '\x00' ∉ referred env name := by
  rw [referred]
  cases hvalue : env.get? (String.ofList name) with
  | none => exact List.not_mem_nil
  | some value => exact henv _ value hvalue

theorem nul_not_mem_escaped {c x : Char} (hc : c ≠ '\x00') (h : escaped? c = some x) : x ≠ '\x00' := by
  rw [escaped?] at h
  split_ifs at h <;> cases h
  · exact hc
  · decide

theorem nul_not_mem_step (henv : env.NoNul) {st next : ValueState} {c : Char} {out : List Char} (hc : c ≠ '\x00')
    (h : st.step env c = some (out, next)) : '\x00' ∉ out := by
  have hreferred := nul_not_mem_referred henv
  cases st with
  | text | strong | reference | braces | blank =>
    simp only [ValueState.step] at h
    split_ifs at h <;> cases h <;> simp [hc.symm, hreferred]
  | escape weak =>
    obtain ⟨x, hx, hout⟩ := Option.map_eq_some_iff.1 h
    cases hout
    simpa using (nul_not_mem_escaped hc hx).symm
  | comment =>
    cases h
    exact List.not_mem_nil

theorem nul_not_mem_finish (henv : env.NoNul) {st : ValueState} {out : List Char} (h : st.finish env = some out) :
    '\x00' ∉ out := by
  cases st with
  | text | escape =>
    simp only [ValueState.finish] at h
    split_ifs at h
    cases h
    exact List.not_mem_nil
  | reference weak name =>
    simp only [ValueState.finish] at h
    split_ifs at h
    cases h
    exact nul_not_mem_referred henv name
  | strong | braces => cases h
  | blank | comment =>
    cases h
    exact List.not_mem_nil

theorem nul_not_mem_readValueFrom (henv : env.NoNul) {cs : List Char} (hcs : '\x00' ∉ cs) {st : ValueState}
    {index : Nat} {out : List Char} (h : readValueFrom env st index cs = .ok out) : '\x00' ∉ out := by
  induction cs generalizing st index out with
  | nil =>
    rw [readValueFrom] at h
    split at h
    · rename_i hfinish
      cases h
      exact nul_not_mem_finish henv hfinish
    · cases h
  | cons c cs ih =>
    rw [List.mem_cons, not_or] at hcs
    rw [readValueFrom] at h
    split at h
    · cases h
    · rename_i hstep
      obtain ⟨rest, hrest, rfl⟩ := map_eq_ok h
      rw [List.mem_append, not_or]
      exact ⟨nul_not_mem_step henv (Ne.symm hcs.1) hstep, ih hcs.2 hrest⟩

theorem splitName_subset {cs name rest : List Char} (h : splitName cs = some (name, rest)) : rest ⊆ cs := by
  cases cs with
  | nil => cases h
  | cons c cs =>
    simp only [splitName] at h
    split_ifs at h
    cases h
    exact (List.dropWhile_sublist _).subset

theorem skipBlanks_subset (cs : List Char) : skipBlanks cs ⊆ cs :=
  (List.dropWhile_sublist _).subset

theorem value_subset {rest value : List Char} (h : skipBlanks rest = '=' :: value) : value ⊆ rest :=
  List.Subset.trans (List.subset_cons_self _ _) (h ▸ skipBlanks_subset rest)

/-- the value of a line is made of characters of the line -/
theorem splitAssignment_subset {cs name value : List Char} (h : splitAssignment cs = .ok (name, value)) :
    value ⊆ cs := by
  rw [splitAssignment] at h
  split at h
  · cases h
  · rename_i hname
    split at h
    · rename_i hvalue
      cases h
      exact List.Subset.trans (value_subset hvalue) (splitName_subset hname)
    · split_ifs at h
      split at h
      · cases h
      · rename_i hname'
        split at h
        · rename_i hvalue
          cases h
          have hrest := List.Subset.trans (skipBlanks_subset _) (splitName_subset hname)
          exact List.Subset.trans (value_subset hvalue) (List.Subset.trans (splitName_subset hname') hrest)
        · cases h

theorem nul_not_mem_readValue (henv : env.NoNul) {cs : List Char} (hcs : '\x00' ∉ cs) {value : String}
    (h : readValue env cs = .ok value) : '\x00' ∉ value.toList := by
  rw [readValue] at h
  split at h
  · rename_i hread
    cases h
    rw [String.toList_ofList]
    exact nul_not_mem_readValueFrom henv hcs hread
  · cases h
  · cases h

theorem nul_not_mem_reading (henv : env.NoNul) {line : Bytes} (hline : (0x00 : UInt8) ∉ line) {name value : String}
    (h : reading env line = .ok (some (name, value))) : '\x00' ∉ value.toList := by
  rw [reading] at h
  split at h
  · cases h
  · rename_i text htext
    have htextNul : '\x00' ∉ text.toList := by
      rw [← Text.mem_utf8_iff (by decide), Text.utf8_of_ofUtf8? htext]
      exact hline
    have htrimmed : skipBlanks (Text.dropTail Text.isBlank text.toList) ⊆ text.toList := by
      refine List.Subset.trans (skipBlanks_subset _) fun c hc => ?_
      rw [Text.dropTail, List.mem_reverse] at hc
      exact List.mem_reverse.1 ((List.dropWhile_sublist _).subset hc)
    rw [readLine] at h
    dsimp only at h
    split_ifs at h
    · cases h
    split at h
    · cases h
    · rename_i hassignment
      split_ifs at h
      · cases h
        exact List.not_mem_nil
      · obtain ⟨value', hvalue', hsome⟩ := map_eq_ok h
        cases hsome
        refine nul_not_mem_readValue henv (fun hmem => htextNul ?_) hvalue'
        exact htrimmed (splitAssignment_subset hassignment (skipBlanks_subset _ hmem))

theorem reading_ne_nul (env : Environment) (line : Bytes) : reading env line ≠ .error .nulInValue := by
  rw [reading]
  cases Text.ofUtf8? line with
  | none => nofun
  | some text => exact readLine_ne_nul env text

/-- lines without NUL bring no NUL into an environment without it -/
theorem avoidsNul_of_noNul (henv : env.NoNul) {ls : List Bytes} (hls : ∀ line ∈ ls, (0x00 : UInt8) ∉ line) :
    AvoidsNul env ls := by
  induction ls generalizing env with
  | nil => nofun
  | cons line ls ih =>
    rw [List.forall_mem_cons] at hls
    rw [AvoidsNul, applyLines, applyLine_eq]
    rcases hread : reading env line with fault | _ | ⟨name, value⟩
    · intro hfault
      exact reading_ne_nul env line (hread.trans (congrArg _ (Option.some.inj hfault)))
    · exact ih henv hls.2
    · have hvalue : '\x00' ∉ value.toList := nul_not_mem_reading henv hls.1 hread
      dsimp only
      rw [if_neg (by simp [hvalue])]
      exact ih (henv.setIfUnset name hvalue) hls.2

theorem subset_of_mem_lines {bytes line : Bytes} (h : line ∈ lines bytes) : line ⊆ bytes := by
  induction bytes generalizing line with
  | nil => cases h
  | cons b rest ih =>
    rw [lines.eq_def] at h
    dsimp only at h
    have htail {l : Bytes} (hl : l ∈ lines rest) : l ⊆ b :: rest := List.subset_cons_of_subset b (ih hl)
    split_ifs at h
    · rcases List.mem_cons.1 h with rfl | h
      · exact List.nil_subset _
      · exact htail h
    · exact htail h
    · split at h
      · rw [List.mem_singleton.1 h]
        exact List.Subset.refl _
      · rw [List.mem_singleton.1 h]
        exact List.cons_subset_cons b (List.nil_subset _)
      · rename_i hlines
        rcases List.mem_cons.1 h with rfl | h
        · exact List.cons_subset_cons b (ih (hlines ▸ List.mem_cons_self))
        · exact htail (hlines ▸ List.mem_cons_of_mem _ h)

/-! ## Files -/

/-- the result of loading, by the fault of the first bad line -/
def loaded (path : String) : Option Fault → Except Halt Bool
  | none => .ok true
  | some .nulInValue => .error .abort
  | some fault => .error (.failure (.config ("Failed to load " ++ path ++ ": " ++ fault.message)))

theorem loaded_eq_ok_iff {path : String} {fault : Option Fault} : loaded path fault = .ok true ↔ fault = none := by
  rcases fault with _ | _ | _ | _ <;> simp [loaded]

theorem loaded_fails_iff {path : String} {fault : Option Fault} (h : fault ≠ some .nulInValue) :
    (∃ f, loaded path fault = .error (.failure f)) ↔ fault ≠ none := by
  rcases fault with _ | _ | _ | _
  · simp [loaded]
  · simp [loaded]
  · simp [loaded]
  · exact absurd rfl h

theorem load_of_read {files : Files} {path : String} {content : Bytes} (h : files.read path = .ok content)
    (env : Environment) : load files path env =
      ((applyLines env (lines content)).1, loaded path (applyLines env (lines content)).2) := by
  rw [load, Files.contains_of_read h, h]
  dsimp only [apply]
  rcases applyLines env (lines content) with ⟨left, _ | _ | _ | _⟩ <;> rfl

/-- an environment and a result are what loading a file with some content leaves of an environment -/
structure Leaves (env : Environment) (content : Bytes) (left : Environment) (result : Except Halt Bool) : Prop where
  /-- what was set keeps its value -/
  kept : ∀ name value, env.get? name = some value → left.get? name = some value
  /-- what was not set has the first value that the lines in front of the first bad one give it, if they do -/
  added : ∀ name, env.get? name = none → ∀ value,
    left.get? name = some value ↔ IsFirstValue env (goodLines (lines content)) name value
  /-- what these lines assign to is set -/
  present : ∀ line ∈ goodLines (lines content), ∀ name, AssignsTo line name → left.isSet name = true
  /-- loading fails just if there is a bad line -/
  fails : (∃ f, result = .error (.failure f)) ↔ ∃ line ∈ lines content, IsBad line
  finds : result = .ok true ↔ ∀ line ∈ lines content, ¬IsBad line

/-- **Loading a file adds variables, and adds them once.** No file, no change. A file adds, to what is set, the
variables that its lines in front of the first bad one assign to, each with its first value, and loading it fails just
if there is a bad line; to load it once more comes to the same and changes nothing, whatever the values refer to. -/
theorem load_adds_once {files : Files} {path : String} (henv : env.NoNul) :
    (files.contains path = false → load files path env = (env, .ok false)) ∧
      ∀ content, files.read path = .ok content → (0x00 : UInt8) ∉ content →
        Leaves env content (load files path env).1 (load files path env).2 ∧
          load files path (load files path env).1 = load files path env := by
  refine ⟨fun habsent => load_eq_of_absent habsent env, fun content hread hcontent => ?_⟩
  have hnul : AvoidsNul env (lines content) :=
    avoidsNul_of_noNul henv fun line hline hmem => hcontent (subset_of_mem_lines hline hmem)
  obtain ⟨hgood, hnone⟩ := applyLines_goodLines hnul
  have hends : (applyLines env (goodLines (lines content))).2 = none := by rw [hgood]
  have hleft : (applyLines env (goodLines (lines content))).1 = (applyLines env (lines content)).1 := by rw [hgood]
  have hpresent : ∀ line ∈ goodLines (lines content), ∀ name, AssignsTo line name →
      (applyLines env (lines content)).1.isSet name = true := fun line hline name hassigns =>
    hleft ▸ (isSet_applyLines hends name).2 (.inr ⟨line, hline, hassigns⟩)
  rw [load_of_read hread, load_of_read hread]
  refine ⟨?_, ?_⟩
  · exact {
      kept := fun name value hset => get?_applyLines_of_set hset _
      added := fun name hunset value => hleft ▸ get?_applyLines_of_unset hends hunset value
      present := hpresent
      fails := by
        rw [loaded_fails_iff hnul, Ne, hnone]
        push Not
        rfl
      finds := loaded_eq_ok_iff.trans hnone }
  · dsimp only
    rw [applyLines_of_set hnul hpresent]

/-- a reference to a name that is set below comes out empty, also when the file is read again; the line behind the bad
one is lost -/
theorem twice_with_references :
    let env := Environment.ofList [("C", "c")]
    let content := Text.utf8 "B=$A${C}\nA=1\nA=2\nC=x\nA B\nD=4\n"
    let files := Files.lone ".env" content
    let left := Environment.ofList [("C", "c"), ("B", "c"), ("A", "1")]
    let fault := Failure.config "Failed to load .env: Error parsing line: 'A B', error at line index: 2"
    env.NoNul ∧ Leaves env content left (.error (.failure fault)) ∧
      load files ".env" env = (left, .error (.failure fault)) ∧ load files ".env" left = load files ".env" env := by
  intro env content files left fault
  have henv : env.NoNul := Environment.noNul_empty.setIfUnset "C" (by decide)
  have hload : load files ".env" env = (left, .error (.failure fault)) := by decide +kernel
  have hread : files.read ".env" = .ok content := Files.read_lone (by decide) content
  have hagain := (load_adds_once henv).2 content hread (by decide +kernel)
  rw [hload] at hagain
  exact ⟨henv, hagain.1, hload, hload ▸ hagain.2⟩

end EnvFile

end LoadTrial
