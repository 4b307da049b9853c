/-
What an environment file leaves behind.

The variables that were set keep their values, and one that was not takes its value from the first line that gives it
one, read in the environment that the lines before left (`get?_applyLines`, `Extends`). A line with a value between
single quotes gives its name exactly that value, whatever characters stand in it (`apply_quoted`): nothing in it is
taken for a blank, an escape, a reference or a comment.
-/
import Mathlib.Tactic
import LoadTrial.Proofs.Loading
import LoadTrial.Proofs.Utf8

namespace LoadTrial

namespace Files

/-- a directory with no file -/
def bare : Files := ⟨fun _ => .error .noSuchFile⟩

/-- a directory with one file -/
def lone (path : String) (content : Bytes) : Files :=
  ⟨fun other => if other == path then .ok (.file content) else .error .noSuchFile⟩

theorem contains_bare (path : String) : bare.contains path = false :=
  Bool.and_false _

theorem read_lone {path : String} (h : '\x00' ∉ path.toList) (content : Bytes) :
    (lone path content).read path = .ok content := by
  simp [lone, read, h]

end Files

namespace EnvFile

variable {env : Environment}

/-! ## The environment behind some lines -/

/-- a line gives a name a value, read in an environment -/
def Assigns (env : Environment) (line : Bytes) (name value : String) : Prop :=
  ∃ text, Text.ofUtf8? line = some text ∧ readLine env text = .ok (some (name, value))

/-- the first of some lines that gives a name a value gives it this one -/
def FirstAssigns (env : Environment) (ls : List Bytes) (name value : String) : Prop :=
  ∃ before line after, ls = before ++ line :: after ∧ (applyLines env before).1.get? name = none ∧
    Assigns (applyLines env before).1 line name value

theorem get?_applyLine {line : Bytes} {env' : Environment} (h : applyLine env line = .ok env') (name value : String) :
    env'.get? name = some value ↔
      env.get? name = some value ∨ (env.get? name = none ∧ Assigns env line name value) := by
  unfold applyLine at h
  unfold Assigns
  cases htext : Text.ofUtf8? line with
  | none =>
    rw [htext] at h
    cases h
  | some text =>
    simp only [htext] at h
    rcases hread : readLine env text with fault | assignment
    · rw [hread] at h
      cases h
    · rcases assignment with _ | ⟨name', value'⟩
      · rw [hread] at h
        cases h
        simp [hread]
      · simp only [hread] at h
        split_ifs at h
        cases h
        rw [Environment.get?_setIfUnset]
        by_cases hname : name = name' ∧ env.get? name' = none
        · obtain ⟨rfl, hunset⟩ := hname
          simp [hunset, hread, eq_comm]
        · rw [if_neg hname]
          constructor
          · exact .inl
          · rintro (hset | ⟨hunset, text', htext', hread'⟩)
            · exact hset
            · cases htext'
              rw [hread] at hread'
              cases hread'
              exact absurd ⟨rfl, hunset⟩ hname

theorem applyLines_cons {line : Bytes} {env' : Environment} (h : applyLine env line = .ok env') (ls : List Bytes) :
    applyLines env (line :: ls) = applyLines env' ls := by
  rw [applyLines, h]

/-- what is set stays, also if a line is bad -/
theorem get?_applyLines_of_set {name value : String} (h : env.get? name = some value) (ls : List Bytes) :
    (applyLines env ls).1.get? name = some value := by
  induction ls generalizing env with
  | nil => exact h
  | cons line ls ih =>
    cases hline : applyLine env line with
    | error fault =>
      rw [applyLines, hline]
      exact h
    | ok env' =>
      rw [applyLines_cons hline]
      exact ih ((get?_applyLine hline name value).2 (.inl h))

theorem unset_of_applyLines {name : String} {ls : List Bytes} (h : (applyLines env ls).1.get? name = none) :
    env.get? name = none := by
  rw [Option.eq_none_iff_forall_ne_some] at h ⊢
  exact fun value hset => h value (get?_applyLines_of_set hset ls)

/-- what is not set is set by the first line that does so -/
theorem get?_applyLines {ls : List Bytes} (h : (applyLines env ls).2 = none) (name value : String) :
    (applyLines env ls).1.get? name = some value ↔
      env.get? name = some value ∨ (env.get? name = none ∧ FirstAssigns env ls name value) := by
  induction ls generalizing env with
  | nil => simp [applyLines, FirstAssigns]
  | cons line ls ih =>
    cases hline : applyLine env line with
    | error fault =>
      rw [applyLines, hline] at h
      cases h
    | ok env' =>
      have hrest := applyLines_cons hline
      rw [hrest] at h ⊢
      rw [ih h, get?_applyLine hline]
      constructor
      · rintro ((hset | ⟨hunset, hassigns⟩) | ⟨hunset, before, line', after, rfl, hbefore, hassigns⟩)
        · exact .inl hset
        · exact .inr ⟨hunset, [], line, ls, rfl, hunset, hassigns⟩
        · have hlines : (applyLines env (line :: before)).1.get? name = none := by rwa [hrest]
          refine .inr ⟨unset_of_applyLines hlines, line :: before, line', after, rfl, hlines, ?_⟩
          rwa [hrest]
      · rintro (hset | ⟨hunset, before, line', after, hsplit, hbefore, hassigns⟩)
        · exact .inl (.inl hset)
        · cases before with
          | nil =>
            cases hsplit
            exact .inl (.inr ⟨hunset, hassigns⟩)
          | cons _ before =>
            cases hsplit
            rw [hrest] at hbefore hassigns
            exact .inr ⟨unset_of_applyLines hbefore, before, line', after, rfl, hbefore, hassigns⟩

/-- an environment adds to another one what a file gives to names that are not set there -/
structure Extends (files : Files) (path : String) (env env' : Environment) : Prop where
  /-- what is set stays -/
  kept : ∀ name value, env.get? name = some value → env'.get? name = some value
  /-- what is added comes from the file -/
  added : ∀ name value, env.get? name = none → (env'.get? name = some value ↔
    ∃ content, files.read path = .ok content ∧ FirstAssigns env (lines content) name value)

theorem load_extends {files : Files} {path : String} {found : Bool} (h : (load files path env).2 = .ok found) :
    Extends files path env (load files path env).1 := by
  unfold load at h ⊢
  cases hread : files.read path with
  | error e =>
    cases hcontains : files.contains path with
    | false => exact ⟨fun _ _ hset => hset, fun name value hunset => by simp [hunset, hread]⟩
    | true =>
      simp only [hcontains, hread, Bool.not_true, Bool.false_eq_true, if_false] at h
      cases h
  | ok content =>
    simp only [Files.contains_of_read hread, Bool.not_true, Bool.false_eq_true, if_false, hread, apply] at h ⊢
    have hlines : (applyLines env (lines content)).2 = none → _ := get?_applyLines
    rcases happly : applyLines env (lines content) with ⟨env', _ | fault⟩
    · simp only [happly, forall_const] at hlines ⊢
      exact ⟨fun name value hset => (hlines name value).2 (.inl hset), fun name value hunset => by
        simp [hlines, hunset, hread]⟩
    · rw [happly] at h
      cases fault <;> cases h

/-! ## Bytes of a line -/

/-- the ways in which a file of one line may end -/
def lineEnds : List Bytes := [[], [0x0A], [0x0D, 0x0A]]

theorem lines_cons {b : UInt8} {rest line : Bytes} {more : List Bytes} (hb : b ≠ 0x0A)
    (hbreak : ¬ (b = 0x0D ∧ rest.head? = some 0x0A)) (hrest : lines rest = line :: more) :
    lines (b :: rest) = (b :: line) :: more := by
  cases rest with
  | nil => cases hrest
  | cons b' rest =>
    rw [lines.eq_def]
    simp only [hrest, if_neg (show ¬ (b == 0x0A) = true by simpa using hb)]
    rw [if_neg (by simpa using hbreak)]

/-- bytes without a line break are one line, whatever of the line ends follows their last byte -/
theorem lines_single {bytes : Bytes} {last : UInt8} (h : (0x0A : UInt8) ∉ bytes ++ [last]) (hlast : last ≠ 0x0D)
    {ending : Bytes} (hending : ending ∈ lineEnds) : lines (bytes ++ [last] ++ ending) = [bytes ++ [last]] := by
  induction bytes with
  | nil =>
    have hne : last ≠ 0x0A := fun heq => h (by simp [heq])
    simp only [lineEnds, List.mem_cons, List.not_mem_nil, or_false] at hending
    rcases hending with rfl | rfl | rfl
    · simp [lines, hne]
    · exact lines_cons hne (fun hreturn => hlast hreturn.1) rfl
    · exact lines_cons hne (fun hreturn => hlast hreturn.1) rfl
  | cons b bytes ih =>
    rw [List.cons_append, List.mem_cons, not_or] at h
    obtain ⟨hb, hbytes⟩ := h
    refine lines_cons (Ne.symm hb) (fun hreturn => ?_) (ih hbytes)
    have hhead : (bytes ++ [last] ++ ending).head? = (bytes ++ [last]).head? := by
      cases bytes <;> rfl
    exact hbytes (List.mem_of_mem_head? (hhead ▸ hreturn.2))

/-! ## Quoted values -/

/-- characters that make up a name -/
def IsName (cs : List Char) : Prop :=
  (∃ c rest, cs = c :: rest ∧ isNameStart c = true) ∧ ∀ c ∈ cs, isNameChar c = true

theorem splitName_append {name rest : List Char} (h : IsName name) (hrest : ∀ c ∈ rest.head?, isNameChar c = false) :
    splitName (name ++ rest) = some (name, rest) := by
  obtain ⟨⟨c, cs, rfl, hstart⟩, hchars⟩ := h
  have htake : rest.takeWhile isNameChar = [] := by
    cases rest with
    | nil => rfl
    | cons d ds => rw [List.takeWhile_cons, hrest d rfl]; rfl
  have hdrop : rest.dropWhile isNameChar = rest := by
    cases rest with
    | nil => rfl
    | cons d ds => rw [List.dropWhile_cons, hrest d rfl]; rfl
  rw [List.cons_append, splitName, if_pos hstart, ← List.cons_append, List.takeWhile_append_of_pos hchars,
    List.dropWhile_append_of_pos hchars, htake, hdrop, List.append_nil]

theorem isBlank_of_isNameStart {c : Char} (h : isNameStart c = true) : Text.isBlank c = false := by
  by_contra hblank
  rw [Bool.not_eq_false] at hblank
  change (decide (0x41 ≤ c.val ∧ c.val ≤ 0x5A) || (decide (0x61 ≤ c.val) && decide (c.val ≤ 0x7A)) || c == '_') = true
    at h
  simp only [Text.isBlank, Bool.or_eq_true, Bool.and_eq_true, decide_eq_true_eq, beq_iff_eq, UInt32.le_iff_toNat_le,
    ← UInt32.toNat_inj, Char.ext_iff, UInt32.reduceToNat, Char.reduceVal] at h hblank
  omega

theorem readValueFrom_strong (env : Environment) {cs : List Char} (h : '\'' ∉ cs) (index : Nat) :
    readValueFrom env .strong index (cs ++ ['\'']) = .ok cs := by
  induction cs generalizing index with
  | nil => rfl
  | cons c cs ih =>
    rw [List.mem_cons, not_or] at h
    obtain ⟨hc, hcs⟩ := h
    rw [List.cons_append, readValueFrom, ValueState.step, if_neg (by simpa using Ne.symm hc)]
    simp only [ih hcs]
    rfl

/-- a line that gives a name a value between single quotes -/
def quotedLine (name value : String) : String :=
  name ++ "='" ++ value ++ "'"

theorem readLine_quoted (env : Environment) {name value : String} (hname : IsName name.toList)
    (hvalue : '\'' ∉ value.toList) : readLine env (quotedLine name value) = .ok (some (name, value)) := by
  have htext : (quotedLine name value).toList = name.toList ++ '=' :: '\'' :: (value.toList ++ ['\'']) := by
    simp [quotedLine]
  have hassign : splitAssignment (quotedLine name value).toList =
      .ok (name.toList, '\'' :: (value.toList ++ ['\''])) := by
    rw [htext, splitAssignment, splitName_append hname (by rintro _ ⟨⟩; rfl)]
    rfl
  have hread : readValue env ('\'' :: (value.toList ++ ['\''])) = .ok value := by
    rw [readValue, readValueFrom, ValueState.step]
    simp [readValueFrom_strong env hvalue, Except.map]
  have htrim : Text.dropTail Text.isBlank (quotedLine name value).toList = (quotedLine name value).toList := by
    rw [htext, ← List.cons_append, ← List.cons_append, ← List.append_assoc, Text.dropTail, List.reverse_append,
      List.reverse_singleton, List.singleton_append, List.dropWhile_cons_of_neg (by decide), List.reverse_cons,
      List.reverse_reverse]
  obtain ⟨⟨c, cs, hcs, hstart⟩, -⟩ := hname
  have hfirst : (quotedLine name value).toList = c :: (cs ++ '=' :: '\'' :: (value.toList ++ ['\''])) := by
    rw [htext, hcs, List.cons_append]
  have hskip : skipBlanks (quotedLine name value).toList = (quotedLine name value).toList := by
    rw [hfirst, skipBlanks, List.dropWhile_cons_of_neg (by simp [isBlank_of_isNameStart hstart])]
  have hbare : isBare (quotedLine name value).toList = false := by
    have hne : c ≠ '#' := by
      rintro rfl
      cases hstart
    simp [hfirst, isBare, hne]
  rw [readLine]
  simp only [htrim, hskip, hbare, hassign, Bool.false_eq_true, if_false]
  have hvalueStart : skipBlanks ('\'' :: (value.toList ++ ['\''])) = '\'' :: (value.toList ++ ['\'']) := rfl
  simp [hvalueStart, isBare, hread, Except.map]

/-- **Single quotes keep a value as it is.** A file with one line in which a value stands between single quotes sets
the name to just that value, if it is not set. -/
theorem apply_quoted (env : Environment) {name value : String} (hname : IsName name.toList)
    (hquote : '\'' ∉ value.toList) (hbreak : '\n' ∉ value.toList) (hnul : '\x00' ∉ value.toList) {ending : Bytes}
    (hending : ending ∈ lineEnds) :
    apply env (Text.utf8 (quotedLine name value) ++ ending) = (env.setIfUnset name value, none) := by
  have hline : applyLine env (Text.utf8 (quotedLine name value)) = .ok (env.setIfUnset name value) := by
    simp [applyLine, Text.ofUtf8?_utf8, readLine_quoted env hname hquote, hnul]
  obtain ⟨bytes, hbytes⟩ : ∃ bytes, Text.utf8 (quotedLine name value) = bytes ++ [0x27] := by
    refine ⟨Text.utf8 (name ++ "='" ++ value), ?_⟩
    simp only [Text.utf8_eq_flatMap, quotedLine, String.toList_append, List.flatMap_append]
    rfl
  have hnewline : (0x0A : UInt8) ∉ bytes ++ [0x27] := by
    rw [← hbytes]
    intro hmem
    have hmem' := (Text.mem_utf8_iff (c := '\n') (by decide) _).1 hmem
    simp only [quotedLine, String.toList_append, List.mem_append] at hmem'
    rcases hmem' with ((h | h) | h) | h
    · exact absurd (hname.2 _ h) (by decide)
    · exact absurd h (by decide)
    · exact hbreak h
    · exact absurd h (by decide)
  rw [apply, hbytes, lines_single hnewline (by decide) hending, ← hbytes, applyLines_cons hline, applyLines]

end EnvFile

end LoadTrial
