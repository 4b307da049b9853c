/-
URLs up to their paths.

The part of a special URL with user, host and port is read on its own (`readPlace`): `parseAuthority_special` takes the
reader apart into that and the reader of what follows. So a URL that is read goes on to be read, with the same scheme,
host and port, whatever path is written behind it (`IsSplit.append`).
-/
import LoadTrial.Proofs.Url.Path

namespace LoadTrial.Url

/-! ## Beginnings of lists -/

section Beginnings

variable {α : Type} {p : α → Bool} {xs ys : List α}

theorem takeWhile_append_of_head (h : ∀ y ∈ ys.head?, p y = false) : (xs ++ ys).takeWhile p = xs.takeWhile p := by
  induction xs with
  | nil =>
    cases ys with
    | nil => rfl
    | cons y ys => simp [h y rfl]
  | cons x xs ih =>
    rw [List.cons_append, List.takeWhile_cons, List.takeWhile_cons, ih]

theorem dropWhile_append_of_head (h : ∀ y ∈ ys.head?, p y = false) :
    (xs ++ ys).dropWhile p = xs.dropWhile p ++ ys := by
  induction xs with
  | nil =>
    cases ys with
    | nil => rfl
    | cons y ys => simp [h y rfl]
  | cons x xs ih =>
    rw [List.cons_append, List.dropWhile_cons, List.dropWhile_cons]
    split_ifs
    · exact ih
    · rfl

theorem dropWhile_append_of_ne_nil (h : xs.dropWhile p ≠ []) : (xs ++ ys).dropWhile p = xs.dropWhile p ++ ys := by
  rw [List.dropWhile_append, if_neg (by simpa using h)]

theorem head_dropWhile (p : α → Bool) (xs : List α) : ∀ x ∈ (xs.dropWhile p).head?, p x = false := by
  intro x hx
  have h := List.head?_dropWhile_not p xs
  rw [Option.mem_def.1 hx] at h
  exact h

end Beginnings

/-- nothing, or a path that begins with a slash -/
def StartsPath (cs : List Char) : Prop :=
  ∀ c ∈ cs.head?, c = '/'

theorem startsPath_replicate (k : Nat) : StartsPath (List.replicate k '/') := by
  cases k with
  | zero => nofun
  | succ k =>
    rintro c ⟨⟩
    rfl

theorem startsPath_cons (cs : List Char) : StartsPath ('/' :: cs) := by
  rintro c ⟨⟩
  rfl

theorem StartsPath.endsAuthority_append {x : List Char} (hx : StartsPath x) {tail : List Char}
    (htail : ∀ c ∈ tail.head?, endsAuthority true c = true) : ∀ c ∈ (tail ++ x).head?, endsAuthority true c = true := by
  cases tail with
  | nil =>
    intro c hc
    rw [hx c hc]
    decide
  | cons d tail => exact htail

/-! ## Schemes -/

/-- what stands behind a colon in front -/
def behindColon : List Char → Option (List Char)
  | ':' :: rest => some rest
  | _ => none

theorem behindColon_cons_of_ne {c : Char} (h : c ≠ ':') (cs : List Char) : behindColon (c :: cs) = none := by
  rw [behindColon]
  rintro rest ⟨⟩
  exact h rfl

/-- something that cannot belong to a scheme -/
def OutsideScheme (cs : List Char) : Prop :=
  ∀ c ∈ cs.head?, isSchemeChar c = false ∧ c ≠ ':'

theorem StartsPath.outsideScheme {cs : List Char} (h : StartsPath cs) : OutsideScheme cs := by
  intro c hc
  rw [h c hc]
  decide

theorem behindColon_append {cs x : List Char} (hx : OutsideScheme x) :
    behindColon (cs ++ x) = (behindColon cs).map (· ++ x) := by
  cases cs with
  | nil =>
    cases x with
    | nil => rfl
    | cons c x => exact behindColon_cons_of_ne (hx c rfl).2 x
  | cons c cs =>
    by_cases hc : c = ':'
    · subst hc
      rfl
    · rw [List.cons_append, behindColon_cons_of_ne hc, behindColon_cons_of_ne hc]
      rfl

theorem splitScheme_cons (c : Char) (cs : List Char) : splitScheme (c :: cs) =
    if c.isAlpha then (behindColon ((c :: cs).dropWhile isSchemeChar)).map fun rest =>
      (((c :: cs).takeWhile isSchemeChar).map Char.toLower, rest)
    else none := by
  rw [splitScheme]
  cases c.isAlpha with
  | false => rfl
  | true =>
    rcases (c :: cs).dropWhile isSchemeChar with _ | ⟨d, rest⟩
    · rfl
    · by_cases hd : d = ':'
      · subst hd
        rfl
      · rw [behindColon_cons_of_ne hd]
        simp only [Bool.not_true, Bool.false_eq_true, if_false, if_true, Option.map_none]
        split
        · rename_i heq
          cases heq
          exact absurd rfl hd
        · rfl

/-- what stands behind a scheme stands behind it still if something is appended -/
theorem splitScheme_append {cs x : List Char} (hx : OutsideScheme x) :
    splitScheme (cs ++ x) = (splitScheme cs).map fun p => (p.1, p.2 ++ x) := by
  have hhead : ∀ c ∈ x.head?, isSchemeChar c = false := fun c hc => (hx c hc).1
  cases cs with
  | nil =>
    cases x with
    | nil => rfl
    | cons c x =>
      have halpha : c.isAlpha = false := by
        have hscheme := hhead c rfl
        simp only [isSchemeChar, Char.isAlphanum, Bool.or_eq_false_iff] at hscheme
        exact hscheme.1.1.1.1
      rw [List.nil_append, splitScheme_cons, halpha]
      rfl
  | cons c cs =>
    rw [List.cons_append, splitScheme_cons, splitScheme_cons, ← List.cons_append, takeWhile_append_of_head hhead,
      dropWhile_append_of_head hhead, behindColon_append hx]
    split_ifs
    · rw [Option.map_map, Option.map_map]
      rfl
    · rfl

/-! ## Host and port -/

/-- the part behind the last at sign -/
def placeOf (authority : List Char) : List Char :=
  (authority.reverse.takeWhile (· != '@')).reverse

/-- host and port of a special URL, from the part with user, host and port -/
def readPlace (scheme : String) (authority : List Char) : Except Fault (Host × Option UInt16) :=
  let (name, behind) := hostPart false (placeOf authority)
  if name.isEmpty then .error .emptyHost
  else match parseHost name with
    | .error f => .error f
    | .ok host => match behindColon behind with
      | some port => (parsePort scheme port).map fun p => (host, p.1)
      | none => .ok (host, none)

theorem hostPart_append (inBrackets : Bool) (cs : List Char) :
    (hostPart inBrackets cs).1 ++ (hostPart inBrackets cs).2 = cs := by
  induction cs generalizing inBrackets with
  | nil => rfl
  | cons c rest ih =>
    rw [hostPart]
    split_ifs
    · rfl
    · exact congrArg (c :: ·) (ih _)

theorem mem_placeOf {authority : List Char} {c : Char} (h : c ∈ placeOf authority) : c ∈ authority :=
  List.mem_reverse.1 ((List.takeWhile_sublist _).subset (List.mem_reverse.1 h))

/-- a port ends where the part with user, host and port does -/
theorem parsePort_append (scheme : String) {port rest : List Char} (hport : ∀ c ∈ port, endsAuthority true c = false)
    (hrest : ∀ c ∈ rest.head?, endsAuthority true c = true) :
    parsePort scheme (port ++ rest) = (parsePort scheme port).map fun p => (p.1, rest) := by
  have hdigit : ∀ c ∈ rest.head?, c.isDigit = false := by
    intro c hc
    have hends := hrest c hc
    simp only [endsAuthority, isSlash, endsPath, Bool.true_and, Bool.or_eq_true, beq_iff_eq] at hends
    rcases hends with (rfl | rfl) | rfl | rfl <;> decide
  rw [parsePort, parsePort, takeWhile_append_of_head hdigit, dropWhile_append_of_head hdigit]
  by_cases hlarge : 65535 < Number.ofDigits (port.takeWhile Char.isDigit)
  · simp only [hlarge, if_true]
    rfl
  · simp only [hlarge, if_false]
    rcases hbehind : port.dropWhile Char.isDigit with _ | ⟨c, more⟩
    · have hany : rest.head?.any (!endsAuthority true ·) = false := by
        cases rest with
        | nil => rfl
        | cons c rest => simp [hrest c rfl]
      simp [hany]
      rfl
    · have hc : endsAuthority true c = false :=
        hport c ((List.dropWhile_sublist _).subset (hbehind ▸ List.mem_cons_self))
      simp [hc]
      rfl

theorem splitUser_eq (authority : List Char) : splitUser authority = none ∧ placeOf authority = authority ∨
    ∃ user, splitUser authority = some (user, placeOf authority) := by
  rw [splitUser, placeOf]
  rcases hsplit : authority.reverse.dropWhile (· != '@') with _ | ⟨c, user⟩
  · have hwhole : authority.reverse.takeWhile (· != '@') = authority.reverse :=
      List.takeWhile_eq_self_iff.2 (List.dropWhile_eq_nil_iff.1 hsplit)
    exact .inl ⟨rfl, by rw [hwhole, List.reverse_reverse]⟩
  · exact .inr ⟨user.reverse, rfl⟩

/-- the host is read, and what stands behind it if that is a port -/
def readHost (scheme : String) (name behind rest : List Char) : Except Fault Url :=
  match parseHost name with
  | .error f => .error f
  | .ok host => match behindColon behind with
    | some port => (parsePort scheme (port ++ rest)).map fun p => withPath scheme (some host) p.1 true p.2
    | none => .ok (withPath scheme (some host) none true rest)

theorem readHost_eq (scheme : String) (name behind rest : List Char) :
    (match parseHost name with
      | .error f => .error f
      | .ok host => match behind with
        | ':' :: port => match parsePort scheme (port ++ rest) with
          | .error f => .error f
          | .ok (port, rest) => .ok (withPath scheme (some host) port true rest)
        | _ => .ok (withPath scheme (some host) none true rest)) = readHost scheme name behind rest := by
  rw [readHost]
  cases parseHost name with
  | error f => rfl
  | ok host =>
    rcases behind with _ | ⟨c, port⟩
    · rfl
    · by_cases hc : c = ':'
      · subst hc
        simp only [behindColon]
        cases parsePort scheme (port ++ rest) <;> rfl
      · simp only [behindColon_cons_of_ne hc]
        split
        · rename_i heq
          cases heq
          exact absurd rfl hc
        · rfl

/-- the user does not count -/
theorem parseAuthority_eq (scheme : String) {cs authority rest : List Char}
    (hauthority : cs.takeWhile (!endsAuthority true ·) = authority)
    (hrest : cs.dropWhile (!endsAuthority true ·) = rest) :
    parseAuthority scheme true cs =
      if (hostPart false (placeOf authority)).1.isEmpty then .error .emptyHost
      else readHost scheme (hostPart false (placeOf authority)).1 (hostPart false (placeOf authority)).2 rest := by
  rw [parseAuthority, hauthority, hrest]
  rcases hhost : hostPart false (placeOf authority) with ⟨name, behind⟩
  have hempty : (placeOf authority).isEmpty = true → name.isEmpty = true := by
    intro hplace
    rw [List.isEmpty_iff.1 hplace] at hhost
    cases hhost
    rfl
  rcases splitUser_eq authority with ⟨hsplit, hplace⟩ | ⟨user, hsplit⟩
  · rw [hplace] at hhost hempty
    simp only [hsplit, hhost, Bool.false_and, Bool.true_and, Bool.false_eq_true, if_false, if_true]
    cases hname : name.isEmpty with
    | true => rfl
    | false =>
      simp only [Bool.false_and, Bool.false_eq_true, if_false]
      exact readHost_eq scheme name behind rest
  · simp only [hsplit, hhost, Bool.true_and, if_true]
    cases hname : name.isEmpty with
    | true =>
      simp only [if_true]
      exact ite_self _
    | false =>
      have hplace : (placeOf authority).isEmpty = false := by
        rw [Bool.eq_false_iff]
        intro hplace
        rw [hempty hplace] at hname
        cases hname
      simp only [hplace, Bool.and_false, Bool.false_and, Bool.false_eq_true, if_false]
      exact readHost_eq scheme name behind rest

/-- a special URL is its part with user, host and port, and the path behind it -/
theorem parseAuthority_special (scheme : String) (cs : List Char) :
    parseAuthority scheme true cs = (readPlace scheme (cs.takeWhile (!endsAuthority true ·))).map fun place =>
      withPath scheme (some place.1) place.2 true (cs.dropWhile (!endsAuthority true ·)) := by
  rw [parseAuthority_eq scheme rfl rfl, readPlace]
  have hparts := hostPart_append false (placeOf (cs.takeWhile (!endsAuthority true ·)))
  rcases hhost : hostPart false (placeOf (cs.takeWhile (!endsAuthority true ·))) with ⟨name, behind⟩
  rw [hhost] at hparts
  have hbehind : ∀ c ∈ behind, endsAuthority true c = false := by
    intro c hc
    have hmem := mem_placeOf (hparts ▸ List.mem_append_right name hc)
    simpa using List.mem_takeWhile_imp hmem
  have hrest : ∀ c ∈ (cs.dropWhile (!endsAuthority true ·)).head?, endsAuthority true c = true := fun c hc => by
    simpa using head_dropWhile (!endsAuthority true ·) cs c hc
  cases hname : name.isEmpty with
  | true =>
    simp only [hname, if_true]
    rfl
  | false =>
    simp only [hname, Bool.false_eq_true, if_false, readHost]
    cases parseHost name with
    | error f => rfl
    | ok host =>
      rcases behind with _ | ⟨c, port⟩
      · rfl
      · by_cases hc : c = ':'
        · subst hc
          simp only [behindColon, parsePort_append scheme (List.forall_mem_cons.1 hbehind).2 hrest]
          cases parsePort scheme port <;> rfl
        · simp only [behindColon_cons_of_ne hc]
          rfl

theorem parseAuthority_append (scheme : String) {authority rest : List Char}
    (hauthority : ∀ c ∈ authority, endsAuthority true c = false)
    (hrest : ∀ c ∈ rest.head?, endsAuthority true c = true) :
    parseAuthority scheme true (authority ++ rest) =
      (readPlace scheme authority).map fun place => withPath scheme (some place.1) place.2 true rest := by
  have hall : ∀ c ∈ authority, (!endsAuthority true c) = true := fun c hc => by simp [hauthority c hc]
  have hstop : ∀ c ∈ rest.head?, (!endsAuthority true c) = false := fun c hc => by simp [hrest c hc]
  rw [parseAuthority_special, takeWhile_append_of_head hstop, dropWhile_append_of_head hstop,
    List.takeWhile_eq_self_iff.2 hall, List.dropWhile_eq_nil_iff.2 hall, List.nil_append]

/-! ## Whole URLs -/

/-- reads the characters of a URL that count -/
def ofSignificant (cs : List Char) : Except Fault Url :=
  match splitScheme cs with
  | none => .error .relative
  | some (scheme, rest) =>
    let scheme := String.ofList scheme
    match syntaxOf scheme with
    | .special => parseAuthority scheme true (rest.dropWhile (isSlash true))
    | .file => parseFile rest
    | .other =>
      match rest with
      | '/' :: '/' :: behind => parseAuthority scheme false behind
      | '/' :: _ => .ok (withPath scheme none none false rest)
      | _ => .ok (parseOpaque scheme rest)

theorem parse_eq (s : String) : parse s = ofSignificant (significant s.toList) := rfl

theorem scheme_of_parseAuthority {scheme : String} {special : Bool} {cs : List Char} {u : Url}
    (h : parseAuthority scheme special cs = .ok u) : u.scheme = scheme := by
  unfold parseAuthority at h
  dsimp only at h
  repeat' split at h
  all_goals cases h <;> rfl

theorem scheme_of_parseFile {cs : List Char} {u : Url} (h : parseFile cs = .ok u) : u.scheme = "file" := by
  unfold parseFile at h
  dsimp only at h
  split at h
  · split_ifs at h
    · cases h
      rfl
    · cases h
      rfl
    · split at h <;> cases h <;> rfl
    · cases h
      rfl
  · cases h
    rfl

/-- the scheme of a URL is the one that its text begins with -/
theorem splitScheme_of_ofSignificant {cs : List Char} {u : Url} (h : ofSignificant cs = .ok u) :
    ∃ scheme rest, splitScheme cs = some (scheme, rest) ∧ u.scheme = String.ofList scheme := by
  unfold ofSignificant at h
  rcases hscheme : splitScheme cs with _ | ⟨scheme, rest⟩
  · rw [hscheme] at h
    cases h
  · refine ⟨scheme, rest, rfl, ?_⟩
    rw [hscheme] at h
    dsimp only at h
    rcases hkind : syntaxOf (String.ofList scheme) with _ | _ | _
    · rw [hkind] at h
      exact scheme_of_parseAuthority h
    · have hfile : String.ofList scheme = "file" := by
        by_contra hne
        rw [syntaxOf, if_neg (by simpa using hne)] at hkind
        split_ifs at hkind
      rw [hkind] at h
      exact (scheme_of_parseFile h).trans hfile.symm
    · rw [hkind] at h
      dsimp only at h
      split at h
      · exact scheme_of_parseAuthority h
      · cases h
        rfl
      · cases h
        rfl

/-- a special URL, as far as it is read: the part with user, host and port, and what stands behind it -/
structure IsSplit (cs : List Char) (scheme : String) (authority tail : List Char) (host : Host) (port : Option UInt16) :
    Prop where
  character : ∀ c ∈ authority, endsAuthority true c = false
  behind : ∀ c ∈ tail.head?, endsAuthority true c = true
  place : readPlace scheme authority = .ok (host, port)
  read : ∀ x, OutsideScheme x → ofSignificant (cs ++ x) = parseAuthority scheme true (authority ++ (tail ++ x))

theorem exists_isSplit {cs : List Char} {k : Nat} {u : Url} (h : ofSignificant (cs ++ List.replicate k '/') = .ok u)
    (hspecial : syntaxOf u.scheme = .special) :
    ∃ authority tail host port, IsSplit cs u.scheme authority tail host port := by
  have hslashes := startsPath_replicate k
  obtain ⟨scheme, rest, hwhole, hu⟩ := splitScheme_of_ofSignificant h
  rw [splitScheme_append hslashes.outsideScheme, Option.map_eq_some_iff] at hwhole
  obtain ⟨⟨scheme', behind⟩, hscheme, hbehind⟩ := hwhole
  cases hbehind
  have hread (x : List Char) (hx : OutsideScheme x) : ofSignificant (cs ++ x) =
      parseAuthority u.scheme true ((behind ++ x).dropWhile (isSlash true)) := by
    rw [ofSignificant, splitScheme_append hx, hscheme]
    dsimp only [Option.map_some]
    rw [← hu, hspecial]
  rw [hread _ hslashes.outsideScheme] at h
  have hne : behind.dropWhile (isSlash true) ≠ [] := by
    intro hnil
    have hall : (behind ++ List.replicate k '/').dropWhile (isSlash true) = [] := by
      rw [List.dropWhile_eq_nil_iff] at hnil ⊢
      intro c hc
      rcases List.mem_append.1 hc with hc | hc
      · exact hnil c hc
      · rw [List.eq_of_mem_replicate hc]
        decide
    rw [hall, parseAuthority_special] at h
    cases h
  generalize hwhole : behind.dropWhile (isSlash true) = whole at hne
  rw [dropWhile_append_of_ne_nil (hwhole ▸ hne), hwhole] at h
  have hauthority : ∀ c ∈ whole.takeWhile (!endsAuthority true ·), endsAuthority true c = false := fun c hc => by
    simpa using List.mem_takeWhile_imp hc
  have htail : ∀ c ∈ (whole.dropWhile (!endsAuthority true ·)).head?, endsAuthority true c = true := fun c hc => by
    simpa using head_dropWhile (!endsAuthority true ·) _ c hc
  have hrest : ∀ c ∈ (whole.dropWhile (!endsAuthority true ·) ++ List.replicate k '/').head?,
      endsAuthority true c = true := hslashes.endsAuthority_append htail
  rw [← List.takeWhile_append_dropWhile (p := (!endsAuthority true ·)) (l := whole), List.append_assoc,
    parseAuthority_append _ hauthority hrest] at h
  rcases hplace : readPlace u.scheme (whole.takeWhile (!endsAuthority true ·)) with f | ⟨host, port⟩
  · rw [hplace] at h
    cases h
  · refine ⟨_, _, host, port, hauthority, htail, hplace, fun x hx => ?_⟩
    rw [hread x hx, dropWhile_append_of_ne_nil (hwhole ▸ hne), hwhole, ← List.append_assoc,
      List.takeWhile_append_dropWhile]

/-- a special URL goes on to be read, with the same host and port, whatever path is written behind it -/
theorem IsSplit.append {cs authority tail : List Char} {scheme : String} {host : Host} {port : Option UInt16}
    (h : IsSplit cs scheme authority tail host port) {x : List Char} (hx : StartsPath x) :
    ofSignificant (cs ++ x) = .ok (withPath scheme (some host) port true (tail ++ x)) := by
  rw [h.read x hx.outsideScheme, parseAuthority_append scheme h.character (hx.endsAuthority_append h.behind), h.place]
  rfl

end LoadTrial.Url
