/-
Names of hosts in ASCII.

A text in ASCII is its own composed normal form: nothing is composed of two characters of which the second is in ASCII
(`compose?_eq_none`). None of its characters is written from right to left, marks another, or joins its neighbours. So a
name in ASCII without a label in Punycode comes to itself in small letters, unless a character may not stand in a name
(`toAscii?_of_ascii`).
-/
import LoadTrial.Proofs.Url.Authority
import LoadTrial.Proofs.Url.HostName

namespace LoadTrial

namespace Unicode

variable {c : Char} {cs : List Char}

/-! ## Normal forms -/

theorem compose?_eq_none {a b : Char} (hb : b.toNat < 0x80) : compose? a b = none := by
  cases h : compose? a b with
  | none => rfl
  | some c =>
    have hparts := compose?_parts h
    omega

theorem combiningClass_of_ascii (hc : c.toNat < 0x80) : combiningClass c = 0 :=
  if_pos (by omega)

theorem order_of_ascii (h : ∀ c ∈ cs, c.toNat < 0x80) : order cs = cs := by
  induction cs with
  | nil => rfl
  | cons c cs ih =>
    rw [List.forall_mem_cons] at h
    rw [order, if_pos (by simp [combiningClass_of_ascii h.1]), ih h.2]

theorem composeFrom_of_ascii (h : ∀ c ∈ cs, c.toNat < 0x80) (starter : Option Char) :
    composeFrom starter [] cs = starter.toList ++ cs := by
  induction cs generalizing starter with
  | nil => rw [composeFrom, List.reverse_nil]
  | cons c cs ih =>
    rw [List.forall_mem_cons] at h
    have hjoined : joined? starter [] c = none := by
      cases starter with
      | none => rfl
      | some s => exact compose?_eq_none h.1
    rw [composeFrom_cons, hjoined]
    simp [combiningClass_of_ascii h.1, ih h.2]

/-- a text in ASCII is in normal form -/
theorem normalForm_of_ascii (h : ∀ c ∈ cs, c.toNat < 0x80) : normalForm cs = cs := by
  have hparts : cs.flatMap decompose = cs := by
    induction cs with
    | nil => rfl
    | cons c cs ih =>
      rw [List.forall_mem_cons] at h
      have hc := h.1
      rw [List.flatMap_cons, decompose_of_lt (by omega), ih h.2, List.singleton_append]
  rw [normalForm, hparts, order_of_ascii h, composeFrom_of_ascii h]
  rfl

/-! ## Direction -/

/-- no range of a table reaches into ASCII -/
def Table.BeyondAscii (lines : List String) : Prop :=
  ∀ line ∈ lines, (rowsFrom [] 0 false line.toList).all (fun row => row.all (0x80 ≤ ·)) = true

theorem Table.BeyondAscii.holds_eq_false {lines : List String} (h : BeyondAscii lines) {n : Nat} (hn : n < 0x80) :
    holds (ranges lines) n = false := by
  rw [holds, List.any_eq_false]
  intro r hr
  obtain ⟨row, hrow, hnumbers⟩ := List.mem_filterMap.1 hr
  obtain ⟨line, hline, hmem⟩ := List.mem_flatMap.1 hrow
  have hfirst : ∀ a ∈ row, (0x80 : Int) ≤ a := by
    simpa using List.all_eq_true.1 (h line hline) row hmem
  have hle : 0x80 ≤ r.1 := by
    split at hnumbers
    · have ha := hfirst _ List.mem_cons_self
      cases hnumbers
      omega
    · have ha := hfirst _ List.mem_cons_self
      cases hnumbers
      omega
    · cases hnumbers
  simp
  omega

/-- the tables of the characters written from right to left begin beyond ASCII -/
theorem rightToLeft_beyondAscii : Table.BeyondAscii (rightClassText ++ (arabicClassText ++ arabicNumberClassText)) := by
  unfold Table.BeyondAscii rightClassText arabicClassText arabicNumberClassText
  simp only [List.cons_append, List.nil_append]
  repeat' refine List.forall_mem_cons.2 ⟨by rw [String.toList_ofList]; decide +kernel, ?_⟩
  exact List.forall_mem_nil _

end Unicode

namespace Url.Domain

open Unicode

variable {c : Char} {cs : List Char}

theorem isRightToLeft_of_ascii (hc : c.toNat < 0x80) : isRightToLeft c = false := by
  unfold isRightToLeft direction
  cases hfind : directions.find? fun d => Table.holds d.2 c.toNat with
  | none => rfl
  | some d =>
    have hholds : Table.holds d.2 c.toNat = true := by simpa using List.find?_some hfind
    have hbeyond {lines : List String}
        (hsub : lines ⊆ rightClassText ++ (arabicClassText ++ arabicNumberClassText)) :
        Table.holds (Table.ranges lines) c.toNat ≠ true := by
      have hlines : Table.BeyondAscii lines := fun line hline => rightToLeft_beyondAscii line (hsub hline)
      simp [hlines.holds_eq_false hc]
    have hmem := List.mem_of_find?_eq_some hfind
    unfold directions at hmem
    rcases List.mem_cons.1 hmem with rfl | hmem
    · exact absurd hholds (hbeyond (List.subset_append_left _ _))
    rcases List.mem_cons.1 hmem with rfl | hmem
    · exact absurd hholds (hbeyond (List.subset_append_of_subset_right _ (List.subset_append_left _ _)))
    rcases List.mem_cons.1 hmem with rfl | hmem
    · exact absurd hholds (hbeyond (List.subset_append_of_subset_right _ (List.subset_append_right _ _)))
    have hothers : ∀ x ∈ [Direction.europeanNumber, .europeanSeparator, .commonSeparator, .europeanTerminator, .neutral,
        .boundary, .mark, .other], [Direction.right, .arabic, .arabicNumber].contains x = false := by
      decide
    exact hothers d.1 (List.mem_map_of_mem (f := Prod.fst) hmem)

/-! ## Labels -/

/-- what holds of each character of ASCII -/
theorem forall_ascii {p : Char → Prop} (h : ∀ n < 0x80, p (Char.ofNat n)) (hc : c.toNat < 0x80) : p c := by
  have hp := h c.toNat hc
  rwa [Char.ofNat_toNat] at hp

theorem toLower_of_ascii (hc : c.toNat < 0x80) : c.toLower.toNat < 0x80 :=
  forall_ascii (p := fun c => c.toLower.toNat < 0x80) (by decide) hc

theorem normalForm?_of_ascii (h : ∀ c ∈ cs, c.toNat < 0x80) : normalForm? cs = some (cs.map Char.toLower) := by
  have hforms : cs.mapM domainForm? = some (cs.map fun c => [c.toLower]) := by
    induction cs with
    | nil => rfl
    | cons c cs ih =>
      rw [List.forall_mem_cons] at h
      rw [List.mapM_cons, domainForm?, if_pos h.1, ih h.2]
      rfl
  have hflat : (cs.map fun c => [c.toLower]).flatten = cs.map Char.toLower := by
    rw [← List.flatMap_def, ← List.map_eq_flatMap]
  rw [normalForm?, hforms, Option.map_some, hflat, normalForm_of_ascii]
  rw [List.forall_mem_map]
  exact fun c hc => toLower_of_ascii (h c hc)

theorem joinersFit_of_ascii (h : ∀ c ∈ cs, c.toNat < 0x80) (before : List Char) : joinersFit before cs = true := by
  induction cs generalizing before with
  | nil => rfl
  | cons c cs ih =>
    rw [List.forall_mem_cons] at h
    have hjoiner : c ≠ joiner := by
      rintro rfl
      exact absurd h.1 (by decide)
    have hnonJoiner : c ≠ nonJoiner := by
      rintro rfl
      exact absurd h.1 (by decide)
    rw [joinersFit]
    simp [hjoiner, hnonJoiner, ih h.2]

theorem isWellFormed_of_ascii (h : ∀ c ∈ cs, c.toNat < 0x80) : isWellFormed cs = true := by
  have hmark : cs.head?.any isMark = false := by
    cases cs with
    | nil => rfl
    | cons c cs =>
      have hc := h c List.mem_cons_self
      simp [isMark, hc]
  rw [isWellFormed, hmark, joinersFit_of_ascii h]
  rfl

/-- a label that is its own form in ASCII -/
def Label.self (cs : List Char) : Label :=
  ⟨cs, cs⟩

/-- a label in ASCII stands for itself, unless it is in Punycode -/
theorem readLabel?_of_ascii (h : ∀ c ∈ cs, c.toNat < 0x80) (hcode : asciiMark.isPrefixOf cs = false) :
    readLabel? cs = some (.self cs) := by
  have hbasic : cs.all Punycode.isBasic = true := by simpa [Punycode.isBasic] using h
  simp [readLabel?, hcode, isWellFormed_of_ascii h, hbasic, Label.self]

/-! ## Names -/

theorem mapM_readLabel?_of_ascii {pieces : List (List Char)} (h : ∀ piece ∈ pieces, ∀ c ∈ piece, c.toNat < 0x80)
    (hcode : ∀ piece ∈ pieces, asciiMark.isPrefixOf piece = false) :
    pieces.mapM readLabel? = some (pieces.map .self) := by
  induction pieces with
  | nil => rfl
  | cons piece pieces ih =>
    rw [List.forall_mem_cons] at h hcode
    rw [List.mapM_cons, readLabel?_of_ascii h.1 hcode.1, ih h.2 hcode.2]
    rfl

/-- **A name in ASCII comes to itself in small letters**, unless a character may not stand in a name. -/
theorem toAscii?_of_ascii (h : ∀ c ∈ cs, c.toNat < 0x80)
    (hcode : ∀ piece ∈ splitOn '.' (cs.map Char.toLower), asciiMark.isPrefixOf piece = false) :
    toAscii? cs = if (cs.map Char.toLower).any isForbidden then none else some (cs.map Char.toLower) := by
  have hlower : ∀ c ∈ cs.map Char.toLower, c.toNat < 0x80 :=
    List.forall_mem_map.2 fun c hc => toLower_of_ascii (h c hc)
  have hwhole : joinWith '.' (splitOn '.' (cs.map Char.toLower)) = cs.map Char.toLower := joinWith_splitOn _ _
  have hpieces : ∀ piece ∈ splitOn '.' (cs.map Char.toLower), ∀ c ∈ piece, c.toNat < 0x80 := by
    intro piece hpiece c hc
    by_cases hdot : c = '.'
    · rw [hdot]
      decide
    · exact hlower c (hwhole ▸ (mem_joinWith hdot).2 ⟨piece, hpiece, hc⟩)
  have hleft : ((splitOn '.' (cs.map Char.toLower)).map Label.self).any (·.text.any isRightToLeft) = false := by
    simpa [Label.self] using fun piece hpiece c hc => isRightToLeft_of_ascii (hpieces piece hpiece c hc)
  have hjoined : joinWith '.' (((splitOn '.' (cs.map Char.toLower)).map Label.self).map (·.ascii)) =
      cs.map Char.toLower := by
    rw [List.map_map, show (fun label : Label => label.ascii) ∘ Label.self = id from rfl, List.map_id, hwhole]
  simp only [toAscii?, normalForm?_of_ascii h, mapM_readLabel?_of_ascii hpieces hcode, hleft, hjoined,
    Option.bind_eq_bind, Option.bind_some, Option.bind_none, Option.pure_def, Option.failure_eq_none, Bool.false_and,
    Bool.false_eq_true, if_false]

end Url.Domain

namespace Url

/-- a host is the address that its name in ASCII writes down, if that ends in a number -/
theorem parseHost_of_address {cs ascii : List Char} {name : String} {address : UInt32}
    (hbracket : (cs.head? == some '[') = false) (hname : Text.ofUtf8? (percentDecode cs) = some name)
    (hascii : Domain.toAscii? name.toList = some ascii) (hnumber : Ipv4.endsInNumber ascii = true)
    (haddress : Ipv4.parse? ascii = some address) : parseHost cs = .ok (.ipv4 address) := by
  cases ascii with
  | nil => cases hnumber
  | cons c rest => simp [parseHost, hbracket, hname, hascii, hnumber, haddress]

theorem parseHost_loopback : parseHost "127.0.0.1".toList = .ok (.ipv4 0x7F000001) := by
  have hname : Text.ofUtf8? (percentDecode "127.0.0.1".toList) = some "127.0.0.1" := by decide +kernel
  have hascii : Domain.toAscii? "127.0.0.1".toList = some "127.0.0.1".toList := by
    have hsmall : "127.0.0.1".toList.all (·.toNat < 0x80) = true := by decide
    have hcode : ∀ piece ∈ splitOn '.' ("127.0.0.1".toList.map Char.toLower),
        Domain.asciiMark.isPrefixOf piece = false := by
      decide
    have hallowed : ("127.0.0.1".toList.map Char.toLower).any Domain.isForbidden = false := by decide
    rw [Domain.toAscii?_of_ascii (fun c hc => of_decide_eq_true (List.all_eq_true.1 hsmall c hc)) hcode, hallowed]
    rfl
  exact parseHost_of_address (by decide) hname hascii (by decide) (by decide)

/-- a special URL with a port is read once its host and its port are -/
theorem exists_parse_of_port {s : String} {scheme rest name port : List Char} {host : Host}
    {read : Option UInt16 × List Char} (hsplit : splitScheme (significant s.toList) = some (scheme, rest))
    (hspecial : syntaxOf (String.ofList scheme) = .special)
    (hplace : hostPart false (placeOf ((rest.dropWhile (isSlash true)).takeWhile (!endsAuthority true ·))) =
      (name, ':' :: port))
    (hempty : name.isEmpty = false) (hhost : parseHost name = .ok host)
    (hport : parsePort (String.ofList scheme) port = .ok read) :
    ∃ url, parse s = .ok url ∧ url.scheme = String.ofList scheme := by
  have hread : readPlace (String.ofList scheme)
      ((rest.dropWhile (isSlash true)).takeWhile (!endsAuthority true ·)) = .ok (host, read.1) := by
    rw [readPlace, hplace]
    simp only [hempty, hhost, behindColon, hport]
    rfl
  rw [parse_eq, ofSignificant, hsplit]
  simp only [hspecial, parseAuthority_special, hread]
  exact ⟨_, rfl, rfl⟩

theorem parse_loopback : ∃ url, parse "https://127.0.0.1:9080" = .ok url ∧ url.scheme = "https" := by
  have hsplit : splitScheme (significant "https://127.0.0.1:9080".toList) =
      some ("https".toList, "//127.0.0.1:9080".toList) := by
    decide
  have hplace : hostPart false (placeOf (("//127.0.0.1:9080".toList.dropWhile (isSlash true)).takeWhile
      (!endsAuthority true ·))) = ("127.0.0.1".toList, ':' :: "9080".toList) := by
    decide
  have hport : parsePort "https" "9080".toList = .ok (some 9080, []) := by decide
  exact exists_parse_of_port hsplit (by decide) hplace (by decide) parseHost_loopback hport

end Url

end LoadTrial
