/-
Names of hosts hold no blanks.

A blank or control character stands for itself in the normal form of a name: it is composed of nothing, and nothing is
composed of it (`mem_normalForm`). It comes through to the ASCII form of its label (`mem_ascii_of_readLabel?`), where it
is forbidden. So a name with one in it is refused (`toAscii?_of_blank`), and so is a host that ends in one
(`parseHost_of_blank`).
-/
import LoadTrial.Proofs.Url.Path
import LoadTrial.Proofs.Utf8

namespace LoadTrial

/-! ## Normal forms -/

namespace Unicode

/-- no row of the table has a blank among the parts, or a character of ASCII for the second part -/
theorem composedText_parts : ∀ line ∈ composedText,
    (Table.rowsFrom [] 0 false line.toList).all (fun row =>
      row.tail.all (0x20 < ·) && row.tail.tail.all (0x80 ≤ ·)) = true := by
  unfold composedText
  -- the text of a line is rewritten to its characters first: taking it apart is what costs
  repeat' refine List.forall_mem_cons.2 ⟨by rw [String.toList_ofList]; decide +kernel, ?_⟩
  exact fun _ h => nomatch h

/-- nothing is composed of blanks, and nothing has a second part in ASCII -/
theorem composed_parts {r : Nat × List Nat} (hr : r ∈ composed) :
    (∀ n ∈ r.2, 0x20 < n) ∧ ∀ n ∈ r.2.tail, 0x80 ≤ n := by
  obtain ⟨row, hrow, hnumbers⟩ := List.mem_filterMap.1 hr
  obtain ⟨line, hline, hmem⟩ := List.mem_flatMap.1 hrow
  have hparts := List.all_eq_true.1 (composedText_parts line hline) row hmem
  rw [Bool.and_eq_true, List.all_eq_true, List.all_eq_true] at hparts
  cases row with
  | nil => cases hnumbers
  | cons a rest =>
    cases hnumbers
    dsimp only
    rw [List.forall_mem_map, ← List.map_tail, List.forall_mem_map]
    refine ⟨fun m hm => ?_, fun m hm => ?_⟩
    · have hlt : (0x20 : Int) < m := by simpa using hparts.1 m hm
      omega
    · have hle : (0x80 : Int) ≤ m := by simpa using hparts.2 m hm
      omega

theorem syllable?_parts {a b n : Nat} (h : syllable? a b = some n) : 0x20 < a ∧ 0x80 ≤ b := by
  unfold syllable? leadBase vowelBase syllableBase tailBase at h
  split_ifs at h with hlead htail
  · simp only [Bool.and_eq_true, decide_eq_true_eq] at hlead
    omega
  · simp only [Bool.and_eq_true, decide_eq_true_eq] at htail
    omega

theorem compose?_parts {a b c : Char} (h : compose? a b = some c) : 0x20 < a.toNat ∧ 0x80 ≤ b.toNat := by
  rw [compose?] at h
  cases hsyllable : syllable? a.toNat b.toNat with
  | some n => exact syllable?_parts hsyllable
  | none =>
    rw [hsyllable] at h
    obtain ⟨r, hr, -⟩ := Option.map_eq_some_iff.1 h
    have hparts : r.2 = [a.toNat, b.toNat] := by simpa using List.find?_some hr
    obtain ⟨hfirst, hsecond⟩ := composed_parts (List.mem_of_find?_eq_some hr)
    exact ⟨hfirst _ (by simp [hparts]), hsecond _ (by simp [hparts])⟩

variable {c : Char} {cs : List Char}

theorem decompose_of_lt (h : c.toNat < 0xC0) : decompose c = [c] := by
  have hself : decomposeFrom 4 c.toNat = [c.toNat] := if_pos h
  rw [decompose, hself]
  exact congrArg ([·]) (Char.ofNat_toNat c)

theorem mem_insertMark {d : Char} : c ∈ insertMark d cs ↔ c = d ∨ c ∈ cs := by
  induction cs with
  | nil => simp [insertMark]
  | cons e cs ih =>
    rw [insertMark]
    split_ifs
    · rw [List.mem_cons, ih, List.mem_cons]
      tauto
    · exact List.mem_cons

theorem mem_order : c ∈ order cs ↔ c ∈ cs := by
  induction cs with
  | nil => rfl
  | cons d cs ih =>
    rw [order]
    split_ifs
    · rw [List.mem_cons, ih, List.mem_cons]
    · rw [mem_insertMark, ih, List.mem_cons]

/-- the character that the next one is put together with the starter to -/
def joined? (starter : Option Char) (marks : List Char) (c : Char) : Option Char :=
  starter.bind fun s => if marks.head?.any (combiningClass c ≤ combiningClass ·) then none else compose? s c

theorem composeFrom_cons (starter : Option Char) (marks : List Char) (c : Char) (cs : List Char) :
    composeFrom starter marks (c :: cs) = match joined? starter marks c with
      | some s => composeFrom (some s) marks cs
      | none =>
        if combiningClass c == 0 then starter.toList ++ marks.reverse ++ composeFrom (some c) [] cs
        else composeFrom starter (c :: marks) cs := by
  rw [composeFrom.eq_def]
  cases starter with
  | none => rfl
  | some s => cases marks <;> rfl

theorem joined?_parts {starter : Option Char} {marks : List Char} {s' : Char} (h : joined? starter marks c = some s') :
    (∀ s ∈ starter, 0x20 < s.toNat) ∧ 0x80 ≤ c.toNat := by
  obtain ⟨s, rfl, hjoin⟩ := Option.bind_eq_some_iff.1 h
  split_ifs at hjoin
  have hparts := compose?_parts hjoin
  exact ⟨fun t ht => by cases ht; exact hparts.1, hparts.2⟩

/-- what cannot be put together stays: in front, among the marks, or still to come -/
theorem mem_composeFrom (hc : c.toNat ≤ 0x20) {starter : Option Char} {marks : List Char}
    (h : c ∈ starter ∨ c ∈ marks ∨ c ∈ cs) : c ∈ composeFrom starter marks cs := by
  induction cs generalizing starter marks with
  | nil =>
    rw [composeFrom, List.mem_append, List.mem_reverse, Option.mem_toList]
    rcases h with h | h | h
    · exact .inl h
    · exact .inr h
    · cases h
  | cons d cs ih =>
    rw [composeFrom_cons]
    cases hjoined : joined? starter marks d with
    | some s =>
      obtain ⟨hstarter, hd⟩ := joined?_parts hjoined
      refine ih ?_
      rcases h with h | h | h
      · have hlt := hstarter c h
        omega
      · exact .inr (.inl h)
      · rcases List.mem_cons.1 h with rfl | h
        · omega
        · exact .inr (.inr h)
    | none =>
      dsimp only
      split_ifs
      · rw [List.mem_append, List.mem_append, List.mem_reverse, Option.mem_toList]
        rcases h with h | h | h
        · exact .inl (.inl h)
        · exact .inl (.inr h)
        · rcases List.mem_cons.1 h with rfl | h
          · exact .inr (ih (.inl rfl))
          · exact .inr (ih (.inr (.inr h)))
      · refine ih ?_
        rcases h with h | h | h
        · exact .inl h
        · exact .inr (.inl (List.mem_cons_of_mem d h))
        · rcases List.mem_cons.1 h with rfl | h
          · exact .inr (.inl List.mem_cons_self)
          · exact .inr (.inr h)

theorem mem_normalForm (hc : c.toNat ≤ 0x20) (h : c ∈ cs) : c ∈ normalForm cs := by
  refine mem_composeFrom hc (.inr (.inr (mem_order.2 (List.mem_flatMap.2 ⟨c, h, ?_⟩))))
  rw [decompose_of_lt (by omega)]
  exact List.mem_singleton_self c

end Unicode

namespace Url

/-- what holds of each of the blanks -/
theorem forall_blank {c : Char} {p : Char → Prop} (h : ∀ n < 0x21, p (Char.ofNat n)) (hc : isEdge c = true) : p c := by
  have hlt : c.toNat < 0x21 := by
    rw [isEdge, decide_eq_true_eq] at hc
    omega
  have hp := h c.toNat hlt
  rwa [Char.ofNat_toNat] at hp

/-! ## Labels -/

namespace Punycode

theorem prefix_scan (m : Nat) (e : Encoder) (c : Char) : e.out <+: (e.scan m c).out := by
  rw [Encoder.scan]
  split_ifs
  · exact List.prefix_rfl
  · exact List.prefix_append _ _
  · exact List.prefix_rfl

theorem prefix_foldl_scan (m : Nat) (text : List Char) (e : Encoder) :
    e.out <+: (text.foldl (Encoder.scan m) e).out := by
  induction text generalizing e with
  | nil => exact List.prefix_rfl
  | cons c text ih => exact (prefix_scan m e c).trans (ih _)

/-- what is written stays in front -/
theorem prefix_encodeFrom (text : List Char) (n : Nat) (e : Encoder) (ms : List Nat) :
    e.out <+: encodeFrom text n e ms := by
  induction ms generalizing n e with
  | nil => exact List.prefix_rfl
  | cons m ms ih =>
    refine List.IsPrefix.trans ?_ (ih (m + 1) _)
    exact prefix_foldl_scan m text { e with distance := e.distance + (m - n) * (e.count + 1) }

theorem mem_encode {c : Char} {text : List Char} (h : c ∈ text) (hc : isBasic c = true) : c ∈ encode text := by
  have hbasic : c ∈ text.filter isBasic := List.mem_filter.2 ⟨h, hc⟩
  refine (prefix_encodeFrom text 128 _ _).subset ?_
  rw [if_neg (by simpa using ⟨c, h, hc⟩)]
  exact List.mem_append_left _ hbasic

end Punycode

namespace Domain

variable {c : Char} {cs : List Char}

theorem joinWith_cons_cons (d : Char) (text next : List Char) (texts : List (List Char)) :
    joinWith d (text :: next :: texts) = text ++ d :: joinWith d (next :: texts) := by
  rw [joinWith, List.intersperse_cons_cons, List.flatten_cons, List.flatten_cons]
  rfl

/-- the characters of texts that are joined, but for the one between them -/
theorem mem_joinWith {d : Char} (hne : c ≠ d) {texts : List (List Char)} :
    c ∈ joinWith d texts ↔ ∃ text ∈ texts, c ∈ text := by
  induction texts with
  | nil => simp [joinWith]
  | cons text texts ih =>
    cases texts with
    | nil => simp [joinWith]
    | cons next texts =>
      rw [joinWith_cons_cons, List.mem_append, List.mem_cons, ih]
      simp [hne]

theorem mem_of_mapM {α β : Type} {f : α → Option β} {xs : List α} {ys : List β} (h : xs.mapM f = some ys) {x : α}
    (hx : x ∈ xs) : ∃ y ∈ ys, f x = some y := by
  induction xs generalizing ys with
  | nil => cases hx
  | cons z xs ih =>
    rw [List.mapM_cons] at h
    obtain ⟨y, hy, h⟩ := Option.bind_eq_some_iff.1 h
    obtain ⟨more, hmore, h⟩ := Option.bind_eq_some_iff.1 h
    cases h
    rcases List.mem_cons.1 hx with rfl | hx
    · exact ⟨y, List.mem_cons_self, hy⟩
    · obtain ⟨y', hy', hf⟩ := ih hmore hx
      exact ⟨y', List.mem_cons_of_mem y hy', hf⟩

/-- blanks stay in the normal form of a name -/
theorem mem_of_normalForm? {normal : List Char} (h : normalForm? cs = some normal) (hc : isEdge c = true)
    (hmem : c ∈ cs) : c ∈ normal := by
  have hle : c.toNat ≤ 0x20 := by simpa [isEdge] using hc
  obtain ⟨forms, hforms, rfl⟩ := Option.map_eq_some_iff.1 h
  obtain ⟨form, hform, hself⟩ := mem_of_mapM hforms hmem
  have hlower : c.toLower = c := forall_blank (p := fun c => c.toLower = c) (by decide) hc
  rw [Unicode.domainForm?, if_pos (by omega), hlower] at hself
  cases hself
  exact Unicode.mem_normalForm hle (List.mem_flatten.2 ⟨[c], hform, List.mem_singleton_self c⟩)

/-- blanks stay in the ASCII form of a label -/
theorem mem_ascii_of_readLabel? {label : Label} (h : readLabel? cs = some label) (hc : Punycode.isBasic c = true)
    (hmem : c ∈ cs) : c ∈ label.ascii := by
  unfold readLabel? at h
  split_ifs at h
  · dsimp only at h
    split_ifs at h
    split at h
    · cases h
    · split_ifs at h
      cases h
      exact hmem
  · cases h
    exact hmem
  · cases h
    exact List.mem_append_right _ (Punycode.mem_encode hmem hc)

/-- a name with a blank in it is refused -/
theorem toAscii?_of_blank (hc : isEdge c = true) (hmem : c ∈ cs) : toAscii? cs = none := by
  rw [← Option.not_isSome_iff_eq_none, Option.isSome_iff_exists]
  rintro ⟨ascii, hascii⟩
  rw [toAscii?] at hascii
  obtain ⟨normal, hnormal, hascii⟩ := Option.bind_eq_some_iff.1 hascii
  obtain ⟨labels, hlabels, hascii⟩ := Option.bind_eq_some_iff.1 hascii
  have hlt : c.toNat ≤ 0x20 := by simpa [isEdge] using hc
  have hdot : c ≠ '.' := by
    rintro rfl
    exact absurd hlt (by decide)
  have hsplit : c ∈ joinWith '.' (splitOn '.' normal) := by
    rw [joinWith_splitOn]
    exact mem_of_normalForm? hnormal hc hmem
  obtain ⟨piece, hpiece, hinPiece⟩ := (mem_joinWith hdot).1 hsplit
  obtain ⟨label, hlabel, hread⟩ := mem_of_mapM hlabels hpiece
  have hbasic : Punycode.isBasic c = true := by
    rw [Punycode.isBasic, decide_eq_true_eq]
    omega
  have hjoined : c ∈ joinWith '.' (labels.map (·.ascii)) :=
    (mem_joinWith hdot).2 ⟨label.ascii, List.mem_map_of_mem hlabel, mem_ascii_of_readLabel? hread hbasic hinPiece⟩
  have hforbidden : (joinWith '.' (labels.map (·.ascii))).any isForbidden = true :=
    List.any_eq_true.2 ⟨c, hjoined, by simp [isForbidden, hlt]⟩
  dsimp only at hascii
  rw [hforbidden, if_pos rfl] at hascii
  split_ifs at hascii <;> cases hascii

end Domain

/-! ## Hosts -/

variable {c : Char}

theorem toNat_lt_of_blank (hc : isEdge c = true) : c.toNat < 0x80 :=
  forall_blank (p := fun c => c.toNat < 0x80) (by decide) hc

theorem hexValue_of_blank (hc : isEdge c = true) : hexValue c = none :=
  forall_blank (p := fun c => hexValue c = none) (by decide) hc

/-- a blank at the end of a text stands for itself -/
theorem byte_mem_percentDecode (hc : isEdge c = true) {cs : List Char} (hlast : c ∈ cs.getLast?) :
    UInt8.ofNat c.toNat ∈ percentDecode cs := by
  fun_induction percentDecode cs with
  | case1 => cases hlast
  | case2 a b rest x y hb ha ih =>
    cases rest with
    | nil =>
      cases hlast
      exact absurd (hb.symm.trans (hexValue_of_blank hc)) (Option.some_ne_none y)
    | cons d rest => exact List.mem_cons_of_mem _ (ih hlast)
  | case3 a b rest hhex ih => exact List.mem_append_right _ (ih hlast)
  | case4 d rest hd ih =>
    cases rest with
    | nil =>
      cases hlast
      refine List.mem_append_left _ ((Text.mem_utf8_iff (toNat_lt_of_blank hc) _).2 ?_)
      simp
    | cons e rest => exact List.mem_append_right _ (ih hlast)

/-- a host that ends in a blank is refused -/
theorem parseHost_of_blank (hc : isEdge c = true) {cs : List Char} (hlast : c ∈ cs.getLast?) (host : Host) :
    parseHost cs ≠ .ok host := by
  intro h
  rw [parseHost] at h
  split_ifs at h with hbracket
  · have hclosed : c ≠ ']' := forall_blank (p := (· ≠ ']')) (by decide) hc
    rw [bracketed, if_neg (by simp [Option.mem_def.1 hlast, hclosed])] at h
    cases h
  · cases hname : Text.ofUtf8? (percentDecode cs) with
    | none =>
      rw [hname] at h
      cases h
    | some name =>
      have hmem : c ∈ name.toList := by
        rw [← Text.mem_utf8_iff (toNat_lt_of_blank hc), Text.utf8_of_ofUtf8? hname]
        exact byte_mem_percentDecode hc hlast
      rw [hname] at h
      dsimp only at h
      rw [Domain.toAscii?_of_blank hc hmem] at h
      cases h

end Url

end LoadTrial
